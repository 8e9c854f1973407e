import MultiCluster.Proofs.Json.Lexing

namespace MultiCluster.Json

open Mode (between)

namespace Value

mutual

def Within : Nat → Value → Prop
  | _, number n => n < Text.limit64
  | 0, array _ => False
  | room + 1, array items => AllWithin room items
  | 0, object _ => False
  | room + 1, object members => MembersWithin room members
  | _, _ => True

def AllWithin : Nat → List Value → Prop
  | _, [] => True
  | room, item :: rest => Within room item ∧ AllWithin room rest

def MembersWithin : Nat → List (String × Value) → Prop
  | _, [] => True
  | room, (_, value) :: rest => Within room value ∧ MembersWithin room rest

end

mutual

def tokens : Value → List Token
  | null => [.null]
  | bool b => [.bool b]
  | number n => [.number (.natural n)]
  | str text => [.str (some text)]
  | array [] => [.openArray, .closeArray]
  | array (first :: rest) => .openArray :: (tokens first ++ itemTokens rest)
  | object [] => [.openObject, .closeObject]
  | object ((key, first) :: rest) =>
    .openObject :: .str (some key) :: .colon :: (tokens first ++ memberTokens rest)

def itemTokens : List Value → List Token
  | [] => [.closeArray]
  | item :: rest => .comma :: (tokens item ++ itemTokens rest)

def memberTokens : List (String × Value) → List Token
  | [] => [.closeObject]
  | (key, value) :: rest => .comma :: .str (some key) :: .colon :: (tokens value ++ memberTokens rest)

end

theorem endsBefore_cons {c : Char} (h : c ∈ [',', ']', '\x7d', '\n']) (rest : List Char) :
    Number.EndsBefore (c :: rest) := by
  rintro _ ⟨⟩
  simp only [List.mem_cons, List.not_mem_nil, or_false] at h
  rcases h with rfl | rfl | rfl | rfl <;> exact ⟨rfl, rfl⟩

theorem endsBefore_writeItems (items : List Value) (rest : List Char) :
    Number.EndsBefore (writeItems items ++ rest) := by
  cases items <;> exact endsBefore_cons (by simp) _

theorem endsBefore_writeMembers (members : List (String × Value)) (rest : List Char) :
    Number.EndsBefore (writeMembers members ++ rest) := by
  cases members <;> exact endsBefore_cons (by simp) _

mutual

theorem tokens_write : ∀ {v : Value} {room : Nat}, v.Within room → ∀ {rest : List Char},
    Number.EndsBefore rest → between.tokens (v.write ++ rest) = v.tokens ++ between.tokens rest
  | null, _, _, rest, _ => rfl
  | bool true, _, _, rest, _ => rfl
  | bool false, _, _, rest, _ => rfl
  | number n, _, hv, rest, h => Mode.tokens_toDigits (by simpa [Within] using hv) h
  | str text, _, _, rest, _ => Mode.tokens_quoted text rest
  | array [], _, _, rest, _ => rfl
  | array (first :: more), room + 1, hv, rest, _ => by
    obtain ⟨hfirst, hmore⟩ : first.Within room ∧ AllWithin room more := by
      simpa only [Within, AllWithin] using hv
    rw [write, List.cons_append, List.append_assoc]
    show Token.openArray :: between.tokens (first.write ++ (writeItems more ++ rest)) = _
    rw [tokens_write hfirst (endsBefore_writeItems more rest), tokens_writeItems hmore]
    simp only [tokens, List.cons_append, List.append_assoc]
  | object [], _, _, rest, _ => rfl
  | object ((key, first) :: more), room + 1, hv, rest, _ => by
    obtain ⟨hfirst, hmore⟩ : first.Within room ∧ MembersWithin room more := by
      simpa only [Within, MembersWithin] using hv
    simp only [write, List.cons_append, List.append_assoc]
    show Token.openObject :: between.tokens (quoted key ++ _) = _
    rw [Mode.tokens_quoted]
    show Token.openObject :: _ :: Token.colon :: between.tokens (first.write ++ _) = _
    rw [tokens_write hfirst (endsBefore_writeMembers more rest), tokens_writeMembers hmore]
    simp only [tokens, List.cons_append, List.append_assoc]

theorem tokens_writeItems : ∀ {items : List Value} {room : Nat}, AllWithin room items →
    ∀ {rest : List Char},
      between.tokens (writeItems items ++ rest) = itemTokens items ++ between.tokens rest
  | [], _, _, rest => rfl
  | item :: more, room, hitems, rest => by
    obtain ⟨hitem, hmore⟩ : item.Within room ∧ AllWithin room more := by
      simpa only [AllWithin] using hitems
    simp only [writeItems, List.cons_append, List.append_assoc]
    show Token.comma :: between.tokens (item.write ++ _) = _
    rw [tokens_write hitem (endsBefore_writeItems more rest), tokens_writeItems hmore]
    simp only [itemTokens, List.cons_append, List.append_assoc]

theorem tokens_writeMembers : ∀ {members : List (String × Value)} {room : Nat},
    MembersWithin room members → ∀ {rest : List Char},
      between.tokens (writeMembers members ++ rest) = memberTokens members ++ between.tokens rest
  | [], _, _, rest => rfl
  | (key, value) :: more, room, hmembers, rest => by
    obtain ⟨hvalue, hmore⟩ : value.Within room ∧ MembersWithin room more := by
      simpa only [MembersWithin] using hmembers
    simp only [writeMembers, List.cons_append, List.append_assoc]
    show Token.comma :: between.tokens (quoted key ++ _) = _
    rw [Mode.tokens_quoted]
    show Token.comma :: _ :: Token.colon :: between.tokens (value.write ++ _) = _
    rw [tokens_write hvalue (endsBefore_writeMembers more rest), tokens_writeMembers hmore]
    simp only [memberTokens, List.cons_append, List.append_assoc]

end

theorem tokens_line (depth : Nat) (rest : List Char) :
    between.tokens (line depth ++ rest) = between.tokens rest := by
  refine Mode.tokens_blanks (fun c hc => ?_) rest
  rcases List.mem_cons.mp hc with rfl | hspace
  · rfl
  · rw [List.eq_of_mem_replicate hspace]
    rfl

theorem endsBefore_layoutItems (depth : Nat) (items : List Value) (rest : List Char) :
    Number.EndsBefore (layoutItems depth items ++ rest) := by
  cases items <;> exact endsBefore_cons (by simp) _

theorem endsBefore_layoutMembers (depth : Nat) (members : List (String × Value)) (rest : List Char) :
    Number.EndsBefore (layoutMembers depth members ++ rest) := by
  cases members <;> exact endsBefore_cons (by simp) _

mutual

theorem tokens_layout : ∀ {v : Value} {room : Nat}, v.Within room → ∀ {depth : Nat} {rest : List Char},
    Number.EndsBefore rest → between.tokens (v.layout depth ++ rest) = v.tokens ++ between.tokens rest
  | null, _, hv, _, _, h => tokens_write hv h
  | bool _, _, hv, _, _, h => tokens_write hv h
  | number _, _, hv, _, _, h => tokens_write hv h
  | str _, _, hv, _, _, h => tokens_write hv h
  | array [], _, hv, _, _, h => tokens_write hv h
  | array (first :: more), room + 1, hv, depth, rest, _ => by
    obtain ⟨hfirst, hmore⟩ : first.Within room ∧ AllWithin room more := by
      simpa only [Within, AllWithin] using hv
    rw [layout, List.cons_append, List.append_assoc, List.append_assoc]
    show Token.openArray :: between.tokens (line (depth + 1) ++ _) = _
    rw [tokens_line, tokens_layout hfirst (endsBefore_layoutItems depth more rest),
      tokens_layoutItems hmore]
    simp only [tokens, List.cons_append, List.append_assoc]
  | object [], _, hv, _, _, h => tokens_write hv h
  | object ((key, first) :: more), room + 1, hv, depth, rest, _ => by
    obtain ⟨hfirst, hmore⟩ : first.Within room ∧ MembersWithin room more := by
      simpa only [Within, MembersWithin] using hv
    simp only [layout, List.cons_append, List.append_assoc]
    show Token.openObject :: between.tokens (line (depth + 1) ++ _) = _
    rw [tokens_line, Mode.tokens_quoted]
    show Token.openObject :: _ :: Token.colon :: between.tokens (first.layout (depth + 1) ++ _) = _
    rw [tokens_layout hfirst (endsBefore_layoutMembers depth more rest), tokens_layoutMembers hmore]
    simp only [tokens, List.cons_append, List.append_assoc]

theorem tokens_layoutItems : ∀ {items : List Value} {room : Nat}, AllWithin room items →
    ∀ {depth : Nat} {rest : List Char},
      between.tokens (layoutItems depth items ++ rest) = itemTokens items ++ between.tokens rest
  | [], _, _, depth, rest => by
    rw [layoutItems, List.append_assoc, tokens_line]
    rfl
  | item :: more, room, hitems, depth, rest => by
    obtain ⟨hitem, hmore⟩ : item.Within room ∧ AllWithin room more := by
      simpa only [AllWithin] using hitems
    simp only [layoutItems, List.cons_append, List.append_assoc]
    show Token.comma :: between.tokens (line (depth + 1) ++ _) = _
    rw [tokens_line, tokens_layout hitem (endsBefore_layoutItems depth more rest),
      tokens_layoutItems hmore]
    simp only [itemTokens, List.cons_append, List.append_assoc]

theorem tokens_layoutMembers : ∀ {members : List (String × Value)} {room : Nat},
    MembersWithin room members → ∀ {depth : Nat} {rest : List Char},
      between.tokens (layoutMembers depth members ++ rest) =
        memberTokens members ++ between.tokens rest
  | [], _, _, depth, rest => by
    rw [layoutMembers, List.append_assoc, tokens_line]
    rfl
  | (key, value) :: more, room, hmembers, depth, rest => by
    obtain ⟨hvalue, hmore⟩ : value.Within room ∧ MembersWithin room more := by
      simpa only [MembersWithin] using hmembers
    simp only [layoutMembers, List.cons_append, List.append_assoc]
    show Token.comma :: between.tokens (line (depth + 1) ++ _) = _
    rw [tokens_line, Mode.tokens_quoted]
    show Token.comma :: _ :: Token.colon :: between.tokens (value.layout (depth + 1) ++ _) = _
    rw [tokens_layout hvalue (endsBefore_layoutMembers depth more rest), tokens_layoutMembers hmore]
    simp only [memberTokens, List.cons_append, List.append_assoc]

end

end Value

namespace Reader

open Value (itemTokens memberTokens docs docMembers)

theorem feed_valueOrClose (v : Value) (frames : List Frame) (rest : List Token) :
    (v.tokens ++ rest).foldl feed (reading frames .valueOrClose) =
      (v.tokens ++ rest).foldl feed (reading frames .value) := by
  cases v with
  | array items => cases items <;> rfl
  | object members => cases members <;> rfl
  | _ => rfl

mutual

theorem feed_tokens : ∀ (v : Value) (frames : List Frame) (rest : List Token),
    (v.tokens ++ rest).foldl feed (reading frames .value) = rest.foldl feed (complete v.doc frames)
  | .null, _, _ => rfl
  | .bool _, _, _ => rfl
  | .number _, _, _ => rfl
  | .str _, _, _ => rfl
  | .array [], _, _ => rfl
  | .array (first :: more), frames, rest => by
    simp only [Value.tokens, List.cons_append, List.append_assoc]
    show (first.tokens ++ _).foldl feed (reading (.array [] :: frames) .valueOrClose) = _
    rw [feed_valueOrClose, feed_tokens first]
    exact feed_itemTokens more [first.doc] frames rest
  | .object [], _, _ => rfl
  | .object ((key, first) :: more), frames, rest => by
    simp only [Value.tokens, List.cons_append, List.append_assoc]
    show (first.tokens ++ _).foldl feed (reading (.member [] (some key) :: frames) .value) = _
    rw [feed_tokens first]
    exact feed_memberTokens more [(some key, first.doc)] frames rest

theorem feed_itemTokens : ∀ (items : List Value) (before : List Doc) (frames : List Frame)
    (rest : List Token),
    (itemTokens items ++ rest).foldl feed (reading (.array before :: frames) .commaOrClose) =
      rest.foldl feed (complete (.array (before.reverse ++ docs items)) frames)
  | [], before, frames, rest => by
    rw [docs, List.append_nil]
    rfl
  | item :: more, before, frames, rest => by
    simp only [itemTokens, List.cons_append, List.append_assoc]
    show (item.tokens ++ _).foldl feed (reading (.array before :: frames) .value) = _
    rw [feed_tokens item]
    refine (feed_itemTokens more (item.doc :: before) frames rest).trans ?_
    rw [List.reverse_cons, List.append_assoc]
    rfl

theorem feed_memberTokens : ∀ (members : List (String × Value)) (before : List (Option String × Doc))
    (frames : List Frame) (rest : List Token),
    (memberTokens members ++ rest).foldl feed (reading (.object before :: frames) .commaOrClose) =
      rest.foldl feed (complete (.object (before.reverse ++ docMembers members)) frames)
  | [], before, frames, rest => by
    rw [docMembers, List.append_nil]
    rfl
  | (key, value) :: more, before, frames, rest => by
    simp only [memberTokens, List.cons_append, List.append_assoc]
    show (value.tokens ++ _).foldl feed (reading (.member before (some key) :: frames) .value) = _
    rw [feed_tokens value]
    refine (feed_memberTokens more ((some key, value.doc) :: before) frames rest).trans ?_
    rw [List.reverse_cons, List.append_assoc]
    rfl

end

end Reader

namespace Value

def PrintedAs (v : Value) (text : String) : Prop :=
  ∃ blanks, (∀ c ∈ blanks, Mode.isBlank c = true) ∧
    (text.toList = v.write ++ blanks ∨ text.toList = v.layout 0 ++ blanks)

theorem printedAs_text (v : Value) : v.PrintedAs v.text :=
  ⟨[], fun _ hc => absurd hc List.not_mem_nil, .inl (by rw [List.append_nil, text, String.toList_ofList])⟩

theorem printedAs_indented (v : Value) : v.PrintedAs v.indented :=
  ⟨[], fun _ hc => absurd hc List.not_mem_nil,
    .inr (by rw [List.append_nil, indented, String.toList_ofList])⟩

theorem PrintedAs.append_newline {v : Value} {text : String} (h : v.PrintedAs text) :
    v.PrintedAs (text ++ "\n") := by
  obtain ⟨blanks, hblanks, htext⟩ := h
  refine ⟨blanks ++ ['\n'], fun c hc => ?_, ?_⟩
  · rcases List.mem_append.mp hc with hearlier | hlast
    · exact hblanks c hearlier
    · rw [List.mem_singleton.mp hlast]
      rfl
  · rw [String.toList_append, ← List.append_assoc, ← List.append_assoc]
    exact htext.imp (congrArg (· ++ _)) (congrArg (· ++ _))

theorem endsBefore_blanks {blanks : List Char} (h : ∀ c ∈ blanks, Mode.isBlank c = true) :
    Number.EndsBefore blanks := by
  cases blanks with
  | nil =>
    intro c hc
    exact absurd hc (by simp)
  | cons c rest =>
    have hblank := h c List.mem_cons_self
    simp only [Mode.isBlank, Bool.or_eq_true, decide_eq_true_eq] at hblank
    rintro _ ⟨⟩
    rcases hblank with ((rfl | rfl) | rfl) | rfl <;> exact ⟨rfl, rfl⟩

theorem tokens_of_printedAs {v : Value} {room : Nat} (hv : v.Within room) {text : String}
    (h : v.PrintedAs text) : Json.tokens text = v.tokens := by
  obtain ⟨blanks, hblanks, htext⟩ := h
  have hends := endsBefore_blanks hblanks
  have hnothing : between.tokens blanks = [] := by
    rw [← List.append_nil blanks, Mode.tokens_blanks hblanks]
    rfl
  rw [tokens_eq]
  rcases htext with htext | htext
  · rw [htext, tokens_write hv hends, hnothing, List.append_nil]
  · rw [htext, tokens_layout hv hends, hnothing, List.append_nil]

theorem read_of_printedAs {v : Value} {room : Nat} (hv : v.Within room) {text : String}
    (h : v.PrintedAs text) : Doc.read text = (v.doc, false) := by
  have hfeed := Reader.feed_tokens v [] []
  rw [List.append_nil] at hfeed
  rw [Doc.read, Doc.ofTokens, tokens_of_printedAs hv h, Reader.start, hfeed]
  rfl

end Value

end MultiCluster.Json
