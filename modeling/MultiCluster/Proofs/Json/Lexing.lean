import MultiCluster.Json.Codec
import MultiCluster.Proofs.Text.Octets

namespace MultiCluster.Json

def Mode.tokens : Mode → List Char → List Token
  | mode, [] => mode.finish
  | mode, c :: rest => (mode.step c).1 ++ (mode.step c).2.tokens rest

theorem Lexer.tokens_foldl_push (mode : Mode) (found : List Token) (cs : List Char) :
    (cs.foldl push ⟨mode, found⟩).found.reverse ++ (cs.foldl push ⟨mode, found⟩).mode.finish =
      found.reverse ++ mode.tokens cs := by
  induction cs generalizing mode found with
  | nil => rfl
  | cons c rest ih =>
    rw [List.foldl_cons, push, ih, List.reverse_append, List.reverse_reverse, List.append_assoc]
    rfl

theorem tokens_eq (text : String) : tokens text = Mode.between.tokens text.toList :=
  Lexer.tokens_foldl_push .between [] text.toList

theorem octetTokens_octets (text : String) : octetTokens (Text.octets text) = tokens text := by
  rw [octetTokens, Text.symbols_octets, List.foldl_map]
  rfl

theorem Codec.readOctets_octets {α : Type} (c : Codec α) (text : String) :
    c.readOctets (Text.octets text) = c.read text := by
  rw [Codec.readOctets, Doc.readOctets, octetTokens_octets]
  rfl

namespace Number

theorem le_of_readDigits {value n : Nat} {cs : List Char} (h : Text.readDigits value cs = some n) :
    value ≤ n := by
  induction cs generalizing value with
  | nil => exact Nat.le_of_eq (Option.some.inj h)
  | cons c rest ih =>
    obtain ⟨d, -, hrest⟩ := Option.bind_eq_some_iff.mp h
    have := ih hrest
    omega

theorem takeFitting_digits {value n : Nat} {cs : List Char} (h : Text.readDigits value cs = some n)
    (hn : n < Text.limit64) :
    (digits cs).2 = [] ∧ takeFitting value (digits cs).1 = (n, (digits cs).1.length) := by
  induction cs generalizing value with
  | nil => exact ⟨rfl, congrArg (·, 0) (Option.some.inj h)⟩
  | cons c rest ih =>
    obtain ⟨d, hd, hrest⟩ := Option.bind_eq_some_iff.mp h
    have hfits : value * 10 + d < Text.limit64 := Nat.lt_of_le_of_lt (le_of_readDigits hrest) hn
    obtain ⟨hleft, htaken⟩ := ih hrest
    simp only [digits, hd, takeFitting, hfits, ↓reduceIte, htaken, List.length_cons]
    exact ⟨hleft, trivial⟩

theorem isDigit_digitChar {d : Nat} (h : d < 10) : isDigit d.digitChar = true := by
  rw [isDigit, Text.digit?_digitChar h]
  rfl

theorem toDigits_cases (n : Nat) :
    Nat.toDigits 10 n = ['0'] ∨ ∃ d ds, 0 < d ∧ d < 10 ∧ Nat.toDigits 10 n = d.digitChar :: ds ∧
      ∀ c ∈ ds, isDigit c = true := by
  induction n using Nat.strongRecOn with
  | ind n ih =>
    by_cases h : n < 10
    · rw [Nat.toDigits_of_lt_base h]
      by_cases hzero : n = 0
      · exact .inl (by rw [hzero]; rfl)
      · exact .inr ⟨n, [], by omega, h, rfl, fun c hc => absurd hc List.not_mem_nil⟩
    · rw [Nat.toDigits_of_base_le (by omega) (by omega)]
      rcases ih (n / 10) (by omega) with hzero | ⟨d, ds, hpos, hd, heq, hall⟩
      · have hread := Text.readDigits_toDigits (n / 10)
        rw [hzero] at hread
        have : 0 = n / 10 := Option.some.inj hread
        omega
      · refine .inr ⟨d, ds ++ [(n % 10).digitChar], hpos, hd, by rw [heq]; rfl, fun c hc => ?_⟩
        rw [List.mem_append, List.mem_singleton] at hc
        rcases hc with hearlier | rfl
        · exact hall c hearlier
        · exact isDigit_digitChar (Nat.mod_lt n (by omega))

theorem ofUnsigned_toDigits {n : Nat} (h : n < Text.limit64) :
    ofUnsigned false (Nat.toDigits 10 n) = .natural n := by
  obtain ⟨hleft, htaken⟩ := takeFitting_digits (Text.readDigits_toDigits n) h
  rw [ofUnsigned]
  generalize digits (Nat.toDigits 10 n) = read at hleft htaken ⊢
  obtain ⟨whole, rest⟩ := read
  obtain rfl : rest = [] := hleft
  have hsame : takeFitting 0 whole = (n, whole.length) := htaken
  simp [hsame, exponentSpelling]

theorem ofSpelling_toDigits {n : Nat} (h : n < Text.limit64) :
    ofSpelling (Nat.toDigits 10 n) = .natural n := by
  rw [← ofUnsigned_toDigits h]
  rcases toDigits_cases n with heq | ⟨d, ds, hpos, hd, heq, -⟩
  · rw [heq]
    rfl
  · rw [heq, ofSpelling]
    rintro rest hsign
    have hall : ∀ d, d < 10 → d.digitChar ≠ '-' := by decide
    exact hall d hd (List.cons.inj hsign).1

def EndsBefore (rest : List Char) : Prop :=
  ∀ c ∈ rest.head?, advance .zero c = .stop ∧ advance .whole c = .stop

end Number

namespace Mode

theorem tokens_number {phase : Number.Phase} (hphase : phase = .zero ∨ phase = .whole)
    (spelled : List Char) {rest : List Char} (h : Number.EndsBefore rest) :
    (number phase spelled).tokens rest =
      .number (Number.ofSpelling spelled.reverse) :: between.tokens rest := by
  cases rest with
  | nil => rcases hphase with rfl | rfl <;> rfl
  | cons c rest =>
    have hstop : Number.advance phase c = .stop := by
      rcases hphase with rfl | rfl
      · exact (h c rfl).1
      · exact (h c rfl).2
    simp only [tokens, step, hstop]
    rfl

theorem tokens_digits {ds : List Char} (hds : ∀ d ∈ ds, Number.isDigit d = true) (spelled : List Char)
    (rest : List Char) :
    (number .whole spelled).tokens (ds ++ rest) = (number .whole (ds.reverse ++ spelled)).tokens rest := by
  induction ds generalizing spelled with
  | nil => rfl
  | cons d more ih =>
    have hd : Number.advance .whole d = .next .whole := by
      simp only [Number.advance, hds d List.mem_cons_self, ↓reduceIte]
    rw [List.cons_append, tokens, step, hd, List.reverse_cons, List.append_assoc]
    exact ih (fun e he => hds e (List.mem_cons_of_mem d he)) (d :: spelled)

theorem tokens_toDigits {n : Nat} (hn : n < Text.limit64) {rest : List Char}
    (h : Number.EndsBefore rest) :
    between.tokens (Nat.toDigits 10 n ++ rest) = .number (.natural n) :: between.tokens rest := by
  rw [← Number.ofSpelling_toDigits hn]
  rcases Number.toDigits_cases n with heq | ⟨d, ds, hpos, hd, heq, hds⟩
  · rw [heq]
    exact tokens_number (.inl rfl) ['0'] h
  · have hstart : ∀ d, d < 10 → 0 < d → start d.digitChar = ([], .number .whole [d.digitChar]) := by
      decide
    rw [heq, List.cons_append, tokens, step, hstart d hd hpos, List.nil_append, tokens_digits hds,
      tokens_number (.inr rfl) _ h, List.reverse_append, List.reverse_reverse]
    rfl

theorem tokens_escaped {c d : Char} (h : escaped? c = some d) (pieces : List Piece) (rest : List Char) :
    (text pieces).tokens ('\\' :: c :: rest) = (text (.plain d :: pieces)).tokens rest := by
  simp [tokens, step, h]

theorem tokens_unit {n : Nat} (h : n < 32) (pieces : List Piece) (rest : List Char) :
    (text pieces).tokens
        (['\\', 'u', '0', '0', Nat.digitChar (n / 16), Nat.digitChar (n % 16)] ++ rest) =
      (text (.unit n :: pieces)).tokens rest := by
  have hhigh := Text.hexDigit?_digitChar (show n / 16 < 16 by omega)
  have hlow := Text.hexDigit?_digitChar (show n % 16 < 16 by omega)
  have hzero : Text.hexDigit? '0' = some 0 := rfl
  have hsum : n / 16 * 16 + n % 16 = n := by omega
  simp [tokens, step, escaped?, hhigh, hlow, hzero, hsum]

def named : List Char := ['"', '\\', '\x08', '\x0c', '\n', '\r', '\t']

def pieceOf (c : Char) : Piece := if c.toNat < 32 ∧ c ∉ named then .unit c.toNat else .plain c

theorem tokens_escape (c : Char) (pieces : List Piece) (rest : List Char) :
    (text pieces).tokens (Value.escape c ++ rest) = (text (pieceOf c :: pieces)).tokens rest := by
  by_cases hnamed : c ∈ named
  · have hplain : pieceOf c = .plain c := if_neg fun h => h.2 hnamed
    rw [hplain]
    simp only [named, List.mem_cons, List.not_mem_nil, or_false] at hnamed
    rcases hnamed with rfl | rfl | rfl | rfl | rfl | rfl | rfl <;> exact tokens_escaped rfl pieces rest
  · by_cases hcontrol : c.toNat < 32
    · have hunit : pieceOf c = .unit c.toNat := if_pos ⟨hcontrol, hnamed⟩
      rw [hunit, ← tokens_unit hcontrol]
      simp only [named, List.mem_cons, List.not_mem_nil, or_false, not_or] at hnamed
      simp only [Value.escape, hnamed, hcontrol, ↓reduceIte]
    · have hplain : pieceOf c = .plain c := if_neg fun h => hcontrol h.1
      simp only [named, List.mem_cons, List.not_mem_nil, or_false, not_or] at hnamed
      rw [hplain]
      simp [Value.escape, tokens, step, hnamed, hcontrol]

theorem tokens_flatMap_escape (cs : List Char) (pieces : List Piece) (rest : List Char) :
    (text pieces).tokens (cs.flatMap Value.escape ++ rest) =
      (text ((cs.map pieceOf).reverse ++ pieces)).tokens rest := by
  induction cs generalizing pieces with
  | nil => rfl
  | cons c more ih =>
    rw [List.flatMap_cons, List.append_assoc, tokens_escape, ih, List.map_cons, List.reverse_cons,
      List.append_assoc]
    rfl

theorem join_unit {n : Nat} (h : n < 0xD800) (pieces : List Piece) :
    Piece.join (.unit n :: pieces) = (Piece.join pieces).map (Char.ofNat n :: ·) := by
  have hhigh : Piece.isHigh n = false := by
    simp only [Piece.isHigh, Bool.and_eq_false_iff, decide_eq_false_iff_not]
    omega
  have hlow : Piece.isLow n = false := by
    simp only [Piece.isLow, Bool.and_eq_false_iff, decide_eq_false_iff_not]
    omega
  cases pieces with
  | nil => simp [Piece.join, hhigh, hlow]
  | cons piece more => cases piece <;> simp [Piece.join, hhigh, hlow]

theorem join_map_pieceOf (cs : List Char) : Piece.join (cs.map pieceOf) = some cs := by
  induction cs with
  | nil => rfl
  | cons c more ih =>
    rw [List.map_cons, pieceOf]
    split
    · rename_i hunit
      rw [join_unit (by omega), ih, Char.ofNat_toNat]
      rfl
    · rw [Piece.join, ih]
      rfl

theorem tokens_quoted (s : String) (rest : List Char) :
    between.tokens (Value.quoted s ++ rest) = .str (some s) :: between.tokens rest := by
  have hopen : between.tokens (Value.quoted s ++ rest) =
      (text []).tokens (s.toList.flatMap Value.escape ++ '"' :: rest) := by
    simp [Value.quoted, tokens, step, start, isBlank]
  rw [hopen, tokens_flatMap_escape, List.append_nil, tokens, step, if_pos rfl, List.reverse_reverse,
    join_map_pieceOf, Option.map_some, String.ofList_toList]
  rfl

theorem tokens_blanks {blanks : List Char} (h : ∀ c ∈ blanks, isBlank c = true) (rest : List Char) :
    between.tokens (blanks ++ rest) = between.tokens rest := by
  induction blanks with
  | nil => rfl
  | cons c more ih =>
    have hblank : between.step c = ([], between) := if_pos (h c List.mem_cons_self)
    rw [List.cons_append, tokens, hblank]
    exact ih fun d hd => h d (List.mem_cons_of_mem c hd)

end Mode

end MultiCluster.Json
