import MultiCluster.Json.Record
import MultiCluster.Proofs.Json.Spelling

namespace MultiCluster.Json

open Value (docs docMembers AllWithin MembersWithin)

variable {α : Type} {room : Nat}

structure Codec.Faithful (c : Codec α) (kept : α → α) (room : Nat) : Prop where
  within : ∀ v, (c.encode v).Within room
  notNull : ∀ v, c.encode v ≠ .null
  decode_encode : ∀ route v, c.decode route (c.encode v).doc = .ok (kept v)
  encode_kept : ∀ v, c.encode (kept v) = c.encode v

structure Field.Faithful (f : Field α) (kept : α → α) (room : Nat) : Prop where
  within : ∀ v, f.isShown v = true → (f.codec.encode v).Within room
  decode_encode : ∀ v, f.isShown v = true → ∀ route,
    f.codec.decode route (f.codec.encode v).doc = .ok (kept v)
  whenAbsent : ∀ v, f.isShown v = false → f.whenAbsent = some (kept v)
  isShown_kept : ∀ v, f.isShown (kept v) = f.isShown v
  encode_kept : ∀ v, f.isShown v = true → f.codec.encode (kept v) = f.codec.encode v

namespace Value

theorem allWithin_iff {items : List Value} : AllWithin room items ↔ ∀ v ∈ items, v.Within room := by
  induction items with
  | nil => simp [AllWithin]
  | cons v rest ih => simp [AllWithin, ih]

theorem membersWithin_iff {members : List (String × Value)} :
    MembersWithin room members ↔ ∀ m ∈ members, m.2.Within room := by
  induction members with
  | nil => simp [MembersWithin]
  | cons m rest ih => simp [MembersWithin, ih]

end Value

namespace Codec

variable {c : Codec α} {kept : α → α}

theorem Faithful.read (h : c.Faithful kept room) {v : α} {text : String}
    (htext : (c.encode v).PrintedAs text) : c.read text = .ok (kept v) := by
  simp only [Codec.read, Codec.ofDoc, Value.read_of_printedAs (h.within v) htext, h.decode_encode]
  rfl

structure RoundTrips (c : Codec α) (kept : α → α) : Prop where
  read_write : ∀ v, c.read (c.write v) = .ok (kept v)
  read_indented : ∀ v, c.read (c.encode v).indented = .ok (kept v)
  encode_kept : ∀ v, c.encode (kept v) = c.encode v

theorem Faithful.roundTrips (h : c.Faithful kept room) : c.RoundTrips kept where
  read_write v := h.read (Value.printedAs_text (c.encode v))
  read_indented v := h.read (Value.printedAs_indented (c.encode v))
  encode_kept := h.encode_kept

theorem faithful_text : Codec.text.Faithful id room where
  within _ := by simp [Codec.text, Value.Within]
  notNull _ := by simp [Codec.text]
  decode_encode _ _ := rfl
  encode_kept _ := rfl

theorem faithful_bool : Codec.bool.Faithful id room where
  within _ := by simp [Codec.bool, Value.Within]
  notNull _ := by simp [Codec.bool]
  decode_encode _ _ := rfl
  encode_kept _ := rfl

theorem faithful_word : Codec.word.Faithful id room where
  within n := by
    have := n.toNat_lt
    simp only [Codec.word, Value.Within, Text.limit64]
    omega
  notNull _ := by simp [Codec.word]
  decode_encode route n := by
    have hn : n.toNat < UInt32.size := n.toNat_lt
    have hsame : UInt32.ofNat n.toNat = n := UInt32.ofNat_toNat
    simp only [Codec.word, Value.doc, hn, ↓reduceIte, hsame]
    rfl
  encode_kept _ := rfl

theorem Faithful.wrapped {β : Type} (h : c.Faithful id room) {wrap : α → β} {unwrap : β → α}
    (hwrap : ∀ b, wrap (unwrap b) = b) : (c.wrapped wrap unwrap).Faithful id room where
  within b := h.within (unwrap b)
  notNull b := h.notNull (unwrap b)
  decode_encode route b := by
    show (c.decode route (c.encode (unwrap b)).doc).map wrap = _
    rw [h.decode_encode]
    exact congrArg Except.ok (hwrap b)
  encode_kept _ := rfl

theorem Faithful.decodeItems (h : c.Faithful kept room) (route : Route) (vs : List α) :
    decodeItems (c.decode route) (docs (vs.map c.encode)) = .ok (vs.map kept) := by
  induction vs with
  | nil => rfl
  | cons v rest ih =>
    simp only [List.map_cons, docs, Codec.decodeItems, h.decode_encode, ih]

theorem Faithful.list (h : c.Faithful kept room) : c.list.Faithful (List.map kept) (room + 1) where
  within vs := by
    simp only [Codec.list, Value.Within, Value.allWithin_iff, List.forall_mem_map]
    exact fun v _ => h.within v
  notNull _ := by simp [Codec.list]
  decode_encode route vs := h.decodeItems route vs
  encode_kept vs := by
    simp only [Codec.list, List.map_map, Function.comp_def, h.encode_kept]

theorem Faithful.listOfPlain (h : c.Faithful id room) : c.list.Faithful id (room + 1) := by
  have hlist := h.list
  rwa [List.map_id_fun] at hlist

theorem Faithful.decodeEntries (h : c.Faithful id room) (route : Route) (d : Dict α)
    (entries : List (String × α)) :
    decodeEntries (c.decode route) d (docMembers (entries.map fun e => (e.1, c.encode e.2))) =
      .ok (entries.foldl (fun d e => d.insert e.1 e.2) d) := by
  induction entries generalizing d with
  | nil => rfl
  | cons e rest ih =>
    simp only [List.map_cons, docMembers, Codec.decodeEntries, h.decode_encode]
    exact ih (d.insert e.1 e.2)

theorem Faithful.dict (h : c.Faithful id room) : c.dict.Faithful id (room + 1) where
  within d := by
    simp only [Codec.dict, Value.Within, Value.membersWithin_iff, List.forall_mem_map]
    exact fun e _ => h.within e.2
  notNull _ := by simp [Codec.dict]
  decode_encode route d := by
    refine (h.decodeEntries route .empty d.entries).trans ?_
    exact congrArg Except.ok (Dict.ofList_entries d)
  encode_kept _ := rfl

theorem decode_option_of_ne_null {v : Value} (h : v ≠ .null) (route : Route) :
    c.option.decode route v.doc = (c.decode route v.doc).map some := by
  cases v with
  | null => exact absurd rfl h
  | _ => simp only [Codec.option, Value.doc]

end Codec

namespace Field

variable {c : Codec α} {kept : α → α} (name : String)

theorem faithful_required (h : c.Faithful kept room) : (required name c).Faithful kept room where
  within v _ := h.within v
  decode_encode v _ route := h.decode_encode route v
  whenAbsent _ hhidden := absurd hhidden (by simp [required])
  isShown_kept _ := rfl
  encode_kept v _ := h.encode_kept v

theorem faithful_withDefault (h : c.Faithful kept room) (value : α) :
    (withDefault name c value).Faithful kept room where
  within v _ := h.within v
  decode_encode v _ route := h.decode_encode route v
  whenAbsent _ hhidden := absurd hhidden (by simp [withDefault])
  isShown_kept _ := rfl
  encode_kept v _ := h.encode_kept v

theorem faithful_optional (h : c.Faithful id room) : (optional name c).Faithful id room where
  within o hshown := by
    obtain ⟨v, rfl⟩ := Option.isSome_iff_exists.mp hshown
    exact h.within v
  decode_encode o hshown route := by
    obtain ⟨v, rfl⟩ := Option.isSome_iff_exists.mp hshown
    show c.option.decode route (c.encode v).doc = _
    rw [Codec.decode_option_of_ne_null (h.notNull v), h.decode_encode]
    rfl
  whenAbsent o hhidden := by
    obtain rfl : o = none := Option.not_isSome_iff_eq_none.mp (Bool.not_eq_true _ ▸ hhidden)
    rfl
  isShown_kept _ := rfl
  encode_kept _ _ := rfl

theorem faithful_hidden : (hidden name c).Faithful (fun _ => none) room where
  within _ hshown := absurd hshown (by simp [hidden])
  decode_encode _ hshown := absurd hshown (by simp [hidden])
  whenAbsent _ _ := rfl
  isShown_kept _ := rfl
  encode_kept _ hshown := absurd hshown (by simp [hidden])

end Field

def Fields.names : {αs : List Type} → Fields αs → List String
  | _, .nil => []
  | _, .cons f rest => f.name :: rest.names

inductive Fields.Faithful (room : Nat) :
    {αs : List Type} → Fields αs → (Row αs → Row αs) → Prop where
  | nil : Faithful room .nil id
  | cons {α : Type} {αs : List Type} {f : Field α} {rest : Fields αs} {kept : α → α}
      {keptRest : Row αs → Row αs} (first : f.Faithful kept room) (fresh : f.name ∉ rest.names)
      (others : Faithful room rest keptRest) :
      Faithful room (.cons f rest) fun row => (kept row.1, keptRest row.2)

namespace Fields

variable {αs : List Type} {fs : Fields αs} {kept : Row αs → Row αs}

theorem name_of_mem_encode {row : Row αs} {m : String × Value} (hm : m ∈ fs.encode row) :
    m.1 ∈ fs.names := by
  induction fs with
  | nil => exact absurd hm List.not_mem_nil
  | cons f rest ih =>
    obtain ⟨v, vs⟩ := row
    simp only [encode] at hm
    split at hm
    · rcases List.mem_cons.mp hm with rfl | hlater
      · exact List.mem_cons_self
      · exact List.mem_cons_of_mem _ (ih hlater)
    · exact List.mem_cons_of_mem _ (ih hm)

theorem placeAll_cons {f : Field α} {rest : Fields αs} (route : Route) (found : Option α)
    (draft : Draft αs) {members : List (String × Value)} (h : ∀ m ∈ members, m.1 ≠ f.name) :
    (cons f rest).placeAll route (found, draft) (docMembers members) =
      match rest.placeAll route draft (docMembers members) with
      | .ok draft => .ok (found, draft)
      | .error e => .error e := by
  induction members generalizing draft with
  | nil => rfl
  | cons m more ih =>
    have hname : m.1 ≠ f.name := h m List.mem_cons_self
    simp only [docMembers, placeAll, place, hname, ↓reduceIte]
    cases rest.place route m.1 m.2.doc draft with
    | error e => rfl
    | ok draft => exact ih draft fun other hother => h other (List.mem_cons_of_mem m hother)

theorem placeAll_of_shown {f : Field α} {rest : Fields αs} (hf : f.Faithful keptField room) {v : α}
    (hshown : f.isShown v = true) (route : Route) (draft : Draft αs) (members : List (String × Value)) :
    (cons f rest).placeAll route (none, draft) (docMembers ((f.name, f.codec.encode v) :: members)) =
      (cons f rest).placeAll route (some (keptField v), draft) (docMembers members) := by
  simp only [docMembers, placeAll, place, ↓reduceIte, hf.decode_encode v hshown, Option.isSome_none,
    Bool.false_eq_true]

theorem Faithful.decodeObject (h : fs.Faithful room kept) (route : Route) (row : Row αs) :
    fs.decodeObject route (docMembers (fs.encode row)) = .ok (kept row) := by
  induction h with
  | nil => rfl
  | @cons α αs f rest keptField keptRest hf hfresh hrest ih =>
    obtain ⟨v, vs⟩ := row
    have hothers : ∀ m ∈ rest.encode vs, m.1 ≠ f.name := by
      rintro m hm heq
      exact hfresh (heq ▸ name_of_mem_encode hm)
    have hrow := ih vs
    unfold Fields.decodeObject at hrow ⊢
    simp only [encode, blank]
    cases hplaced : rest.placeAll route rest.blank (docMembers (rest.encode vs)) with
    | error e =>
      rw [hplaced] at hrow
      exact absurd hrow (by simp)
    | ok draft =>
      simp only [hplaced] at hrow
      cases hshown : f.isShown v with
      | true =>
        rw [if_pos rfl, placeAll_of_shown hf hshown, placeAll_cons route _ _ hothers, hplaced]
        simp only [complete, Option.some_or, hrow]
      | false =>
        rw [if_neg Bool.false_ne_true, placeAll_cons route _ _ hothers, hplaced]
        simp only [complete, Option.none_or, hf.whenAbsent v hshown, hrow]

theorem Faithful.encode_kept (h : fs.Faithful room kept) (row : Row αs) :
    fs.encode (kept row) = fs.encode row := by
  induction h with
  | nil => rfl
  | @cons α αs f rest keptField keptRest hf hfresh hrest ih =>
    obtain ⟨v, vs⟩ := row
    simp only [encode, hf.isShown_kept, ih]
    split
    · rename_i hshown
      rw [hf.encode_kept v hshown]
    · rfl

theorem Faithful.within (h : fs.Faithful room kept) (row : Row αs) :
    ∀ m ∈ fs.encode row, m.2.Within room := by
  induction h with
  | nil =>
    intro m hm
    exact absurd hm List.not_mem_nil
  | @cons α αs f rest keptField keptRest hf hfresh hrest ih =>
    obtain ⟨v, vs⟩ := row
    intro m hm
    simp only [encode] at hm
    split at hm
    · rename_i hshown
      rcases List.mem_cons.mp hm with rfl | hlater
      · exact hf.within v hshown
      · exact ih vs m hlater
    · exact ih vs m hm

end Fields

theorem Codec.faithful_record {β : Type} {αs : List Type} {fs : Fields αs} {kept : Row αs → Row αs}
    {toRow : β → Row αs} {ofRow : Row αs → β} {keptWhole : β → β} (title : String)
    (h : fs.Faithful room kept) (hof : ∀ b, ofRow (kept (toRow b)) = keptWhole b)
    (hto : ∀ b, toRow (keptWhole b) = kept (toRow b)) :
    (Codec.record title fs toRow ofRow).Faithful keptWhole (room + 1) where
  within b := by
    simp only [Codec.record, Value.Within, Value.membersWithin_iff]
    exact h.within (toRow b)
  notNull _ := by simp [Codec.record]
  decode_encode route b := by
    simp only [Codec.record, Value.doc, Fields.decode, h.decodeObject]
    exact congrArg Except.ok (hof b)
  encode_kept b := by simp only [Codec.record, hto, h.encode_kept]

end MultiCluster.Json
