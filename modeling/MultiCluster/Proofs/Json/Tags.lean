import MultiCluster.Json.Tagged
import MultiCluster.Proofs.Json.Faithful

namespace MultiCluster.Json

universe u

open Value (docs docMembers AllWithin MembersWithin)

namespace Value

mutual

theorem isHoldable_doc : ∀ {v : Value} {room : Nat}, v.Within room → v.doc.isHoldable room = true
  | null, _, _ => rfl
  | bool _, _, _ => rfl
  | number n, _, _ => by simp [doc, Doc.isHoldable]
  | str _, _, _ => rfl
  | array items, room + 1, hv => by
    have hitems : AllWithin room items := by simpa only [Within] using hv
    simp only [doc, Doc.isHoldable, Nat.zero_lt_succ, decide_true, Bool.true_and, Nat.add_sub_cancel]
    exact areHoldable_docs hitems
  | object members, room + 1, hv => by
    have hmembers : MembersWithin room members := by simpa only [Within] using hv
    simp only [doc, Doc.isHoldable, Nat.zero_lt_succ, decide_true, Bool.true_and, Nat.add_sub_cancel]
    exact membersHoldable_docs hmembers

theorem areHoldable_docs : ∀ {items : List Value} {room : Nat}, AllWithin room items →
    Doc.areHoldable room (docs items) = true
  | [], _, _ => rfl
  | item :: more, room, hitems => by
    obtain ⟨hitem, hmore⟩ : item.Within room ∧ AllWithin room more := by
      simpa only [AllWithin] using hitems
    simp only [docs, Doc.areHoldable, isHoldable_doc hitem, areHoldable_docs hmore, Bool.and_self]

theorem membersHoldable_docs : ∀ {members : List (String × Value)} {room : Nat},
    MembersWithin room members → Doc.membersHoldable room (docMembers members) = true
  | [], _, _ => rfl
  | (key, value) :: more, room, hmembers => by
    obtain ⟨hvalue, hmore⟩ : value.Within room ∧ MembersWithin room more := by
      simpa only [MembersWithin] using hmembers
    simp only [docMembers, Doc.membersHoldable, Option.isSome_some, isHoldable_doc hvalue,
      membersHoldable_docs hmore, Bool.and_self]

end

end Value

section

variable {τ : Type u} {key : String} {decode : Doc → Except Misfit τ}

theorem takeOut_of_fresh {found : Option τ} {members : List (String × Value)}
    (hfresh : ∀ m ∈ members, m.1 ≠ key) (hwithin : ∀ m ∈ members, m.2.Within innerRoom) :
    takeOut key decode found (docMembers members) = .ok (found, docMembers members) := by
  induction members with
  | nil => rfl
  | cons m more ih =>
    have hname : m.1 ≠ key := hfresh m List.mem_cons_self
    have hheld : m.2.doc.isHoldable innerRoom = true :=
      Value.isHoldable_doc (hwithin m List.mem_cons_self)
    have hmore := ih (fun other hother => hfresh other (List.mem_cons_of_mem m hother))
      fun other hother => hwithin other (List.mem_cons_of_mem m hother)
    simp only [docMembers, takeOut, hname, hheld, hmore, ↓reduceIte]

theorem takeOutRequired_cons {first : Value} {t : τ} {members : List (String × Value)}
    (hfirst : decode first.doc = .ok t) (hfresh : ∀ m ∈ members, m.1 ≠ key)
    (hwithin : ∀ m ∈ members, m.2.Within innerRoom) :
    takeOutRequired key decode (docMembers ((key, first) :: members)) = .ok (t, docMembers members) := by
  simp only [takeOutRequired, docMembers, takeOut, ↓reduceIte, Option.isSome_none, Bool.false_eq_true,
    hfirst, takeOut_of_fresh hfresh hwithin]

end

section

variable {α : Type} {αs : List Type} {fs : Fields αs} {kept : Row αs → Row αs}

theorem Fields.Faithful.takeOutRequired {τ : Type u} {key : String} {decode : Doc → Except Misfit τ}
    {first : Value} {t : τ} (h : fs.Faithful innerRoom kept) (hfresh : key ∉ fs.names)
    (hfirst : decode first.doc = .ok t) (row : Row αs) :
    takeOutRequired key decode (docMembers ((key, first) :: fs.encode row)) =
      .ok (t, docMembers (fs.encode row)) := by
  refine takeOutRequired_cons hfirst (fun m hm heq => ?_) (h.within row)
  exact hfresh (heq ▸ name_of_mem_encode hm)

theorem Beside.decode_tagged (b : Beside α) {v : Variant α}
    (hv : choose Variant.tag b.variants v.tag = .ok v) {kept : Row v.types → Row v.types}
    (h : v.fields.Faithful innerRoom kept) (hfresh : b.tagKey ∉ v.fields.names) (row : Row v.types) :
    b.decode (Value.object ((b.tagKey, .str v.tag) :: v.fields.encode row)).doc =
      .ok (v.build (kept row)) := by
  have htag : b.readTag (Value.str v.tag).doc = .ok v := hv
  rw [Value.doc, Beside.decode, h.takeOutRequired hfresh htag]
  simp only [h.decodeObject]
  rfl

end

namespace Adjacent

variable {α : Type} {a : Adjacent α} {k : Kind α}

theorem decode_alone (hkind : choose Kind.tag a.kinds k.tag = .ok k) {title : String} {value : α}
    (hcontent : k.content = .nothing title value) :
    a.decode (Value.object [(a.tagKey, .str k.tag)]).doc = .ok value := by
  simp only [Value.doc, docMembers, decode, decodeObject, next, ↓reduceIte, readTag, hkind, alone,
    hcontent]

theorem decode_carried (hkeys : a.contentKey ≠ a.tagKey)
    (hkind : choose Kind.tag a.kinds k.tag = .ok k) {β : Type} {c : Codec β} {build : β → α}
    (hcontent : k.content = .of c build) {kept : β → β} {room : Nat} (h : c.Faithful kept room)
    (b : β) :
    a.decode (Value.object [(a.tagKey, .str k.tag), (a.contentKey, c.encode b)]).doc =
      .ok (build (kept b)) := by
  have hread : k.content.decode .direct (c.encode b).doc = .ok (build (kept b)) := by
    rw [hcontent, Content.of, Content.decode, h.decode_encode]
    rfl
  simp only [Value.doc, docMembers, decode, decodeObject, next, ↓reduceIte, readTag, hkind, hkeys, hread,
    conclude]

end Adjacent

end MultiCluster.Json
