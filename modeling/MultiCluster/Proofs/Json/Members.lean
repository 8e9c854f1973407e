import Mathlib.Data.List.Forall2
import Mathlib.Data.List.Perm.Basic
import MultiCluster.Json.Tagged

namespace MultiCluster.Json

universe u

abbrev Members := List (Option String × Doc)

def valuesAt (key : String) (members : Members) : List Doc :=
  (members.filter fun m => m.1 = some key).map Prod.snd

def others (key : String) (members : Members) : Members := members.filter fun m => m.1 ≠ some key

def Skips (m : Option String × Doc) : Prop := m.1 ≠ none ∧ m.2.isWhole = true

def Keeps (room : Nat) (m : Option String × Doc) : Prop := m.1 ≠ none ∧ m.2.isHoldable room = true

section

variable {key : String} {m : Option String × Doc} {members : Members}

@[simp] theorem valuesAt_nil : valuesAt key [] = [] := rfl

@[simp] theorem others_nil : others key [] = [] := rfl

theorem valuesAt_cons_of_eq (h : m.1 = some key) :
    valuesAt key (m :: members) = m.2 :: valuesAt key members := by
  simp [valuesAt, h]

theorem valuesAt_cons_of_ne (h : m.1 ≠ some key) : valuesAt key (m :: members) = valuesAt key members := by
  simp [valuesAt, h]

theorem others_cons_of_eq (h : m.1 = some key) : others key (m :: members) = others key members := by
  simp [others, h]

theorem others_cons_of_ne (h : m.1 ≠ some key) : others key (m :: members) = m :: others key members := by
  simp [others, h]

theorem valuesAt_perm {moved : Members} (h : members.Perm moved) :
    (valuesAt key members).Perm (valuesAt key moved) :=
  (h.filter _).map _

theorem others_perm {moved : Members} (h : members.Perm moved) :
    (others key members).Perm (others key moved) :=
  h.filter _

theorem valuesAt_append_of_fresh {more : Members} (h : ∀ m ∈ more, m.1 ≠ some key) :
    valuesAt key (members ++ more) = valuesAt key members := by
  have hnone : more.filter (fun m => m.1 = some key) = [] := by
    simpa only [List.filter_eq_nil_iff, decide_eq_true_eq] using h
  simp [valuesAt, hnone]

theorem others_append_of_fresh {more : Members} (h : ∀ m ∈ more, m.1 ≠ some key) :
    others key (members ++ more) = others key members ++ more := by
  have hall : more.filter (fun m => m.1 ≠ some key) = more := by
    simpa only [List.filter_eq_self, decide_eq_true_eq] using h
  rw [others, List.filter_append, hall, others]

theorem mem_valuesAt_iff {d : Doc} : d ∈ valuesAt key members ↔ (some key, d) ∈ members := by
  simp [valuesAt]

theorem mem_others_iff : m ∈ others key members ↔ m ∈ members ∧ m.1 ≠ some key := by
  simp [others]

end

namespace Doc

theorem inductionOn {motive : Doc → Prop} (array : ∀ items, (∀ d ∈ items, motive d) → motive (.array items))
    (object : ∀ members : Members, (∀ m ∈ members, motive m.2) → motive (.object members))
    (other : ∀ d, (∀ items, d ≠ .array items) → (∀ members, d ≠ .object members) → motive d) (d : Doc) :
    motive d := by
  match d with
  | .array items => exact array items fun d hd => inductionOn array object other d
  | .object members => exact object members fun m hm => inductionOn array object other m.2
  | .null | .bool _ | .number _ | .str _ | .broken | .misplaced _ => exact other _ (by simp) (by simp)
termination_by sizeOf d
decreasing_by
  · have := List.sizeOf_lt_of_mem hd
    simp
    omega
  · have := List.sizeOf_lt_of_mem hm
    obtain ⟨key, value⟩ := m
    simp at *
    omega

theorem areWhole_iff {items : List Doc} : areWhole items = true ↔ ∀ d ∈ items, d.isWhole = true := by
  induction items with
  | nil => simp [areWhole]
  | cons d rest ih => simp [areWhole, ih]

theorem membersWhole_iff {members : Members} :
    membersWhole members = true ↔ ∀ m ∈ members, m.2.isWhole = true := by
  induction members with
  | nil => simp [membersWhole]
  | cons m rest ih => simp [membersWhole, ih]

variable {room : Nat}

theorem areHoldable_iff {items : List Doc} :
    areHoldable room items = true ↔ ∀ d ∈ items, d.isHoldable room = true := by
  induction items with
  | nil => simp [areHoldable]
  | cons d rest ih => simp [areHoldable, ih]

theorem membersHoldable_iff {members : Members} :
    membersHoldable room members = true ↔ ∀ m ∈ members, Keeps room m := by
  induction members with
  | nil => simp [membersHoldable]
  | cons m rest ih => simp [membersHoldable, ih, Keeps, Option.isSome_iff_ne_none]

theorem isHoldable_array_iff {items : List Doc} :
    (array items).isHoldable room = true ↔ 0 < room ∧ ∀ d ∈ items, d.isHoldable (room - 1) = true := by
  simp [isHoldable, areHoldable_iff]

theorem isHoldable_object_iff {members : Members} :
    (object members).isHoldable room = true ↔ 0 < room ∧ ∀ m ∈ members, Keeps (room - 1) m := by
  simp [isHoldable, membersHoldable_iff]

theorem isHoldable_mono {d : Doc} {more : Nat} (hle : room ≤ more) (h : d.isHoldable room = true) :
    d.isHoldable more = true := by
  induction d using inductionOn generalizing room more with
  | array items ih =>
    rw [isHoldable_array_iff] at h ⊢
    exact ⟨Nat.lt_of_lt_of_le h.1 hle, fun d hd => ih d hd (Nat.sub_le_sub_right hle 1) (h.2 d hd)⟩
  | object members ih =>
    rw [isHoldable_object_iff] at h ⊢
    exact ⟨Nat.lt_of_lt_of_le h.1 hle,
      fun m hm => ⟨(h.2 m hm).1, ih m hm (Nat.sub_le_sub_right hle 1) (h.2 m hm).2⟩⟩
  | other d harray hobject => cases d <;> simp_all [isHoldable]

theorem isWhole_of_isHoldable {d : Doc} (h : d.isHoldable room = true) : d.isWhole = true := by
  induction d using inductionOn generalizing room with
  | array items ih =>
    rw [isHoldable_array_iff] at h
    simpa only [isWhole, areWhole_iff] using fun d hd => ih d hd (h.2 d hd)
  | object members ih =>
    rw [isHoldable_object_iff] at h
    simpa only [isWhole, membersWhole_iff] using fun m hm => ih m hm (h.2 m hm).2
  | other d harray hobject => cases d <;> simp_all [isWhole, isHoldable]

end Doc

theorem Keeps.skips {room : Nat} {m : Option String × Doc} (h : Keeps room m) : Skips m :=
  ⟨h.1, Doc.isWhole_of_isHoldable h.2⟩

def Fills {τ : Type u} (decode : Doc → Except Misfit τ) : Option τ → List Doc → Option τ → Prop
  | before, [], after => after = before
  | some _, _ :: _, _ => False
  | none, d :: rest, after => ∃ v, decode d = .ok v ∧ Fills decode (some v) rest after

section

variable {τ : Type u} {decode : Doc → Except Misfit τ} {docs : List Doc}

theorem fills_none_iff {after : Option τ} : Fills decode none docs after ↔
    docs = [] ∧ after = none ∨ ∃ d v, docs = [d] ∧ decode d = .ok v ∧ after = some v := by
  match docs with
  | [] => simp [Fills]
  | [d] => simp [Fills]
  | d :: e :: rest => simp [Fills]

theorem fills_some_iff {v : τ} {after : Option τ} :
    Fills decode (some v) docs after ↔ docs = [] ∧ after = some v := by
  cases docs with
  | nil => simp [Fills]
  | cons d rest => simp [Fills]

variable {key : String}

theorem takeOut_eq_ok_iff {before after : Option τ} {members left : Members} :
    takeOut key decode before members = .ok (after, left) ↔
      Fills decode before (valuesAt key members) after ∧ left = others key members ∧
        ∀ m ∈ others key members, Keeps innerRoom m := by
  induction members generalizing before left with
  | nil => simp [takeOut, Fills, eq_comm]
  | cons m rest ih =>
    obtain ⟨name, d⟩ := m
    by_cases hname : name = some key
    · subst hname
      rw [valuesAt_cons_of_eq rfl, others_cons_of_eq rfl]
      cases before with
      | some v => simp [takeOut, Fills]
      | none =>
        cases hd : decode d with
        | error e => simp [takeOut, Fills, hd]
        | ok v => simp [takeOut, Fills, hd, ih]
    · rw [valuesAt_cons_of_ne hname, others_cons_of_ne hname, List.forall_mem_cons]
      cases name with
      | none => simp [takeOut, Keeps]
      | some name =>
        have hne : name ≠ key := fun heq => hname (congrArg some heq)
        cases hheld : d.isHoldable innerRoom with
        | false => simp [takeOut, hne, hheld, Keeps]
        | true =>
          have hcons : takeOut key decode before ((some name, d) :: rest) = .ok (after, left) ↔
              ∃ more, takeOut key decode before rest = .ok (after, more) ∧
                left = (some name, d) :: more := by
            simp only [takeOut, hne, hheld, ↓reduceIte]
            cases takeOut key decode before rest with
            | error e => simp
            | ok taken => simp [Prod.ext_iff, eq_comm]
          simp only [hcons, ih, Keeps, hheld]
          grind

theorem takeOutRequired_eq_ok_iff {t : τ} {members left : Members} :
    takeOutRequired key decode members = .ok (t, left) ↔
      (∃ d, valuesAt key members = [d] ∧ decode d = .ok t) ∧ left = others key members ∧
        ∀ m ∈ others key members, Keeps innerRoom m := by
  have hrequired : takeOutRequired key decode members = .ok (t, left) ↔
      takeOut key decode none members = .ok (some t, left) := by
    rw [takeOutRequired]
    cases takeOut key decode none members with
    | error e => simp
    | ok taken =>
      obtain ⟨found, more⟩ := taken
      cases found <;> simp
  rw [hrequired, takeOut_eq_ok_iff, fills_none_iff]
  simp

end

theorem exists_ok_eq_iff {ε α : Type} {a : α} {p : α → Prop} :
    (∃ b, (.ok a : Except ε α) = .ok b ∧ p b) ↔ p a := by
  simp

namespace Fields

def Finds (route : Route) : {αs : List Type} → Fields αs → Draft αs → Members → Row αs → Prop
  | _, nil, _, members, _ => ∀ m ∈ members, Skips m
  | _, cons f rest, (found, draft), members, (v, vs) =>
    (∃ slot, Fills (f.codec.decode route) found (valuesAt f.name members) slot ∧
      slot.or f.whenAbsent = some v) ∧ rest.Finds route draft (others f.name members) vs

variable {αs : List Type} {fs : Fields αs} {route : Route} {draft : Draft αs} {row : Row αs}
  {members : Members}

theorem finds_nil_iff : fs.Finds route draft [] row ↔ fs.complete draft = .ok row := by
  induction fs with
  | nil => exact ⟨fun _ => rfl, fun _ => List.forall_mem_nil _⟩
  | cons f rest ih =>
    obtain ⟨found, draft⟩ := draft
    obtain ⟨v, vs⟩ := row
    simp only [Finds, complete, valuesAt_nil, others_nil, Fills, exists_eq_left, ih]
    cases found.or f.whenAbsent with
    | none => simp
    | some w =>
      cases rest.complete draft with
      | error e => simp
      | ok ws =>
        constructor
        · rintro ⟨hfirst, hrest⟩
          rw [Option.some.inj hfirst, Except.ok.inj hrest]
        · intro h
          obtain ⟨rfl, rfl⟩ := Prod.mk.inj (Except.ok.inj h)
          exact ⟨rfl, rfl⟩

theorem not_finds_of_unreadable {d : Doc} : ¬ fs.Finds route draft ((none, d) :: members) row := by
  induction fs generalizing members with
  | nil => simp [Finds, Skips]
  | cons f rest ih =>
    obtain ⟨found, draft⟩ := draft
    obtain ⟨v, vs⟩ := row
    rintro ⟨-, hrest⟩
    rw [others_cons_of_ne (by simp)] at hrest
    exact ih hrest

theorem finds_cons_iff {key : String} {d : Doc} :
    fs.Finds route draft ((some key, d) :: members) row ↔
      ∃ next, fs.place route key d draft = .ok next ∧ fs.Finds route next members row := by
  induction fs generalizing members with
  | nil => cases hd : d.isWhole <;> simp [Finds, place, Skips, hd]
  | cons f rest ih =>
    obtain ⟨found, draft⟩ := draft
    obtain ⟨v, vs⟩ := row
    by_cases hname : key = f.name
    · subst hname
      simp only [Finds, place, valuesAt_cons_of_eq, others_cons_of_eq, ↓reduceIte]
      cases found with
      | some v => simp [Fills]
      | none =>
        cases hd : f.codec.decode route d with
        | error e => simp [Fills, hd]
        | ok w =>
          refine Iff.trans ?_ exists_ok_eq_iff.symm
          simp [Finds, Fills, hd]
    · have hne : (some key, d).1 ≠ some f.name := fun heq => hname (Option.some.inj heq)
      simp only [Finds, place, hname, ↓reduceIte]
      rw [valuesAt_cons_of_ne hne, others_cons_of_ne hne, ih]
      cases rest.place route key d draft with
      | error e => simp
      | ok next =>
        refine Iff.trans ?_ exists_ok_eq_iff.symm
        simp [Finds]

theorem decodeObject_eq_ok_iff :
    fs.decodeObject route members = .ok row ↔ fs.Finds route fs.blank members row := by
  have hplaced (draft : Draft αs) : fs.Finds route draft members row ↔
      ∃ next, fs.placeAll route draft members = .ok next ∧ fs.complete next = .ok row := by
    induction members generalizing draft with
    | nil => simp [placeAll, finds_nil_iff]
    | cons m rest ih =>
      obtain ⟨name, d⟩ := m
      cases name with
      | none => simp [placeAll, not_finds_of_unreadable]
      | some name =>
        rw [finds_cons_iff, placeAll]
        cases fs.place route name d draft with
        | error e => simp
        | ok next => simp [ih]
  rw [hplaced, decodeObject]
  cases fs.placeAll route fs.blank members <;> simp

end Fields

namespace Codec

variable {α : Type} {decode : Doc → Except Misfit α}

theorem decodeItems_eq_ok_iff {items : List Doc} {vs : List α} :
    decodeItems decode items = .ok vs ↔ List.Forall₂ (fun d v => decode d = .ok v) items vs := by
  induction items generalizing vs with
  | nil => simp [decodeItems, eq_comm]
  | cons d rest ih =>
    simp only [decodeItems]
    cases hd : decode d with
    | error e => simp [List.forall₂_cons_left_iff, hd]
    | ok v =>
      cases hrest : decodeItems decode rest with
      | error e => simp [List.forall₂_cons_left_iff, hd, ← ih, hrest]
      | ok ws => simp [List.forall₂_cons_left_iff, hd, ← ih, hrest, eq_comm]

theorem decodeEntries_eq_ok_iff {before after : Dict α} {members : Members} :
    decodeEntries decode before members = .ok after ↔
      ∃ entries : List (String × α),
        List.Forall₂ (fun m e => m.1 = some e.1 ∧ decode m.2 = .ok e.2) members entries ∧
          after = entries.foldl (fun d e => d.insert e.1 e.2) before := by
  induction members generalizing before with
  | nil => simp [decodeEntries, eq_comm]
  | cons m rest ih =>
    obtain ⟨name, d⟩ := m
    cases name with
    | none => simp [decodeEntries, List.forall₂_cons_left_iff]
    | some key =>
      cases hd : decode d with
      | error e => simp [decodeEntries, List.forall₂_cons_left_iff, hd]
      | ok v =>
        simp only [decodeEntries, hd, ih]
        constructor
        · rintro ⟨entries, hrest, rfl⟩
          exact ⟨(key, v) :: entries, .cons ⟨rfl, hd⟩ hrest, rfl⟩
        · rintro ⟨_, hall, rfl⟩
          obtain ⟨e, entries, ⟨hkey, hv⟩, hrest, rfl⟩ := List.forall₂_cons_left_iff.mp hall
          obtain rfl := Option.some.inj hkey
          obtain rfl := Except.ok.inj (hd.symm.trans hv)
          exact ⟨entries, hrest, rfl⟩

end Codec

end MultiCluster.Json
