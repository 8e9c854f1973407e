import Mathlib.Data.List.Nodup
import MultiCluster.Proofs.Json.Contents

namespace MultiCluster

namespace Dict

variable {α : Type}

theorem insert_comm {x y : String × α} (h : x.1 ≠ y.1) (d : Dict α) :
    (d.insert x.1 x.2).insert y.1 y.2 = (d.insert y.1 y.2).insert x.1 x.2 := by
  refine ext_find? fun key => ?_
  simp only [find?_insert]
  grind

theorem ofList_perm {entries moved : List (String × α)} (hkeys : (entries.map Prod.fst).Nodup)
    (h : entries.Perm moved) : ofList entries = ofList moved := by
  refine h.foldl_eq' (fun x hx y hy d => ?_) empty
  by_cases hsame : x.1 = y.1
  · rw [List.inj_on_of_nodup_map hkeys hx hy hsame]
  · exact insert_comm hsame d

end Dict

namespace Json

abbrev Growth := Doc → Doc → Prop

namespace Doc

mutual

def repeatsNoKey : Doc → Bool
  | array items => repeatNoKey items
  | object members => decide (members.filterMap Prod.fst).Nodup && membersRepeatNoKey members
  | _ => true

def repeatNoKey : List Doc → Bool
  | [] => true
  | d :: rest => repeatsNoKey d && repeatNoKey rest

def membersRepeatNoKey : Members → Bool
  | [] => true
  | (_, d) :: rest => repeatsNoKey d && membersRepeatNoKey rest

end

theorem repeatsNoKey_array_iff {items : List Doc} :
    (array items).repeatsNoKey = true ↔ ∀ d ∈ items, d.repeatsNoKey = true := by
  rw [repeatsNoKey]
  induction items with
  | nil => simp [repeatNoKey]
  | cons d rest ih => simp [repeatNoKey, ih]

theorem repeatsNoKey_object_iff {members : Members} : (object members).repeatsNoKey = true ↔
    (members.filterMap Prod.fst).Nodup ∧ ∀ m ∈ members, m.2.repeatsNoKey = true := by
  have hall : membersRepeatNoKey members = true ↔ ∀ m ∈ members, m.2.repeatsNoKey = true := by
    induction members with
    | nil => simp [membersRepeatNoKey]
    | cons m rest ih => simp [membersRepeatNoKey, ih]
  simp [repeatsNoKey, hall]

inductive Shuffled : Growth
  | same (d : Doc) : Shuffled d d
  | array {items items' : List Doc} (hitems : List.Forall₂ Shuffled items items') :
    Shuffled (.array items) (.array items')
  | object {members moved members' : Members} (hkeys : moved.map Prod.fst = members.map Prod.fst)
    (hvalues : List.Forall₂ Shuffled (members.map Prod.snd) (moved.map Prod.snd))
    (hmoved : members'.Perm moved) : Shuffled (.object members) (.object members')

end Doc

section

variable {α β : Type} {R : α → β → Prop} {a : α} {b : β} {as : List α} {bs moved : List β}

theorem exists_of_mem_right (h : List.Forall₂ R as bs) (hb : b ∈ bs) : ∃ a ∈ as, R a b := by
  induction h with
  | nil => exact absurd hb List.not_mem_nil
  | cons hfirst _ ih =>
    rcases List.mem_cons.mp hb with rfl | hlater
    · exact ⟨_, List.mem_cons_self, hfirst⟩
    · obtain ⟨a, hmem, hrelated⟩ := ih hlater
      exact ⟨a, List.mem_cons_of_mem _ hmem, hrelated⟩

theorem exists_eq_singleton (h : List.Forall₂ R [a] bs) (hmoved : moved.Perm bs) :
    ∃ b, moved = [b] ∧ R a b := by
  obtain ⟨b, _, hb, hnil, rfl⟩ := List.forall₂_cons_left_iff.mp h
  obtain rfl := List.forall₂_nil_left_iff.mp hnil
  exact ⟨b, List.perm_singleton.mp hmoved, hb⟩

end

def InPlace (growth : Option String → Growth) : Members → Members → Prop :=
  List.Forall₂ fun m m' => m'.1 = m.1 ∧ growth m.1 m.2 m'.2

theorem inPlace_of_keys {growth : Growth} {members moved : Members}
    (hkeys : moved.map Prod.fst = members.map Prod.fst)
    (hvalues : List.Forall₂ growth (members.map Prod.snd) (moved.map Prod.snd)) :
    InPlace (fun _ => growth) members moved := by
  induction members generalizing moved with
  | nil =>
    obtain rfl := List.map_eq_nil_iff.mp hkeys
    exact .nil
  | cons m rest ih =>
    obtain ⟨m', more, rfl, hkey, hmore⟩ := List.map_eq_cons_iff.mp hkeys
    obtain ⟨hvalue, hrest⟩ := List.forall₂_cons.mp hvalues
    exact .cons ⟨hkey, hvalue⟩ (ih hmore hrest)

namespace Doc.Shuffled

variable {d d' : Doc}

theorem preserves (holds : Nat → Doc → Prop) (fits : Nat → Prop) (named : Option String → Prop)
    (harray : ∀ room items, holds room (.array items) ↔ fits room ∧ ∀ d ∈ items, holds (room - 1) d)
    (hobject : ∀ room members, holds room (.object members) ↔
      fits room ∧ ∀ m ∈ members, named m.1 ∧ holds (room - 1) m.2)
    (room : Nat) (h : Shuffled d d') (hd : holds room d) : holds room d' := by
  induction d using Doc.inductionOn generalizing d' room with
  | array items ih =>
    cases h with
    | same => exact hd
    | array hitems =>
      rw [harray] at hd ⊢
      refine ⟨hd.1, fun e' he' => ?_⟩
      obtain ⟨e, he, hgrown⟩ := exists_of_mem_right hitems he'
      exact ih e he _ hgrown (hd.2 e he)
  | object members ih =>
    cases h with
    | same => exact hd
    | object hkeys hvalues hmoved =>
      rw [hobject] at hd ⊢
      refine ⟨hd.1, fun m' hm' => ?_⟩
      obtain ⟨m, hm, hkey, hgrown⟩ :=
        exists_of_mem_right (inPlace_of_keys hkeys hvalues) (hmoved.mem_iff.mp hm')
      exact ⟨hkey ▸ (hd.2 m hm).1, ih m hm _ hgrown (hd.2 m hm).2⟩
  | other d hnot hnone =>
    cases h with
    | same => exact hd
    | array => exact absurd rfl (hnot _)
    | object => exact absurd rfl (hnone _)

theorem isHoldable {room : Nat} (h : Shuffled d d') (hd : d.isHoldable room = true) :
    d'.isHoldable room = true :=
  preserves (fun room d => d.isHoldable room = true) (0 < ·) (· ≠ none)
    (fun _ _ => isHoldable_array_iff) (fun _ _ => isHoldable_object_iff) room h hd

theorem isWhole (h : Shuffled d d') (hd : d.isWhole = true) : d'.isWhole = true := by
  refine preserves (fun _ d => d.isWhole = true) (fun _ => True) (fun _ => True) (fun _ items => ?_)
    (fun _ members => ?_) 0 h hd
  · simp [Doc.isWhole, areWhole_iff]
  · simp [Doc.isWhole, membersWhole_iff]

theorem eq_of_leaf (h : Shuffled d d') (harray : ∀ items, d ≠ .array items)
    (hobject : ∀ members, d ≠ .object members) : d' = d := by
  cases h with
  | same => rfl
  | array => exact absurd rfl (harray _)
  | object => exact absurd rfl (hobject _)

theorem of_object {members : Members} (h : Shuffled (.object members) d') : ∃ moved members',
    d' = .object members' ∧ InPlace (fun _ => Shuffled) members moved ∧ members'.Perm moved := by
  cases h with
  | same => exact ⟨members, members, rfl, List.forall₂_same.mpr fun m _ => ⟨rfl, .same m.2⟩, .refl _⟩
  | object hkeys hvalues hmoved => exact ⟨_, _, rfl, inPlace_of_keys hkeys hvalues, hmoved⟩

end Doc.Shuffled

def additionRoom : Nat := 120

def growthOf (known : List (String × Growth)) : Option String → Growth
  | none => Doc.Shuffled
  | some key => (Dict.lookup key known).getD Doc.Shuffled

def IsAddition (known : List (String × Growth)) (m : Option String × Doc) : Prop :=
  (∀ key ∈ known.map Prod.fst, m.1 ≠ some key) ∧ Keeps additionRoom m

def MembersGrow (known : List (String × Growth)) (members members' : Members) : Prop :=
  ∃ grown added, InPlace (growthOf known) members grown ∧ (∀ m ∈ added, IsAddition known m) ∧
    members'.Perm (grown ++ added)

inductive ItemsGrow : List Growth → List Doc → List Doc → Prop
  | nil (growths : List Growth) : ItemsGrow growths [] []
  | cons {growth : Growth} {growths : List Growth} {d d' : Doc} {items items' : List Doc}
    (first : growth d d') (rest : ItemsGrow growths items items') :
    ItemsGrow (growth :: growths) (d :: items) (d' :: items')

namespace Growth

inductive Record (known : List (String × Growth)) : Growth
  | object {members members' : Members} (h : MembersGrow known members members') :
    Record known (.object members) (.object members')
  | array {items items' : List Doc} (h : ItemsGrow (known.map Prod.snd) items items') :
    Record known (.array items) (.array items')

inductive Items (growth : Growth) : Growth
  | array {items items' : List Doc} (h : List.Forall₂ growth items items') :
    Items growth (.array items) (.array items')

inductive Optional (growth : Growth) : Growth
  | null : Optional growth .null .null
  | value {d d' : Doc} (hsome : d ≠ .null) (h : growth d d') : Optional growth d d'

inductive Beside {α : Type} (b : Json.Beside α) (known : String → List (String × Growth)) : Growth
  | object {tag : Doc} {v : Variant α} {members members' : Members}
    (htag : (some b.tagKey, tag) ∈ members) (hv : b.readTag tag = .ok v)
    (h : MembersGrow ((b.tagKey, Doc.Shuffled) :: known v.tag) members members') :
    Beside b known (.object members) (.object members')
  | array {tag : Doc} {v : Variant α} {items items' : List Doc} (hv : b.readTag tag = .ok v)
    (h : ItemsGrow ((known v.tag).map Prod.snd) items items') :
    Beside b known (.array (tag :: items)) (.array (tag :: items'))

-- Content that comes before its tag must be such as can be kept until then.
inductive Adjacent {α : Type} (a : Json.Adjacent α) (content : String → Growth) : Growth
  | object {tag : Doc} {kind : Kind α} {members members' : Members}
    (htag : (some a.tagKey, tag) ∈ members) (hkind : a.readTag tag = .ok kind)
    (h : MembersGrow [(a.tagKey, Doc.Shuffled), (a.contentKey, content kind.tag)] members members')
    (hkept : a.contentRoute members' = .kept →
      ∀ d ∈ a.contents members, d.isHoldable innerRoom = true) :
    Adjacent a content (.object members) (.object members')
  | array {tag d d' : Doc} {kind : Kind α} (hkind : a.readName tag = .ok kind)
    (h : content kind.tag d d') :
    Adjacent a content (.array [tag, d]) (.array [tag, d'])

end Growth

section

variable {name : String} {growth : Growth} {known : List (String × Growth)}
  {members members' : Members}

theorem growthOf_cons_of_eq : growthOf ((name, growth) :: known) (some name) = growth := by
  simp [growthOf, Dict.lookup]

theorem growthOf_cons_of_ne {key : Option String} (h : key ≠ some name) :
    growthOf ((name, growth) :: known) key = growthOf known key := by
  cases key with
  | none => rfl
  | some key =>
    have hne : name ≠ key := fun heq => h (congrArg some heq.symm)
    simp [growthOf, Dict.lookup, hne]

theorem InPlace.split (h : InPlace (growthOf ((name, growth) :: known)) members members') :
    List.Forall₂ growth (valuesAt name members) (valuesAt name members') ∧
      InPlace (growthOf known) (others name members) (others name members') := by
  induction h with
  | nil => exact ⟨.nil, .nil⟩
  | @cons m m' rest rest' hfirst hrest ih =>
    obtain ⟨hkey, hgrown⟩ := hfirst
    by_cases hname : m.1 = some name
    · rw [valuesAt_cons_of_eq hname, valuesAt_cons_of_eq (hkey.trans hname), others_cons_of_eq hname,
        others_cons_of_eq (hkey.trans hname)]
      rw [hname, growthOf_cons_of_eq] at hgrown
      exact ⟨.cons hgrown ih.1, ih.2⟩
    · have hname' : m'.1 ≠ some name := hkey ▸ hname
      rw [valuesAt_cons_of_ne hname, valuesAt_cons_of_ne hname', others_cons_of_ne hname,
        others_cons_of_ne hname']
      rw [growthOf_cons_of_ne hname] at hgrown
      exact ⟨ih.1, .cons ⟨hkey, hgrown⟩ ih.2⟩

theorem MembersGrow.split (h : MembersGrow ((name, growth) :: known) members members') :
    (∃ docs, List.Forall₂ growth (valuesAt name members) docs ∧ (valuesAt name members').Perm docs) ∧
      MembersGrow known (others name members) (others name members') := by
  obtain ⟨grown, added, hgrown, hadded, hmoved⟩ := h
  have hfresh : ∀ m ∈ added, m.1 ≠ some name := fun m hm =>
    (hadded m hm).1 name (List.mem_cons_self ..)
  obtain ⟨hvalues, hothers⟩ := hgrown.split
  refine ⟨⟨_, hvalues, ?_⟩, _, added, hothers, fun m hm => ?_, ?_⟩
  · exact (valuesAt_perm hmoved).trans (.of_eq (valuesAt_append_of_fresh hfresh))
  · exact ⟨fun key hkey => (hadded m hm).1 key (List.mem_cons_of_mem _ hkey), (hadded m hm).2⟩
  · exact (others_perm hmoved).trans (.of_eq (others_append_of_fresh hfresh))

theorem MembersGrow.skips (h : MembersGrow [] members members') (hskips : ∀ m ∈ members, Skips m) :
    ∀ m ∈ members', Skips m := by
  obtain ⟨grown, added, hgrown, hadded, hmoved⟩ := h
  intro m' hm'
  rcases List.mem_append.mp (hmoved.mem_iff.mp hm') with hold | hnew
  · obtain ⟨m, hm, hkey, hshuffled⟩ := exists_of_mem_right hgrown hold
    have hunknown : growthOf [] m.1 = Doc.Shuffled := by cases m.1 <;> rfl
    rw [hunknown] at hshuffled
    exact ⟨hkey ▸ (hskips m hm).1, hshuffled.isWhole (hskips m hm).2⟩
  · exact (hadded m' hnew).2.skips

def FitsWithin (depth : Nat) (growth : Growth) : Prop :=
  ∀ ⦃room d d'⦄, additionRoom + depth ≤ room → growth d d' → d.isHoldable room = true →
    d'.isHoldable room = true

theorem fitsWithin_shuffled (depth : Nat) : FitsWithin depth Doc.Shuffled :=
  fun _ _ _ _ h hd => h.isHoldable hd

theorem fitsWithin_growthOf {depth : Nat} (h : ∀ entry ∈ known, FitsWithin depth entry.2)
    (key : Option String) : FitsWithin depth (growthOf known key) := by
  induction known with
  | nil =>
    cases key with
    | none => exact fitsWithin_shuffled depth
    | some key => exact fitsWithin_shuffled depth
  | cons entry rest ih =>
    obtain ⟨hentry, hrest⟩ := List.forall_mem_cons.mp h
    by_cases hname : key = some entry.1
    · rw [hname, growthOf_cons_of_eq]
      exact hentry
    · rw [growthOf_cons_of_ne hname]
      exact ih hrest

theorem MembersGrow.keeps {depth room : Nat} (h : MembersGrow known members members')
    (hknown : ∀ entry ∈ known, FitsWithin depth entry.2) (hroom : additionRoom + depth ≤ room)
    (hkeeps : ∀ m ∈ members, Keeps room m) : ∀ m ∈ members', Keeps room m := by
  obtain ⟨grown, added, hgrown, hadded, hmoved⟩ := h
  intro m' hm'
  rcases List.mem_append.mp (hmoved.mem_iff.mp hm') with hold | hnew
  · obtain ⟨m, hm, hkey, hvalue⟩ := exists_of_mem_right hgrown hold
    exact ⟨hkey ▸ (hkeeps m hm).1, fitsWithin_growthOf hknown m.1 hroom hvalue (hkeeps m hm).2⟩
  · exact ⟨(hadded m' hnew).2.1, Doc.isHoldable_mono (by omega) (hadded m' hnew).2.2⟩

end

end Json

end MultiCluster
