namespace MultiCluster

def KeysIncrease {α : Type} (entries : List (String × α)) : Prop :=
  entries.Pairwise (fun a b => a.1 < b.1)

instance {α : Type} (entries : List (String × α)) : Decidable (KeysIncrease entries) :=
  inferInstanceAs (Decidable (List.Pairwise _ _))

structure Dict (α : Type) where
  entries : List (String × α)
  increasing : KeysIncrease entries
  deriving DecidableEq, Repr

namespace Dict

variable {α : Type}

def empty : Dict α := ⟨[], .nil⟩

instance : Inhabited (Dict α) := ⟨empty⟩

def lookup (key : String) : List (String × α) → Option α
  | [] => none
  | (k, v) :: rest => if k = key then some v else lookup key rest

def place (key : String) (value : α) : List (String × α) → List (String × α)
  | [] => [(key, value)]
  | (k, v) :: rest =>
    if key < k then (key, value) :: (k, v) :: rest
    else if k = key then (key, value) :: rest
    else (k, v) :: place key value rest

theorem mem_place {key : String} {value : α} {entries : List (String × α)} {e : String × α}
    (h : e ∈ place key value entries) : e = (key, value) ∨ e ∈ entries := by
  induction entries with
  | nil => simpa [place] using h
  | cons head rest ih =>
    obtain ⟨k, v⟩ := head
    simp only [place] at h
    split at h
    · simpa using h
    · split at h
      · grind
      · grind

theorem keysIncrease_place (key : String) (value : α) {entries : List (String × α)}
    (h : KeysIncrease entries) : KeysIncrease (place key value entries) := by
  unfold KeysIncrease at *
  induction entries with
  | nil => simp [place]
  | cons head rest ih =>
    obtain ⟨k, v⟩ := head
    rw [List.pairwise_cons] at h
    simp only [place]
    split
    · rename_i hlt
      refine List.pairwise_cons.mpr ⟨fun e he => ?_, List.pairwise_cons.mpr h⟩
      rcases List.mem_cons.mp he with rfl | he
      · exact hlt
      · exact String.lt_trans hlt (h.1 e he)
    · split
      · rename_i heq
        subst heq
        exact List.pairwise_cons.mpr h
      · rename_i hlt hne
        refine List.pairwise_cons.mpr ⟨fun e he => ?_, ih h.2⟩
        rcases mem_place he with rfl | he
        · show k < key
          grind
        · exact h.1 e he

def find? (d : Dict α) (key : String) : Option α := lookup key d.entries

def insert (d : Dict α) (key : String) (value : α) : Dict α :=
  ⟨place key value d.entries, keysIncrease_place key value d.increasing⟩

def erase (d : Dict α) (key : String) : Dict α :=
  ⟨d.entries.filter (fun e => decide (e.1 ≠ key)), List.Pairwise.filter _ d.increasing⟩

def ofList (entries : List (String × α)) : Dict α :=
  entries.foldl (fun d e => d.insert e.1 e.2) empty

def keys (d : Dict α) : List String := d.entries.map Prod.fst

@[simp] theorem find?_empty (key : String) : (empty : Dict α).find? key = none := rfl

theorem lookup_place (key other : String) (value : α) (entries : List (String × α)) :
    lookup other (place key value entries) =
      if key = other then some value else lookup other entries := by
  induction entries with
  | nil => simp [place, lookup]
  | cons head rest ih =>
    obtain ⟨k, v⟩ := head
    simp only [place]
    split
    · simp [lookup]
    · split
      · rename_i heq
        subst heq
        by_cases h : k = other <;> simp [lookup, h]
      · rename_i hne
        by_cases h : k = other
        · subst h
          have : ¬ key = k := fun h => hne h.symm
          simp [lookup, this]
        · simp [lookup, h, ih]

theorem find?_insert (d : Dict α) (key other : String) (value : α) :
    (d.insert key value).find? other = if key = other then some value else d.find? other :=
  lookup_place key other value d.entries

theorem lookup_filter_ne (key other : String) (entries : List (String × α)) :
    lookup other (entries.filter (fun e => decide (e.1 ≠ key))) =
      if key = other then none else lookup other entries := by
  induction entries with
  | nil => simp [lookup]
  | cons head rest ih =>
    obtain ⟨k, v⟩ := head
    by_cases hk : k = key
    · subst hk
      by_cases h : k = other <;> simp_all [lookup]
    · by_cases h : k = other
      · simp_all [lookup]
        grind
      · simp_all [lookup]

theorem find?_erase (d : Dict α) (key other : String) :
    (d.erase key).find? other = if key = other then none else d.find? other :=
  lookup_filter_ne key other d.entries

theorem lookup_eq_some_iff {entries : List (String × α)} (h : KeysIncrease entries)
    {key : String} {value : α} : lookup key entries = some value ↔ (key, value) ∈ entries := by
  unfold KeysIncrease at h
  induction entries with
  | nil => simp [lookup]
  | cons head rest ih =>
    obtain ⟨k, v⟩ := head
    rw [List.pairwise_cons] at h
    by_cases hk : k = key
    · subst hk
      have : (k, value) ∉ rest := fun hm => String.lt_irrefl k (h.1 (k, value) hm)
      simp only [lookup, ↓reduceIte, Option.some.injEq, List.mem_cons, Prod.mk.injEq, true_and,
        this, or_false]
      exact eq_comm
    · have : ¬ key = k := fun h => hk h.symm
      simp [lookup, hk, this, ih h.2]

theorem find?_eq_some_iff {d : Dict α} {key : String} {value : α} :
    d.find? key = some value ↔ (key, value) ∈ d.entries :=
  lookup_eq_some_iff d.increasing

theorem mem_keys_iff {d : Dict α} {key : String} : key ∈ d.keys ↔ ∃ value, d.find? key = some value := by
  rw [keys, List.mem_map]
  constructor
  · rintro ⟨⟨k, value⟩, hentry, rfl⟩
    exact ⟨value, find?_eq_some_iff.mpr hentry⟩
  · rintro ⟨value, hfind⟩
    exact ⟨(key, value), find?_eq_some_iff.mp hfind, rfl⟩

theorem mem_keys_insert {d : Dict α} {key other : String} {value : α} :
    other ∈ (d.insert key value).keys ↔ other = key ∨ other ∈ d.keys := by
  rw [mem_keys_iff, mem_keys_iff, find?_insert]
  by_cases hsame : key = other
  · simp only [hsame, ↓reduceIte, Option.some.injEq, exists_eq', true_or]
  · simp only [hsame, ↓reduceIte, Ne.symm hsame, false_or]

theorem mem_keys_foldl_insert {entries : List (String × α)} {d : Dict α} {key : String} :
    key ∈ (entries.foldl (fun d e => d.insert e.1 e.2) d).keys ↔
      key ∈ d.keys ∨ key ∈ entries.map Prod.fst := by
  induction entries generalizing d with
  | nil => simp
  | cons head rest ih =>
    rw [List.foldl_cons, ih, mem_keys_insert, List.map_cons, List.mem_cons, ← or_assoc]
    exact or_congr_left or_comm

theorem mem_keys_ofList {entries : List (String × α)} {key : String} :
    key ∈ (ofList entries).keys ↔ key ∈ entries.map Prod.fst := by
  rw [ofList, mem_keys_foldl_insert]
  exact or_iff_right List.not_mem_nil

theorem entries_eq_of_mem_iff {a b : List (String × α)} (ha : KeysIncrease a) (hb : KeysIncrease b)
    (h : ∀ e, e ∈ a ↔ e ∈ b) : a = b := by
  unfold KeysIncrease at ha hb
  induction a generalizing b with
  | nil =>
    cases b with
    | nil => rfl
    | cons x xs => exact absurd ((h x).mpr (by simp)) (by simp)
  | cons x xs ih =>
    cases b with
    | nil => exact absurd ((h x).mp (by simp)) (by simp)
    | cons y ys =>
      rw [List.pairwise_cons] at ha hb
      have hxy : x = y := by
        have hx := (h x).mp (by simp)
        have hy := (h y).mpr (by simp)
        rcases List.mem_cons.mp hx with hx | hx
        · exact hx
        · rcases List.mem_cons.mp hy with hy | hy
          · exact hy.symm
          · exact absurd (hb.1 x hx) (String.lt_asymm (ha.1 y hy))
      subst hxy
      have hmem : ∀ e, e ∈ xs ↔ e ∈ ys := by
        intro e
        constructor
        · intro he
          rcases List.mem_cons.mp ((h e).mp (List.mem_cons_of_mem _ he)) with rfl | h'
          · exact absurd (ha.1 e he) (String.lt_irrefl _)
          · exact h'
        · intro he
          rcases List.mem_cons.mp ((h e).mpr (List.mem_cons_of_mem _ he)) with rfl | h'
          · exact absurd (hb.1 e he) (String.lt_irrefl _)
          · exact h'
      rw [ih ha.2 hb.2 hmem]

theorem ext_find? {a b : Dict α} (h : ∀ key, a.find? key = b.find? key) : a = b := by
  obtain ⟨as, ha⟩ := a
  obtain ⟨bs, hb⟩ := b
  have : as = bs := entries_eq_of_mem_iff ha hb fun e => by
    have := h e.1
    rw [← lookup_eq_some_iff ha, ← lookup_eq_some_iff hb]
    show lookup e.1 as = some e.2 ↔ lookup e.1 bs = some e.2
    rw [show lookup e.1 as = lookup e.1 bs from this]
  subst this
  rfl

theorem place_of_forall_lt {key : String} (value : α) {entries : List (String × α)}
    (h : ∀ e ∈ entries, e.1 < key) : place key value entries = entries ++ [(key, value)] := by
  induction entries with
  | nil => rfl
  | cons head rest ih =>
    obtain ⟨k, v⟩ := head
    have hk : k < key := h (k, v) (by simp)
    have hne : ¬ k = key := fun he => String.lt_irrefl _ (he ▸ hk)
    simp [place, String.lt_asymm hk, hne, ih fun e he => h e (List.mem_cons_of_mem _ he)]

theorem entries_foldl_insert (d : Dict α) (entries : List (String × α))
    (h : KeysIncrease (d.entries ++ entries)) :
    (entries.foldl (fun d e => d.insert e.1 e.2) d).entries = d.entries ++ entries := by
  induction entries generalizing d with
  | nil => simp
  | cons head rest ih =>
    have hplace : (d.insert head.1 head.2).entries = d.entries ++ [head] := by
      refine place_of_forall_lt head.2 fun e he => ?_
      exact (List.pairwise_append.mp h).2.2 e he head (by simp)
    have := ih (d.insert head.1 head.2) (by rw [hplace]; simpa [KeysIncrease] using h)
    simpa [hplace] using this

theorem ofList_entries (d : Dict α) : ofList d.entries = d := by
  obtain ⟨entries, h⟩ := d
  have := entries_foldl_insert (empty : Dict α) entries (by simpa [empty] using h)
  simp only [ofList]
  cases hf : entries.foldl (fun d e => d.insert e.1 e.2) (empty : Dict α) with
  | mk es hs =>
    rw [hf] at this
    simp only [empty, List.nil_append] at this
    subst this
    rfl

end Dict

end MultiCluster
