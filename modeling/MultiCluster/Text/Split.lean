namespace MultiCluster.Text

def blankRanges : List (Nat × Nat) :=
  [(0x09, 0x0D), (0x20, 0x20), (0x85, 0x85), (0xA0, 0xA0), (0x1680, 0x1680), (0x2000, 0x200A),
   (0x2028, 0x2029), (0x202F, 0x202F), (0x205F, 0x205F), (0x3000, 0x3000)]

def isBlank (c : Char) : Bool :=
  blankRanges.any fun (first, last) => first ≤ c.toNat && c.toNat ≤ last

def trim (s : List Char) : List Char :=
  ((s.dropWhile isBlank).reverse.dropWhile isBlank).reverse

def cut (sep : Char) : List Char → Option (List Char × List Char)
  | [] => none
  | c :: rest =>
    if c = sep then some ([], rest)
    else (cut sep rest).map fun (before, after) => (c :: before, after)

def pieces (sep : Char) : List Char → List (List Char)
  | [] => [[]]
  | c :: rest =>
    if c = sep then [] :: pieces sep rest
    else match pieces sep rest with
      | [] => [[c]]
      | piece :: others => (c :: piece) :: others

def replaceChar (old new : Char) (s : String) : String :=
  String.ofList (s.toList.map fun c => if c = old then new else c)

theorem cut_eq_none_iff {sep : Char} {s : List Char} : cut sep s = none ↔ sep ∉ s := by
  induction s with
  | nil => simp [cut]
  | cons c rest ih =>
    by_cases h : c = sep
    · simp [cut, h]
    · have : ¬ sep = c := fun h' => h h'.symm
      simp [cut, h, this, ih]

theorem cut_eq_some_iff {sep : Char} {s before after : List Char} :
    cut sep s = some (before, after) ↔ s = before ++ sep :: after ∧ sep ∉ before := by
  induction s generalizing before with
  | nil => simp [cut]
  | cons c rest ih =>
    by_cases h : c = sep
    · subst h
      cases before with
      | nil => simp [cut]
      | cons b bs => simp [cut]; grind
    · simp only [cut, h, ↓reduceIte, Option.map_eq_some_iff, Prod.exists, Prod.mk.injEq]
      constructor
      · rintro ⟨b, a, hcut, rfl, rfl⟩
        obtain ⟨rfl, hb⟩ := ih.mp hcut
        exact ⟨rfl, by simpa using ⟨fun h' => h h'.symm, hb⟩⟩
      · rintro ⟨hs, hb⟩
        cases before with
        | nil => simp at hs; exact absurd hs.1 h
        | cons b bs =>
          simp only [List.cons_append, List.cons.injEq] at hs
          simp only [List.mem_cons, not_or] at hb
          exact ⟨bs, after, ih.mpr ⟨hs.2, hb.2⟩, by rw [hs.1], rfl⟩

theorem pieces_ne_nil (sep : Char) (s : List Char) : pieces sep s ≠ [] := by
  cases s with
  | nil => simp [pieces]
  | cons c rest =>
    simp only [pieces]
    split
    · simp
    · split <;> simp

theorem intercalate_pieces (sep : Char) (s : List Char) :
    [sep].intercalate (pieces sep s) = s := by
  induction s with
  | nil => rfl
  | cons c rest ih =>
    simp only [pieces]
    split
    · rename_i h
      subst h
      cases hp : pieces c rest with
      | nil => exact absurd hp (pieces_ne_nil c rest)
      | cons p ps =>
        rw [hp] at ih
        rw [← ih]
        simp [List.intercalate, List.intersperse]
    · cases hp : pieces sep rest with
      | nil => exact absurd hp (pieces_ne_nil sep rest)
      | cons p ps =>
        rw [hp] at ih
        rw [← ih]
        cases ps <;> simp [List.intercalate, List.intersperse]

theorem notMem_of_mem_pieces {sep : Char} {s piece : List Char} (h : piece ∈ pieces sep s) :
    sep ∉ piece := by
  induction s generalizing piece with
  | nil => simp_all [pieces]
  | cons c rest ih =>
    simp only [pieces] at h
    split at h
    · rcases List.mem_cons.mp h with rfl | h
      · simp
      · exact ih h
    · rename_i hc
      have hc' : ¬ sep = c := fun h' => hc h'.symm
      cases hp : pieces sep rest with
      | nil => exact absurd hp (pieces_ne_nil sep rest)
      | cons p ps =>
        rw [hp] at h ih
        rcases List.mem_cons.mp h with rfl | h
        · simp [hc', ih (List.mem_cons_self ..)]
        · exact ih (List.mem_cons_of_mem _ h)

theorem mem_of_mem_pieces {sep : Char} {s piece : List Char} (h : piece ∈ pieces sep s) {c : Char}
    (hc : c ∈ piece) : c ∈ s := by
  induction s generalizing piece with
  | nil =>
    obtain rfl : piece = [] := by simpa [pieces] using h
    exact hc
  | cons d rest ih =>
    simp only [pieces] at h
    split at h
    · rcases List.mem_cons.mp h with rfl | h
      · exact absurd hc List.not_mem_nil
      · exact List.mem_cons_of_mem d (ih h hc)
    · cases hp : pieces sep rest with
      | nil => exact absurd hp (pieces_ne_nil sep rest)
      | cons p ps =>
        rw [hp] at h ih
        rcases List.mem_cons.mp h with rfl | h
        · rcases List.mem_cons.mp hc with rfl | hc
          · exact List.mem_cons_self
          · exact List.mem_cons_of_mem d (ih List.mem_cons_self hc)
        · exact List.mem_cons_of_mem d (ih (List.mem_cons_of_mem p h) hc)

theorem pieces_of_notMem {sep : Char} {s : List Char} (h : sep ∉ s) : pieces sep s = [s] := by
  induction s with
  | nil => rfl
  | cons c rest ih =>
    obtain ⟨hfirst, hrest⟩ := List.ne_and_not_mem_of_not_mem_cons h
    rw [pieces, if_neg (Ne.symm hfirst), ih hrest]

theorem pieces_append (sep : Char) (before after : List Char) :
    pieces sep (before ++ sep :: after) = pieces sep before ++ pieces sep after := by
  induction before with
  | nil => simp [pieces]
  | cons c rest ih =>
    rw [List.cons_append, pieces, pieces, ih]
    by_cases hc : c = sep
    · rw [if_pos hc, if_pos hc, List.cons_append]
    · rw [if_neg hc, if_neg hc]
      cases hp : pieces sep rest with
      | nil => exact absurd hp (pieces_ne_nil sep rest)
      | cons piece others => rfl

theorem pieces_append_cons {sep : Char} {piece : List Char} (rest : List Char) (h : sep ∉ piece) :
    pieces sep (piece ++ sep :: rest) = piece :: pieces sep rest := by
  rw [pieces_append, pieces_of_notMem h, List.singleton_append]

theorem pieces_intercalate {sep : Char} {parts : List (List Char)} (hsome : parts ≠ [])
    (h : ∀ part ∈ parts, sep ∉ part) : pieces sep ([sep].intercalate parts) = parts := by
  induction parts with
  | nil => exact absurd rfl hsome
  | cons part rest ih =>
    cases rest with
    | nil =>
      show pieces sep [part].flatten = [part]
      rw [List.flatten_singleton]
      exact pieces_of_notMem (h part List.mem_cons_self)
    | cons next others =>
      have hrest := ih (List.cons_ne_nil next others) fun p hp => h p (List.mem_cons_of_mem part hp)
      show pieces sep (part ++ sep :: [sep].intercalate (next :: others)) = _
      rw [pieces_append_cons _ (h part List.mem_cons_self), hrest]

theorem toList_replaceChar (old new : Char) (s : String) :
    (replaceChar old new s).toList = s.toList.map fun c => if c = old then new else c :=
  String.toList_ofList

theorem replaceChar_replaceChar {old new : Char} {s : String} (h : new ∉ s.toList) :
    replaceChar new old (replaceChar old new s) = s := by
  rw [replaceChar, toList_replaceChar, List.map_map]
  have hback : s.toList.map ((fun c => if c = new then old else c) ∘
      fun c => if c = old then new else c) = s.toList.map id := by
    refine List.map_congr_left fun c hc => ?_
    have hne : c ≠ new := fun heq => h (heq ▸ hc)
    by_cases hold : c = old
    · simp [hold]
    · simp [hold, hne]
  rw [hback, List.map_id, String.ofList_toList]

theorem notMem_replaceChar {old new other : Char} {s : String} (h : other ∉ s.toList)
    (hnew : other ≠ new) : other ∉ (replaceChar old new s).toList := by
  rw [toList_replaceChar, List.mem_map]
  rintro ⟨c, hc, heq⟩
  split at heq
  · exact hnew heq.symm
  · exact h (heq ▸ hc)

theorem replaceChar_ne_empty {old new : Char} {s : String} (h : s ≠ "") : replaceChar old new s ≠ "" := by
  intro heq
  have hnil := congrArg String.toList heq
  rw [toList_replaceChar, String.toList_empty, List.map_eq_nil_iff] at hnil
  exact h (String.toList_eq_nil_iff.mp hnil)

end MultiCluster.Text
