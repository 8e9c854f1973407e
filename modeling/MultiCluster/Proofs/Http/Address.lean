import Mathlib.Data.List.DropRight
import MultiCluster.Http.Client

namespace MultiCluster

section

variable {ε α β : Type} {x : Except ε α} {b : β}

theorem Except.exists_of_bind_eq_ok {f : α → Except ε β} (h : x.bind f = .ok b) :
    ∃ a, x = .ok a ∧ f a = .ok b := by
  cases x with
  | error e => exact absurd h (by simp [Except.bind])
  | ok a => exact ⟨a, rfl, h⟩

theorem Except.exists_of_map_eq_ok {f : α → β} (h : x.map f = .ok b) : ∃ a, x = .ok a ∧ f a = b := by
  cases x with
  | error e => exact absurd h (by simp [Except.map])
  | ok a => exact ⟨a, rfl, Except.ok.inj h⟩

end

namespace Http

def isPlainChar (c : Char) : Bool := c.isAlphanum || ['-', ':', '.', '_'].contains c

def IsPlain (segment : List Char) : Prop :=
  (∀ c ∈ segment, isPlainChar c = true) ∧ ∃ c ∈ segment, c ≠ '.'

instance (segment : List Char) : Decidable (IsPlain segment) :=
  decidable_of_iff (segment.all isPlainChar && segment.any (· ≠ '.')) (by simp [IsPlain])

theorem toNat_of_isPlainChar {c : Char} (h : isPlainChar c = true) : c.toNat < 128 := by
  have hle : c.toNat ≤ 'z'.toNat := by
    simp only [isPlainChar, Bool.or_eq_true, List.contains_iff_mem, List.mem_cons, List.not_mem_nil,
      or_false] at h
    rcases h with halphanum | rfl | rfl | rfl | rfl
    · have hbounds : (decide (c.val ≥ 'A'.val ∧ c.val ≤ 'Z'.val) ||
          (c.val ≥ 'a'.val && c.val ≤ 'z'.val) || (c.val ≥ '0'.val && c.val ≤ '9'.val)) = true :=
        halphanum
      simp only [Bool.or_eq_true, Bool.and_eq_true, decide_eq_true_eq] at hbounds
      rcases hbounds with (⟨-, hz⟩ | ⟨-, hz⟩) | ⟨-, hz⟩
      · exact Nat.le_trans (UInt32.le_iff_toNat_le.mp hz) (by decide)
      · exact UInt32.le_iff_toNat_le.mp hz
      · exact Nat.le_trans (UInt32.le_iff_toNat_le.mp hz) (by decide)
    all_goals decide
  exact Nat.lt_of_le_of_lt hle (by decide)

theorem of_isPlainChar {p : Char → Bool}
    (hall : ∀ n < 128, isPlainChar (Char.ofNat n) = true → p (Char.ofNat n) = true) {c : Char}
    (h : isPlainChar c = true) : p c = true := by
  have hc := hall c.toNat (toNat_of_isPlainChar h)
  rw [Char.ofNat_toNat] at hc
  exact hc h

theorem stays_of_isPlainChar {c : Char} (h : isPlainChar c = true) : staysInPath c = true :=
  of_isPlainChar (by decide +kernel) h

def isInner (c : Char) : Bool := ' ' < c && !isSlash c && !Url.endsPath c

theorem visible_of_isInner {c : Char} (h : isInner c = true) : ' ' < c := by
  simp only [isInner, Bool.and_eq_true, decide_eq_true_eq] at h
  exact h.1.1

theorem not_isSlash_of_isInner {c : Char} (h : isInner c = true) : ¬ isSlash c = true := by
  simp only [isInner, Bool.and_eq_true, Bool.not_eq_true'] at h
  simp [h.1.2]

theorem isInner_of_isPlainChar {c : Char} (h : isPlainChar c = true) : isInner c = true :=
  of_isPlainChar (by decide +kernel) h

theorem ne_percent_of_isPlainChar {c : Char} (h : isPlainChar c = true) : c ≠ '%' := by
  have hne : decide (c ≠ '%') = true :=
    of_isPlainChar (p := fun c => decide (c ≠ '%')) (by decide +kernel) h
  exact of_decide_eq_true hne

theorem eq_dot_of_isDotPart {part : List Char} (h : isDotPart part = true) (hpercent : '%' ∉ part) :
    ∀ c ∈ part, c = '.' := by
  unfold isDotPart at h
  split at h
  · exact fun c hc => List.mem_singleton.mp hc
  · exact absurd List.mem_cons_self hpercent
  · exact absurd List.mem_cons_self hpercent
  · exact absurd h Bool.false_ne_true

namespace IsPlain

variable {segment : List Char}

theorem percent_notMem (h : IsPlain segment) : '%' ∉ segment :=
  fun hmem => ne_percent_of_isPlainChar (h.1 _ hmem) rfl

theorem isDot_eq_false (h : IsPlain segment) : isDot segment = false := by
  refine Bool.eq_false_iff.mpr fun hdot => ?_
  obtain ⟨c, hc, hne⟩ := h.2
  exact hne (eq_dot_of_isDotPart hdot h.percent_notMem c hc)

theorem isDotDot_eq_false (h : IsPlain segment) : isDotDot segment = false := by
  refine Bool.eq_false_iff.mpr fun hdots => ?_
  obtain ⟨n, -, hboth⟩ := List.any_eq_true.mp hdots
  obtain ⟨hfirst, hsecond⟩ := Bool.and_eq_true_iff.mp hboth
  obtain ⟨c, hc, hne⟩ := h.2
  rw [← List.take_append_drop n segment, List.mem_append] at hc
  rcases hc with hc | hc
  · exact hne (eq_dot_of_isDotPart hfirst (fun hm => h.percent_notMem (List.mem_of_mem_take hm)) c hc)
  · exact hne (eq_dot_of_isDotPart hsecond (fun hm => h.percent_notMem (List.mem_of_mem_drop hm)) c hc)

theorem slash_notMem (h : IsPlain segment) : '/' ∉ segment :=
  fun hmem => absurd (isInner_of_isPlainChar (h.1 _ hmem)) (by decide)

theorem question_notMem (h : IsPlain segment) : '?' ∉ segment :=
  fun hmem => absurd (isInner_of_isPlainChar (h.1 _ hmem)) (by decide)

end IsPlain

def joined (segments : List (List Char)) : List Char := segments.flatMap fun segment => '/' :: segment

theorem joined_cons (segment : List Char) (rest : List (List Char)) :
    joined (segment :: rest) = '/' :: (segment ++ joined rest) := rfl

theorem pieces_joined {segments : List (List Char)} (h : ∀ segment ∈ segments, '/' ∉ segment)
    {first : List Char} (hfirst : '/' ∉ first) :
    Text.pieces '/' (first ++ joined segments) = first :: segments := by
  induction segments generalizing first with
  | nil =>
    rw [joined, List.flatMap_nil, List.append_nil]
    exact Text.pieces_of_notMem hfirst
  | cons segment rest ih =>
    rw [joined_cons, Text.pieces_append_cons _ hfirst, ih _ (h segment List.mem_cons_self)]
    exact fun other hother => h other (List.mem_cons_of_mem segment hother)

theorem resolve_of_undotted {segments before : List (List Char)}
    (h : ∀ segment ∈ segments, isDot segment = false ∧ isDotDot segment = false) :
    resolve before segments = before.reverse ++ segments := by
  induction segments generalizing before with
  | nil => rw [resolve, List.append_nil]
  | cons segment rest ih =>
    obtain ⟨hdot, hdots⟩ := h segment List.mem_cons_self
    cases rest with
    | nil => simp only [resolve, hdots, hdot, Bool.false_eq_true, ↓reduceIte]
    | cons next more =>
      have hrest : resolve (segment :: before) (next :: more) =
          (segment :: before).reverse ++ next :: more :=
        ih fun other hother => h other (List.mem_cons_of_mem segment hother)
      rw [resolve, hdots, hdot, if_neg Bool.false_ne_true, if_neg Bool.false_ne_true, hrest,
        List.reverse_cons, List.append_assoc]
      · rfl
      · simp

theorem pathOf_of_plain {segments : List (List Char)} (h : ∀ segment ∈ segments, IsPlain segment) :
    pathOf segments = joined segments := by
  have hresolved : resolve [] segments = segments := resolve_of_undotted fun segment hsegment =>
    ⟨(h segment hsegment).isDot_eq_false, (h segment hsegment).isDotDot_eq_false⟩
  rw [pathOf, hresolved, joined]
  rw [List.flatMap_def, List.flatMap_def]
  refine congrArg List.flatten (List.map_congr_left fun segment hsegment => ?_)
  rw [encode_of_stays fun c hc => stays_of_isPlainChar ((h segment hsegment).1 c hc)]

theorem isInner_of_mem_joined {segments : List (List Char)} (h : ∀ segment ∈ segments, IsPlain segment)
    {c : Char} (hc : c ∈ joined segments) : c = '/' ∨ isInner c = true := by
  obtain ⟨segment, hsegment, hmem⟩ := List.mem_flatMap.mp hc
  rcases List.mem_cons.mp hmem with rfl | hmem
  · exact .inl rfl
  · exact .inr (isInner_of_isPlainChar ((h segment hsegment).1 c hmem))

theorem readPath_joined {segments : List (List Char)} (h : ∀ segment ∈ segments, IsPlain segment)
    (hsome : segments ≠ []) : readPath (joined segments) = joined segments := by
  obtain ⟨first, rest, rfl⟩ := List.exists_cons_of_ne_nil hsome
  have hupright : ((first ++ joined rest).map fun c => if isSlash c then '/' else c) =
      first ++ joined rest := by
    refine (List.map_congr_left fun c hc => ?_).trans (List.map_id _)
    have hinner : c = '/' ∨ isInner c = true :=
      isInner_of_mem_joined h (List.mem_cons_of_mem '/' hc)
    rcases hinner with rfl | hinner
    · rfl
    · rw [if_neg (not_isSlash_of_isInner hinner)]
      rfl
  have hslashes : ∀ segment ∈ first :: rest, '/' ∉ segment := fun segment hsegment =>
    (h segment hsegment).slash_notMem
  show pathOf (Text.pieces '/' ((first ++ joined rest).map fun c => if isSlash c then '/' else c)) = _
  rw [hupright, pieces_joined (fun s hs => hslashes s (List.mem_cons_of_mem first hs))
    (hslashes first List.mem_cons_self), pathOf_of_plain h, joined_cons]

namespace Url

def isInvisible (c : Char) : Bool := c ≤ ' '

def isBreak (c : Char) : Bool := ['\t', '\n', '\r'].contains c

theorem cleaned_eq (text : List Char) :
    cleaned text = ((text.dropWhile isInvisible).rdropWhile isInvisible).filter (!isBreak ·) := rfl

theorem isInvisible_of_visible {c : Char} (h : ' ' < c) : isInvisible c = false :=
  decide_eq_false (Char.not_le.mpr h)

theorem isBreak_of_visible {c : Char} (h : ' ' < c) : isBreak c = false := by
  rw [isBreak, List.contains_eq_mem, decide_eq_false_iff_not]
  intro hmem
  simp only [List.mem_cons, List.not_mem_nil, or_false] at hmem
  rcases hmem with rfl | rfl | rfl <;> exact absurd h (by decide)

theorem cleaned_of_visible {text : List Char} (h : ∀ c ∈ text, ' ' < c) : cleaned text = text := by
  have hdrop {l : List Char} (hl : ∀ c ∈ l, ' ' < c) : l.dropWhile isInvisible = l := by
    cases l with
    | nil => rfl
    | cons c rest =>
      rw [List.dropWhile_cons_of_neg (by simp [isInvisible_of_visible (hl c List.mem_cons_self)])]
  rw [cleaned_eq, hdrop h, List.rdropWhile, hdrop fun c hc => h c (List.mem_reverse.mp hc),
    List.reverse_reverse]
  exact List.filter_eq_self.mpr fun c hc => by rw [isBreak_of_visible (h c hc)]; rfl

theorem splitAt_append {stops : Char → Bool} {before after : List Char}
    (hbefore : ∀ c ∈ before, stops c = false) (hafter : ∀ c ∈ after.head?, stops c = true) :
    splitAt stops (before ++ after) = (before, after) := by
  have hpass : ∀ c ∈ before, (!stops c) = true := fun c hc => by rw [hbefore c hc]; rfl
  have hstop : after.takeWhile (!stops ·) = [] ∧ after.dropWhile (!stops ·) = after := by
    cases after with
    | nil => exact ⟨rfl, rfl⟩
    | cons c rest =>
      have hc : ¬ (!stops c) = true := by simp [hafter c rfl]
      exact ⟨List.takeWhile_cons_of_neg hc, List.dropWhile_cons_of_neg hc⟩
  rw [splitAt, List.takeWhile_append_of_pos hpass, List.dropWhile_append_of_pos hpass, hstop.1, hstop.2,
    List.append_nil]

theorem ne_of_notMem {text : List Char} {sign : Char} (h : sign ∉ text) :
    ∀ c ∈ text, decide (c = sign) = false := by
  intro c hc
  rw [decide_eq_false_iff_not]
  rintro rfl
  exact h hc

theorem splitAt_joined {segments : List (List Char)} (h : ∀ segment ∈ segments, '?' ∉ segment)
    (query : Option String) :
    splitAt (· = '?') (joined segments ++ (queryText query).toList) =
      (joined segments, (queryText query).toList) := by
  have hjoined : '?' ∉ joined segments := by
    intro hmem
    obtain ⟨segment, hsegment, hc⟩ := List.mem_flatMap.mp hmem
    exact (List.mem_cons.mp hc).elim (by decide) (h segment hsegment)
  refine splitAt_append (ne_of_notMem hjoined) ?_
  cases query with
  | none => simp [queryText]
  | some query => simp [queryText]

theorem tail_of_plain {segments : List (List Char)} (h : ∀ segment ∈ segments, IsPlain segment) :
    Tail.read (joined segments) = ⟨joined segments, none, none⟩ := by
  have hpath : ∀ c ∈ joined segments, endsPath c = false := by
    intro c hc
    rcases isInner_of_mem_joined h hc with rfl | hinner
    · rfl
    · simp only [isInner, Bool.and_eq_true, Bool.not_eq_true'] at hinner
      exact hinner.2
  have hsplit : splitAt endsPath (joined segments ++ []) = (joined segments, []) :=
    splitAt_append hpath (by simp)
  rw [List.append_nil] at hsplit
  rw [Tail.read, hsplit]
  rfl

end Url

theorem path_of_read {authority : List Char} {segments : List (List Char)} {u : Url}
    (hauthority : ∀ c ∈ authority, isInner c = true) (hnamed : authority ≠ [])
    (hsegments : ∀ segment ∈ segments, IsPlain segment) (hsome : segments ≠ [])
    (h : Url.read (String.ofList ("http://".toList ++ (authority ++ joined segments))) = .ok u) :
    u.path = String.ofList (joined segments) ∧ u.query = none := by
  have hvisible : ∀ c ∈ "http://".toList ++ (authority ++ joined segments), ' ' < c := by
    intro c hc
    rcases List.mem_append.mp hc with hc | hc
    · have hall : "http://".toList.all (' ' < ·) = true := by decide
      exact of_decide_eq_true (List.all_eq_true.mp hall c hc)
    · rcases List.mem_append.mp hc with hc | hc
      · exact visible_of_isInner (hauthority c hc)
      · rcases isInner_of_mem_joined hsegments hc with rfl | hinner
        · decide
        · exact visible_of_isInner hinner
  have hscheme : Url.cutScheme ("http://".toList ++ (authority ++ joined segments)) =
      some ("http".toList, '/' :: '/' :: (authority ++ joined segments)) := rfl
  have hslashes : ('/' :: '/' :: (authority ++ joined segments)).dropWhile isSlash =
      authority ++ joined segments := by
    obtain ⟨first, rest, rfl⟩ := List.exists_cons_of_ne_nil hnamed
    have hfirst := not_isSlash_of_isInner (hauthority first List.mem_cons_self)
    rw [List.dropWhile_cons_of_pos rfl, List.dropWhile_cons_of_pos rfl, List.cons_append,
      List.dropWhile_cons_of_neg hfirst]
  have hsplit : Url.splitAt (fun c => isSlash c || Url.endsPath c) (authority ++ joined segments) =
      (authority, joined segments) := by
    refine Url.splitAt_append (fun c hc => ?_) ?_
    · have hinner := hauthority c hc
      simp only [isInner, Bool.and_eq_true, Bool.not_eq_true'] at hinner
      rw [hinner.1.2, hinner.2]
      rfl
    · obtain ⟨first, rest, rfl⟩ := List.exists_cons_of_ne_nil hsome
      rintro c ⟨⟩
      rfl
  have husual : Url.readUsual "http".toList 80 ('/' :: '/' :: (authority ++ joined segments)) = .ok u := by
    rw [Url.read, String.toList_ofList, Url.cleaned_of_visible hvisible, hscheme] at h
    obtain ⟨found, hfound, hweb⟩ := Except.exists_of_bind_eq_ok h
    obtain rfl : found = u := Except.ok.inj hweb
    exact hfound
  rw [Url.readUsual, hslashes, hsplit] at husual
  simp only [Url.tail_of_plain hsegments, readPath_joined hsegments hsome] at husual
  obtain ⟨found, -, rfl⟩ := Except.exists_of_map_eq_ok husual
  exact ⟨rfl, rfl⟩

end Http

end MultiCluster
