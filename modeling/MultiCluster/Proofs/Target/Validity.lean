import Mathlib.Data.List.Nodup
import MultiCluster.Target.Set

namespace MultiCluster.TargetSet

section Repeats

variable {α : Type} [DecidableEq α] {seen xs : List α} {x y : α} {n m : ℕ}

def IsSecondAt (xs : List α) (x : α) (n : ℕ) : Prop := xs[n]? = some x ∧ (xs.take n).count x = 1

def RepeatsEarliest (xs : List α) (x : α) : Prop :=
  ∃ n, IsSecondAt xs x n ∧ ∀ y m, IsSecondAt xs y m → n ≤ m

theorem IsSecondAt.mem_take (h : IsSecondAt xs x n) : x ∈ xs.take n :=
  List.count_pos_iff.mp (by rw [h.2]; exact Nat.one_pos)

theorem IsSecondAt.take_succ (h : IsSecondAt xs x n) : xs.take (n + 1) = xs.take n ++ [x] := by
  rw [List.take_add_one, h.1, Option.toList_some]

theorem IsSecondAt.not_nodup_take (h : IsSecondAt xs x n) (hle : n + 1 ≤ m) : ¬ (xs.take m).Nodup := by
  intro hnodup
  have hshort : (xs.take (n + 1)).Nodup := hnodup.sublist (List.take_sublist_take_left hle)
  rw [h.take_succ, List.nodup_append] at hshort
  exact hshort.2.2 x h.mem_take x (List.mem_singleton_self x) rfl

theorem IsSecondAt.not_nodup (h : IsSecondAt xs x n) : ¬ xs.Nodup := fun hnodup =>
  h.not_nodup_take (Nat.le_refl _) (hnodup.sublist (List.take_sublist _ _))

theorem RepeatsEarliest.unique (hx : RepeatsEarliest xs x) (hy : RepeatsEarliest xs y) : x = y := by
  obtain ⟨n, hn, hfirst⟩ := hx
  obtain ⟨m, hm, hfirst'⟩ := hy
  obtain rfl : n = m := Nat.le_antisymm (hfirst y m hm) (hfirst' x n hn)
  exact Option.some.inj (hn.1.symm.trans hm.1)

theorem split_of_firstRepeat (h : firstRepeat seen xs = some x) :
    ∃ before after, xs = before ++ x :: after ∧ (x ∈ before ∨ x ∈ seen) ∧ before.Nodup ∧
      ∀ y ∈ before, y ∉ seen := by
  induction xs generalizing seen with
  | nil => exact absurd h (by simp [firstRepeat])
  | cons first rest ih =>
    by_cases hseen : first ∈ seen
    · obtain rfl : first = x := by simpa [firstRepeat, hseen] using h
      exact ⟨[], rest, rfl, .inr hseen, List.nodup_nil, by simp⟩
    · have hrest : firstRepeat (first :: seen) rest = some x := by simpa [firstRepeat, hseen] using h
      obtain ⟨before, after, rfl, hx, hnodup, hnew⟩ := ih hrest
      have hfirst : first ∉ before := fun hmem => hnew first hmem List.mem_cons_self
      refine ⟨first :: before, after, rfl, ?_, List.nodup_cons.mpr ⟨hfirst, hnodup⟩, ?_⟩
      · rcases hx with hbefore | hx
        · exact .inl (List.mem_cons_of_mem first hbefore)
        · rcases List.mem_cons.mp hx with rfl | hseen'
          · exact .inl List.mem_cons_self
          · exact .inr hseen'
      · intro y hy
        rcases List.mem_cons.mp hy with rfl | hbefore
        · exact hseen
        · exact fun hmem => hnew y hbefore (List.mem_cons_of_mem first hmem)

theorem repeatsEarliest_of_firstRepeat (h : firstRepeat [] xs = some x) : RepeatsEarliest xs x := by
  obtain ⟨before, after, rfl, hx, hnodup, -⟩ := split_of_firstRepeat h
  have hbefore : x ∈ before := hx.resolve_right List.not_mem_nil
  refine ⟨before.length, ⟨?_, ?_⟩, fun y m hm => Nat.le_of_not_lt fun hlt => ?_⟩
  · rw [List.getElem?_append_right (Nat.le_refl _), Nat.sub_self, List.getElem?_cons_zero]
  · rw [List.take_left]
    exact List.count_eq_one_of_mem hnodup hbefore
  · refine hm.not_nodup_take hlt ?_
    rw [List.take_left]
    exact hnodup

theorem firstRepeat_nil_eq_none_iff : firstRepeat [] xs = none ↔ xs.Nodup := by
  rw [firstRepeat_eq_none_iff]
  exact and_iff_left fun _ _ => List.not_mem_nil

theorem firstRepeat_eq_some_iff : firstRepeat [] xs = some x ↔ RepeatsEarliest xs x := by
  refine ⟨repeatsEarliest_of_firstRepeat, fun hx => ?_⟩
  cases hscan : firstRepeat [] xs with
  | none =>
    obtain ⟨n, hn, -⟩ := hx
    exact absurd (firstRepeat_nil_eq_none_iff.mp hscan) hn.not_nodup
  | some y => rw [hx.unique (repeatsEarliest_of_firstRepeat hscan)]

end Repeats

section Answers

variable {s : TargetSet} {p : ProjectId}

theorem countP_isFor (s : TargetSet) (p : ProjectId) :
    s.answers.countP (·.isFor p) = s.answeredProjects.count p := by
  rw [answeredProjects, List.count_filterMap]
  exact List.countP_congr fun a _ => by rw [Answer.isFor_iff, beq_iff_eq]

theorem nodup_answeredProjects_iff : s.answeredProjects.Nodup ↔
    s.answers.Pairwise fun a b => ∀ p, a.project = some p → b.project ≠ some p := by
  rw [answeredProjects, List.nodup_iff_pairwise_ne, List.pairwise_filterMap]
  refine List.Pairwise.iff fun a b => ⟨fun h p ha hb => h p ha p hb rfl, fun h p ha q hb heq => ?_⟩
  exact h p ha (heq ▸ hb)

theorem nodup_projects_iff : (s.targets.map Target.project).Nodup ↔
    s.targets.Pairwise fun t u => t.project ≠ u.project := List.pairwise_map

theorem validate_eq_ok_iff : s.validate = .ok () ↔
    (s.targets.map Target.project).Nodup ∧ s.answeredProjects.Nodup := by
  rw [← firstRepeat_nil_eq_none_iff, ← firstRepeat_nil_eq_none_iff, validate]
  cases firstRepeat [] (s.targets.map Target.project) with
  | some p => simp
  | none => cases firstRepeat [] s.answeredProjects <;> simp

theorem validate_eq_duplicateTarget_iff : s.validate = .error (.duplicateTarget p) ↔
    RepeatsEarliest (s.targets.map Target.project) p := by
  rw [← firstRepeat_eq_some_iff, validate]
  cases firstRepeat [] (s.targets.map Target.project) with
  | some q => simp
  | none => cases firstRepeat [] s.answeredProjects <;> simp

theorem validate_eq_duplicateAnswer_iff : s.validate = .error (.duplicateAnswer p) ↔
    (s.targets.map Target.project).Nodup ∧ RepeatsEarliest s.answeredProjects p := by
  rw [← firstRepeat_eq_some_iff, ← firstRepeat_nil_eq_none_iff, validate]
  cases firstRepeat [] (s.targets.map Target.project) with
  | some q => simp
  | none => cases firstRepeat [] s.answeredProjects <;> simp

theorem find?_of_perm {α : Type} {q : α → Bool} {xs ys : List α} (hperm : ys.Perm xs)
    (hone : xs.countP q ≤ 1) : ys.find? q = xs.find? q := by
  have hfiltered : (ys.filter q).Perm (xs.filter q) := hperm.filter q
  rw [List.countP_eq_length_filter] at hone
  rw [← List.head?_filter, ← List.head?_filter]
  cases hxs : xs.filter q with
  | nil =>
    rw [hxs] at hfiltered
    rw [List.perm_nil.mp hfiltered]
  | cons a rest =>
    rw [hxs, List.length_cons] at hone
    obtain rfl : rest = [] := List.length_eq_zero_iff.mp (by omega)
    rw [hxs] at hfiltered
    rw [List.perm_singleton.mp hfiltered]

end Answers

theorem validate_exact (s : TargetSet) :
    (s.validate = .ok () ↔ s.targets.Pairwise (fun t u => t.project ≠ u.project) ∧
      s.answers.Pairwise fun a b => ∀ p, a.project = some p → b.project ≠ some p) ∧
    (∀ p, s.validate = .error (.duplicateTarget p) ↔
      RepeatsEarliest (s.targets.map Target.project) p) ∧
    (∀ p, s.validate = .error (.duplicateAnswer p) ↔
      s.targets.Pairwise (fun t u => t.project ≠ u.project) ∧ RepeatsEarliest s.answeredProjects p) ∧
    (s.validate = .ok () →
      (∀ t : Target, s.answers.countP (·.isFor t.project) ≤ 1) ∧
      ∀ answers, answers.Perm s.answers → ∀ t : Target,
        answerFor ⟨s.targets, answers⟩ t.project = s.answerFor t.project) := by
  rw [← nodup_projects_iff, ← nodup_answeredProjects_iff]
  refine ⟨validate_eq_ok_iff, fun p => validate_eq_duplicateTarget_iff,
    fun p => validate_eq_duplicateAnswer_iff, fun hvalid => ?_⟩
  have hone (p : ProjectId) : s.answers.countP (·.isFor p) ≤ 1 := by
    rw [countP_isFor]
    exact List.nodup_iff_count_le_one.mp (validate_eq_ok_iff.mp hvalid).2 p
  exact ⟨fun t => hone t.project, fun answers hperm t => find?_of_perm hperm (hone t.project)⟩

namespace Sample

def crossed : TargetSet where
  targets := ["c-1:p-1", "c-1:p-2", "c-1:p-2", "c-1:p-1"].map fun project => .declared ⟨project⟩
  answers := []

def answered : TargetSet where
  targets := [.declared ⟨"c-1:p-1"⟩, .declared ⟨"c-1:p-2"⟩]
  answers := [.global .empty, .forProject ⟨"c-1:p-2"⟩ (.ofList [("size", "large")]), .global .empty,
    .forProject ⟨"c-1:p-1"⟩ (.ofList [("size", "small")])]

end Sample

open Sample in
theorem validate_exact_of_answers :
    answered.validate = .ok () ∧
      answerFor ⟨answered.targets, answered.answers.reverse⟩ ⟨"c-1:p-2"⟩ =
        some (.forProject ⟨"c-1:p-2"⟩ (.ofList [("size", "large")])) ∧
      RepeatsEarliest (crossed.targets.map Target.project) ⟨"c-1:p-2"⟩ := by
  have hvalid : answered.validate = .ok () := by decide +kernel
  have hreordered := ((validate_exact answered).2.2.2 hvalid).2 _ (List.reverse_perm _)
    (.declared ⟨"c-1:p-2"⟩)
  refine ⟨hvalid, hreordered.trans (by decide +kernel), ?_⟩
  exact ((validate_exact crossed).2.1 _).mp (by decide +kernel)

end MultiCluster.TargetSet
