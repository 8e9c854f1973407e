import Mathlib.Data.List.DropRight
import MultiCluster.Template.Version

namespace MultiCluster

namespace PrePart

theorem compare_swap (a b : PrePart) : a.compare b = (b.compare a).swap := by
  cases a with
  | number m =>
    cases b with
    | number n => exact Std.OrientedOrd.eq_swap
    | word t => rfl
  | word s =>
    cases b with
    | number n => rfl
    | word t => exact Std.OrientedOrd.eq_swap

-- The cases go by the part in the middle: below a number there are only numbers, above a word only words.
theorem compare_trans {a b c : PrePart} (hab : (a.compare b).isLE) (hbc : (b.compare c).isLE) :
    (a.compare c).isLE := by
  cases b with
  | number m =>
    cases a with
    | number l =>
      cases c with
      | number n => exact Std.TransOrd.isLE_trans (b := m) hab hbc
      | word u => rfl
    | word s => exact absurd hab (by simp [compare])
  | word t =>
    cases c with
    | number n => exact absurd hbc (by simp [compare])
    | word u =>
      cases a with
      | number l => rfl
      | word s => exact Std.TransOrd.isLE_trans (b := t) hab hbc

instance : Std.TransCmp compare where
  eq_swap {a b} := compare_swap a b
  isLE_trans := compare_trans

end PrePart

namespace Version

def significant (segments : List Nat) : List Nat := segments.rdropWhile (· = 0)

theorem significant_eq_nil_iff {segments : List Nat} :
    significant segments = [] ↔ segments.all (· = 0) := by
  simp [significant, List.rdropWhile_eq_nil_iff]

theorem significant_cons (x : Nat) (segments : List Nat) :
    significant (x :: segments) =
      if x = 0 ∧ significant segments = [] then [] else x :: significant segments := by
  unfold significant
  simp only [List.rdropWhile, List.reverse_cons, List.dropWhile_append, List.reverse_eq_nil_iff,
    List.isEmpty_iff]
  by_cases hzeros : List.dropWhile (fun n => decide (n = 0)) segments.reverse = []
  · by_cases hzero : x = 0
    · simp [hzeros, hzero]
    · simp [hzeros, hzero]
  · simp [hzeros]

theorem compareLex_nil_significant_cons (y : Nat) (b : List Nat) :
    List.compareLex Ord.compare [] (significant (y :: b)) =
      (Ord.compare 0 y).then (List.compareLex Ord.compare [] (significant b)) := by
  rw [significant_cons]
  by_cases hb : y = 0 ∧ significant b = []
  · obtain ⟨rfl, hzeros⟩ := hb
    rw [if_pos ⟨rfl, hzeros⟩, hzeros]
    rfl
  · rw [if_neg hb]
    rcases Nat.eq_zero_or_pos y with rfl | hpos
    · cases hs : significant b with
      | nil => exact absurd ⟨rfl, hs⟩ hb
      | cons n rest => rfl
    · rw [Nat.compare_eq_lt.mpr hpos]
      rfl

theorem compareLex_significant_cons (x y : Nat) (a b : List Nat) :
    List.compareLex Ord.compare (significant (x :: a)) (significant (y :: b)) =
      (Ord.compare x y).then (List.compareLex Ord.compare (significant a) (significant b)) := by
  by_cases ha : x = 0 ∧ significant a = []
  · obtain ⟨rfl, hzeros⟩ := ha
    rw [significant_cons 0 a, if_pos ⟨rfl, hzeros⟩, hzeros]
    exact compareLex_nil_significant_cons y b
  by_cases hb : y = 0 ∧ significant b = []
  · obtain ⟨rfl, hzeros⟩ := hb
    have hback (l : List Nat) :
        List.compareLex Ord.compare l [] = (List.compareLex Ord.compare [] l).swap := by
      cases l <;> rfl
    rw [significant_cons 0 b, if_pos ⟨rfl, hzeros⟩, hzeros, hback, compareLex_nil_significant_cons,
      Ordering.swap_then, hback, ← Std.OrientedOrd.eq_swap]
  · rw [significant_cons, if_neg ha, significant_cons, if_neg hb]
    exact List.compareLex_cons_cons

theorem compareSegments_eq (a b : List Nat) :
    compareSegments a b = List.compareLex Ord.compare (significant a) (significant b) := by
  induction a, b using compareSegments.induct with
  | case1 b h =>
    rw [compareSegments, if_pos h, significant_eq_nil_iff.mpr h]
    rfl
  | case2 b h =>
    rw [compareSegments, if_neg h]
    cases hs : significant b with
    | nil => exact absurd (significant_eq_nil_iff.mp hs) h
    | cons y rest => rfl
  | case3 a hne h =>
    rw [compareSegments.eq_2 a hne, if_pos h, significant_eq_nil_iff.mpr h]
    rfl
  | case4 a hne h =>
    rw [compareSegments.eq_2 a hne, if_neg h]
    cases hs : significant a with
    | nil => exact absurd (significant_eq_nil_iff.mp hs) h
    | cons x rest => rfl
  | case5 x a y b ih => rw [compareSegments, ih, compareLex_significant_cons]

theorem comparePre_swap (a b : Option (List PrePart)) : comparePre a b = (comparePre b a).swap := by
  cases a with
  | none => cases b <;> rfl
  | some x =>
    cases b with
    | none => rfl
    | some y =>
      show List.compareLex PrePart.compare x y = (List.compareLex PrePart.compare y x).swap
      exact Std.OrientedCmp.eq_swap

theorem comparePre_trans {a b c : Option (List PrePart)} (hab : (comparePre a b).isLE)
    (hbc : (comparePre b c).isLE) : (comparePre a c).isLE := by
  cases c with
  | none => cases a <;> rfl
  | some z =>
    cases b with
    | none => exact absurd hbc (by simp [comparePre])
    | some y =>
      cases a with
      | none => exact absurd hab (by simp [comparePre])
      | some x => exact Std.TransCmp.isLE_trans (b := y) hab hbc

theorem compare_eq_compareLex :
    compare = compareLex (compareOn fun v => significant v.segments) fun a b => comparePre a.pre b.pre := by
  funext a b
  rw [compare, compareSegments_eq]
  rfl

instance transCmp_compare : Std.TransCmp compare := by
  have hpre : Std.TransCmp fun a b : Version => comparePre a.pre b.pre :=
    { eq_swap := fun {a b} => comparePre_swap a.pre b.pre
      isLE_trans := fun {a b c} => comparePre_trans (a := a.pre) (b := b.pre) (c := c.pre) }
  rw [compare_eq_compareLex]
  infer_instance

end Version

end MultiCluster
