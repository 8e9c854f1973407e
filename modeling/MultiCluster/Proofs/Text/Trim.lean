import Mathlib.Data.List.DropRight
import MultiCluster.Text.Split

namespace MultiCluster.Text

section

variable {α : Type} {p : α → Bool} {c : α}

theorem dropWhile_append_cons (before after : List α) (hc : p c = false) :
    (before ++ c :: after).dropWhile p = before.dropWhile p ++ c :: after := by
  rw [List.dropWhile_append, List.dropWhile_cons_of_neg (by simp [hc])]
  split
  · rename_i hnone
    rw [List.isEmpty_iff.mp hnone, List.nil_append]
  · rfl

theorem rdropWhile_append_cons (before after : List α) (hc : p c = false) :
    (before ++ c :: after).rdropWhile p = before ++ c :: after.rdropWhile p := by
  have hreverse : (before ++ c :: after).reverse = after.reverse ++ c :: before.reverse := by simp
  rw [List.rdropWhile, hreverse, dropWhile_append_cons _ _ hc, List.reverse_append, List.reverse_cons,
    List.reverse_reverse, List.append_assoc]
  rfl

theorem rdropWhile_append_of_pos {text after : List α} (h : ∀ c ∈ after, p c = true) :
    (text ++ after).rdropWhile p = text.rdropWhile p := by
  rw [List.rdropWhile, List.reverse_append,
    List.dropWhile_append_of_pos fun c hc => h c (List.mem_reverse.mp hc)]
  rfl

end

theorem trim_eq (s : List Char) : trim s = (s.dropWhile isBlank).rdropWhile isBlank := rfl

theorem dropWhile_of_trimmed {s : List Char} (h : trim s = s) : s.dropWhile isBlank = s := by
  have hprefix : (trim s).length ≤ (s.dropWhile isBlank).length :=
    (List.rdropWhile_prefix isBlank _).length_le
  rw [h] at hprefix
  have hsuffix := List.dropWhile_suffix (l := s) isBlank
  exact hsuffix.eq_of_length (Nat.le_antisymm hsuffix.length_le hprefix)

theorem rdropWhile_of_trimmed {s : List Char} (h : trim s = s) : s.rdropWhile isBlank = s := by
  rw [trim_eq, dropWhile_of_trimmed h] at h
  exact h

theorem trim_cons_of_trimmed {s : List Char} {c : Char} (h : trim s = s) (hc : isBlank c = false) :
    trim (c :: s) = c :: s := by
  have hfirst : ¬ isBlank c = true := by simp [hc]
  have hlast := rdropWhile_append_cons [] s hc
  rw [trim_eq, List.dropWhile_cons_of_neg hfirst]
  rwa [rdropWhile_of_trimmed h] at hlast

variable {left right : List Char}

theorem trim_around (s : List Char) (hleft : ∀ c ∈ left, isBlank c = true)
    (hright : ∀ c ∈ right, isBlank c = true) (h : trim s = s) : trim (left ++ s ++ right) = s := by
  rw [trim_eq, List.append_assoc, List.dropWhile_append_of_pos hleft]
  cases s with
  | nil =>
    rw [List.nil_append, List.dropWhile_eq_nil_iff.mpr hright]
    rfl
  | cons c rest =>
    have hfirst : ¬ isBlank c = true := List.dropWhile_eq_self_iff.mp (dropWhile_of_trimmed h) (Nat.succ_pos _)
    rw [List.cons_append, List.dropWhile_cons_of_neg hfirst, ← List.cons_append,
      rdropWhile_append_of_pos hright, rdropWhile_of_trimmed h]

theorem trim_around_cons {s after : List Char} {c : Char} (hleft : ∀ d ∈ left, isBlank d = true)
    (h : trim s = s) (hc : isBlank c = false) :
    trim (left ++ (s ++ c :: after)) = s ++ c :: after.rdropWhile isBlank := by
  rw [trim_eq, List.dropWhile_append_of_pos hleft, dropWhile_append_cons _ _ hc, dropWhile_of_trimmed h,
    rdropWhile_append_cons _ _ hc]

end MultiCluster.Text
