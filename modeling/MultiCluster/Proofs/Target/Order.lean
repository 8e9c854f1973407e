import Mathlib.Data.List.Forall2
import Mathlib.Data.List.Nodup
import MultiCluster.Target.Set

namespace MultiCluster.Target

variable {found declared result : List Target} {t : Target} {p : ProjectId}

theorem project_of_find? (h : found.find? (fun t => t.project = p) = some t) : t.project = p := by
  have hfound := List.find?_some h
  exact of_decide_eq_true hfound

theorem find?_isSome_of_mem (ht : t ∈ found) :
    ∃ first, found.find? (fun other => other.project = t.project) = some first := by
  refine Option.isSome_iff_exists.mp (List.find?_isSome.mpr ⟨t, ht, ?_⟩)
  exact decide_eq_true rfl

theorem find?_of_mem (hnodup : (found.map project).Nodup) (ht : t ∈ found) :
    found.find? (fun other => other.project = t.project) = some t := by
  obtain ⟨first, hfirst⟩ := find?_isSome_of_mem ht
  have hsame := List.inj_on_of_nodup_map hnodup (List.mem_of_find?_eq_some hfirst) ht
    (project_of_find? hfirst)
  rw [hfirst, hsame]

theorem mem_orderLike_of_find? (h : found.find? (fun t => t.project = p) = some t) :
    t ∈ orderLike found declared := by
  have hproject := project_of_find? h
  by_cases hdeclared : ∃ d ∈ declared, d.project = p
  · obtain ⟨d, hd, rfl⟩ := hdeclared
    exact List.mem_append_left _ (List.mem_filterMap.mpr ⟨d, hd, h⟩)
  · refine List.mem_append_right _ (List.mem_filter.mpr ⟨List.mem_of_find?_eq_some h, ?_⟩)
    rw [Bool.not_eq_true', List.any_eq_false]
    intro d hd heq
    exact hdeclared ⟨d, hd, (of_decide_eq_true heq).trans hproject⟩

theorem orderLike_eq_of_forall₂
    (hfirst : List.Forall₂ (fun d t => found.find? (fun other => other.project = d.project) = some t)
      declared result)
    (hall : ∀ t ∈ found, t.project ∈ declared.map project) : orderLike found declared = result := by
  have hlisted : (declared.filterMap fun d => found.find? fun other => other.project = d.project) =
      result := by
    clear hall
    induction hfirst with
    | nil => rfl
    | cons hd _ ih => rw [List.filterMap_cons, hd, ih]
  have hrest : (found.filter fun t => !declared.any fun d => d.project = t.project) = [] := by
    refine List.filter_eq_nil_iff.mpr fun t ht => ?_
    obtain ⟨d, hd, hproject⟩ := List.mem_map.mp (hall t ht)
    have hany : (declared.any fun d => d.project = t.project) = true :=
      List.any_eq_true.mpr ⟨d, hd, decide_eq_true hproject⟩
    rw [hany]
    exact Bool.false_ne_true
  rw [orderLike, hlisted, hrest, List.append_nil]

theorem orderLike_orderLike (hnodup : ((orderLike found declared).map project).Nodup) :
    orderLike found (orderLike found declared) = orderLike found declared := by
  refine orderLike_eq_of_forall₂ (List.forall₂_same.mpr fun t ht => ?_) fun t ht => ?_
  · obtain ⟨first, hfirst⟩ := find?_isSome_of_mem (mem_orderLike ht)
    have hsame := List.inj_on_of_nodup_map hnodup (mem_orderLike_of_find? hfirst) ht
      (project_of_find? hfirst)
    rw [hfirst, hsame]
  · obtain ⟨first, hfirst⟩ := find?_isSome_of_mem ht
    rw [← project_of_find? hfirst]
    exact List.mem_map_of_mem (mem_orderLike_of_find? hfirst)

theorem orderLike_of_same_projects (hnodup : (declared.map project).Nodup)
    (h : found.map project = declared.map project) : orderLike found declared = found := by
  have hpaired : List.Forall₂ (fun t d => t.project = d.project) found declared := by
    have heq : List.Forall₂ Eq (found.map project) (declared.map project) := by
      rw [List.forall₂_eq_eq_eq]
      exact h
    exact List.forall₂_map_right_iff.mp (List.forall₂_map_left_iff.mp heq)
  refine orderLike_eq_of_forall₂ ?_ fun t ht => h ▸ List.mem_map_of_mem ht
  have hfirst (t : Target) (ht : t ∈ found) :
      found.find? (fun other => other.project = t.project) = some t := find?_of_mem (h ▸ hnodup) ht
  have hboth := (List.forall₂_and_left found declared).mpr ⟨hfirst, hpaired⟩
  refine (hboth.imp ?_).flip
  rintro t d ⟨hfind, hsame⟩
  rw [hsame] at hfind
  exact hfind

end MultiCluster.Target
