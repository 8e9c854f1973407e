import Mathlib.Data.Finset.Dedup
import MultiCluster.Proofs.Delete.Children
import MultiCluster.Proofs.Target.Order
import MultiCluster.Proofs.Update.Convergence

namespace MultiCluster

namespace Target

variable {found declared : List Target} {t : Target}

theorem sameProjects_iff : SameProjects found declared ↔
    (found.map project).toFinset = (declared.map project).toFinset := by
  rw [SameProjects, missing_eq_nil, missing_eq_nil, Finset.ext_iff]
  simp only [List.mem_toFinset]
  constructor
  · rintro ⟨hfound, hdeclared⟩ p
    exact ⟨hfound p, hdeclared p⟩
  · intro h
    exact ⟨fun p => (h p).mp, fun p => (h p).mpr⟩

def listed (found declared : List Target) : List Target :=
  declared.filterMap fun d => found.find? fun t => t.project = d.project

theorem orderLike_eq (found declared : List Target) : orderLike found declared =
    listed found declared ++ found.filter fun t => t.project ∉ declared.map project := by
  rw [orderLike, listed]
  congr 1
  refine List.filter_congr fun t _ => ?_
  rw [decide_not, Bool.not_inj_iff, Bool.eq_iff_iff, List.any_eq_true, decide_eq_true_iff,
    List.mem_map]
  simp only [decide_eq_true_eq]

theorem map_project_listed (found declared : List Target) : (listed found declared).map project =
    (declared.map project).filter fun p => p ∈ found.map project := by
  have hboth := map_project_orderLike found declared
  rw [orderLike_eq, List.map_append] at hboth
  have hrest : (found.filter fun t => t.project ∉ declared.map project).map project =
      missing found declared := by
    rw [missing, List.filter_map]
    rfl
  rw [hrest] at hboth
  exact List.append_cancel_right hboth

theorem orderLike_nil (found : List Target) : orderLike found [] = found := by
  rw [orderLike_eq]
  simp [listed]

section Once

variable (hfound : (found.map project).Nodup)

include hfound

theorem count_listed (ht : t ∈ found) :
    (listed found declared).count t = (declared.map project).count t.project := by
  rw [listed, List.count_filterMap, List.count_eq_countP, List.countP_map]
  refine List.countP_congr fun d _ => ?_
  rw [beq_iff_eq, Function.comp_apply, beq_iff_eq]
  constructor
  · intro h
    exact (project_of_find? h).symm
  · intro h
    rw [h]
    exact find?_of_mem hfound ht

theorem count_orderLike (ht : t ∈ found) :
    (orderLike found declared).count t = max 1 ((declared.map project).count t.project) := by
  have hnodup : found.Nodup := hfound.of_map project
  rw [orderLike_eq, List.count_append, count_listed hfound ht]
  by_cases hdeclared : t.project ∈ declared.map project
  · have hrest : (found.filter fun t => t.project ∉ declared.map project).count t = 0 :=
      List.count_eq_zero.mpr fun hmem => of_decide_eq_true (List.mem_filter.mp hmem).2 hdeclared
    have hpos := List.count_pos_iff.mpr hdeclared
    omega
  · have hrest : (found.filter fun t => t.project ∉ declared.map project).count t = found.count t :=
      List.count_filter (decide_eq_true hdeclared)
    rw [List.count_eq_zero.mpr hdeclared, hrest, hnodup.count, if_pos ht]
    rfl

theorem perm_orderLike_iff : (orderLike found declared).Perm found ↔
    ∀ t ∈ found, (declared.map project).count t.project ≤ 1 := by
  have hnodup : found.Nodup := hfound.of_map project
  rw [List.perm_iff_count]
  constructor
  · intro hsame t ht
    have hcount := hsame t
    rw [count_orderLike hfound ht, hnodup.count, if_pos ht] at hcount
    omega
  · intro honce t
    by_cases ht : t ∈ found
    · rw [count_orderLike hfound ht, hnodup.count, if_pos ht]
      have := honce t ht
      omega
    · rw [List.count_eq_zero.mpr ht, List.count_eq_zero.mpr fun hmem => ht (mem_orderLike hmem)]

variable (hdeclared : (declared.map project).Nodup)

include hdeclared

theorem perm_listed :
    (listed found declared).Perm (found.filter fun t => t.project ∈ declared.map project) := by
  have hnodup : (listed found declared).Nodup := by
    refine List.Nodup.of_map project ?_
    rw [map_project_listed]
    exact hdeclared.filter _
  refine (List.perm_ext_iff_of_nodup hnodup ((hfound.of_map project).filter _)).mpr fun t => ?_
  rw [List.mem_filter, decide_eq_true_iff]
  constructor
  · intro h
    obtain ⟨d, hd, hfind⟩ := List.mem_filterMap.mp h
    exact ⟨List.mem_of_find?_eq_some hfind, project_of_find? hfind ▸ List.mem_map_of_mem hd⟩
  · rintro ⟨ht, hlisted⟩
    obtain ⟨d, hd, hsame⟩ := List.mem_map.mp hlisted
    exact List.mem_filterMap.mpr ⟨d, hd, hsame ▸ find?_of_mem hfound ht⟩

theorem nodup_map_project_orderLike : ((orderLike found declared).map project).Nodup := by
  have hperm : (orderLike found declared).Perm found := by
    refine (perm_orderLike_iff hfound).mpr fun t _ => ?_
    exact List.nodup_iff_count_le_one.mp hdeclared t.project
  exact (hperm.map project).nodup_iff.mpr hfound

end Once

end Target

namespace Lifecycle

open Plan

variable {σ : Type}

def declaredProjects (declared : Option Spec) : List ProjectId :=
  (declared.elim [] Spec.targets).map Target.project

theorem targets_record (app : App) (id : AppId) (catalog : CatalogRef) (declared : Option Spec) :
    (app.record id catalog declared).spec.targets =
      Target.orderLike app.targets (declared.elim [] Spec.targets) := by
  cases declared with
  | none => exact (Target.orderLike_nil app.targets).symm
  | some spec => rfl

theorem record_of_read {s : Setting σ} {id : AppId} {declared : Option Spec} {w : World σ}
    {record : AppRecord} (h : ((read id declared).run s w).result = some (.ok (some record))) :
    ∃ app catalog, firstApp? ((read id declared).run s w).calls = some app ∧
      record = app.record id catalog declared := by
  rw [read_eq, Plan.run_call_eq] at h ⊢
  cases hanswer : s.answer (.getApp id) w with
  | error e =>
    rw [hanswer] at h
    simp only at h
    split at h <;> exact absurd h (by simp [run])
  | ok response =>
    rw [hanswer] at h
    cases response with
    | app app =>
      have hfirst : s.made (.getApp id) w = ⟨w.now, .getApp id, some (.ok (.app app))⟩ := by
        rw [← hanswer]
        rfl
      obtain ⟨_, hread, hdone⟩ := result_bind_ok (p := readFound id declared app) h
      obtain rfl := Option.some.inj (Except.ok.inj (Option.some.inj hdone))
      obtain ⟨catalog, hrecord⟩ := record_of_readFound hread
      refine ⟨app, catalog, ?_, hrecord⟩
      simp only [firstApp?, hfirst, List.head?_cons]
    | _ => cases h

theorem read_lists {s : Setting σ} {id : AppId} {declared : Option Spec} {w : World σ}
    {record : AppRecord} (h : ((read id declared).run s w).result = some (.ok (some record))) :
    ∃ app, firstApp? ((read id declared).run s w).calls = some app ∧
      ((app.targets.map Target.project).Nodup →
        (∀ t, record.spec.targets.count t =
          if t ∈ app.targets then max 1 ((declaredProjects declared).count t.project) else 0) ∧
        (record.spec.targets.Perm app.targets ↔
          ∀ t ∈ app.targets, (declaredProjects declared).count t.project ≤ 1)) := by
  obtain ⟨app, catalog, hfirst, rfl⟩ := record_of_read h
  rw [targets_record]
  refine ⟨app, hfirst, fun hnodup => ⟨fun t => ?_, Target.perm_orderLike_iff hnodup⟩⟩
  split
  · exact Target.count_orderLike hnodup ‹_›
  · exact List.count_eq_zero.mpr fun hmem => ‹t ∉ app.targets› (Target.mem_orderLike hmem)

namespace Sample

def twice : Spec :=
  { known.spec with targets := [.declared ⟨"c-1:p-1"⟩, .declared ⟨"c-1:p-1"⟩] }

def reread : PlanRun Store (Option AppRecord) :=
  (read known.id (some twice)).run (Store.setting none 0) ⟨store, 0⟩

theorem result_reread :
    reread.result = some (.ok (some (wordpress.record known.id catalog (some twice)))) := by
  decide +kernel

end Sample

open Sample

theorem read_lists_of_repetition :
    ∃ record, reread.result = some (.ok (some record)) ∧
      ∀ t ∈ wordpress.targets, record.spec.targets.count t = 2 := by
  refine ⟨_, result_reread, fun t ht => ?_⟩
  obtain ⟨app, hfirst, hlists⟩ := read_lists result_reread
  have hstored : firstApp? reread.calls = some wordpress := by decide +kernel
  obtain rfl : wordpress = app := Option.some.inj (hstored.symm.trans hfirst)
  obtain ⟨hcount, -⟩ := hlists (by decide)
  rw [hcount t, if_pos ht]
  obtain rfl := List.mem_singleton.mp ht
  decide +kernel

theorem read_repeats_target :
    ∃ record, reread.result = some (.ok (some record)) ∧ firstApp? reread.calls = some wordpress ∧
      (wordpress.targets.map Target.project).Nodup ∧ ¬ record.spec.targets.Perm wordpress.targets :=
  ⟨_, result_reread, by decide +kernel, by decide, by decide +kernel⟩

theorem record_lists (app : App) (id : AppId) (catalog : CatalogRef) (declared : Spec)
    (hfound : (app.targets.map Target.project).Nodup)
    (hdeclared : (declared.targets.map Target.project).Nodup) :
    let listed := Target.orderLike app.targets declared.targets
    (∃ first, listed =
        first ++ app.targets.filter (fun t => t.project ∉ declared.targets.map Target.project) ∧
      first.Perm (app.targets.filter fun t => t.project ∈ declared.targets.map Target.project) ∧
      first.map Target.project = (declared.targets.map Target.project).filter
        fun p => p ∈ app.targets.map Target.project) ∧
    Target.orderLike app.targets listed = listed ∧ Target.orderLike listed listed = listed ∧
    ((SpecChanges.between (app.record id catalog (some declared)).spec declared).targetsChanged = true ↔
      (app.targets.map Target.project).toFinset ≠ (declared.targets.map Target.project).toFinset) := by
  intro listed
  have hlisted : (listed.map Target.project).Nodup := Target.nodup_map_project_orderLike hfound hdeclared
  refine ⟨⟨_, Target.orderLike_eq _ _, Target.perm_listed hfound hdeclared,
    Target.map_project_listed _ _⟩, Target.orderLike_orderLike hlisted,
    Target.orderLike_of_same_projects hlisted rfl, ?_⟩
  have hchanged : (SpecChanges.between (app.record id catalog (some declared)).spec
      declared).targetsChanged = true ↔ listed.map Target.project ≠ declared.targets.map Target.project :=
    decide_eq_true_iff
  rw [hchanged, Ne, Ne, Target.map_project_orderLike_eq_iff, Target.sameProjects_iff]

namespace Sample

def scattered : App :=
  { wordpress with
    targets := [(Target.declared ⟨"c-1:p-3"⟩).withInstance ⟨"mcapp-wordpress-3"⟩,
      (Target.declared ⟨"c-1:p-1"⟩).withInstance ⟨"mcapp-wordpress-1"⟩,
      (Target.declared ⟨"c-1:p-2"⟩).withInstance ⟨"mcapp-wordpress-2"⟩] }

def narrowed : Spec :=
  { known.spec with
    targets := [.declared ⟨"c-1:p-2"⟩, .declared ⟨"c-1:p-9"⟩, .declared ⟨"c-1:p-1"⟩] }

end Sample

theorem record_lists_of_scattered :
    (scattered.targets.map Target.project).Nodup ∧ (narrowed.targets.map Target.project).Nodup ∧
      (Target.orderLike scattered.targets narrowed.targets).map Target.project =
        [⟨"c-1:p-2"⟩, ⟨"c-1:p-1"⟩, ⟨"c-1:p-3"⟩] ∧
      (SpecChanges.between (scattered.record known.id catalog (some narrowed)).spec
        narrowed).targetsChanged = true := by
  obtain ⟨-, -, -, hchanged⟩ :=
    record_lists scattered known.id catalog narrowed (by decide) (by decide)
  exact ⟨by decide, by decide, by decide, hchanged.mpr (by decide)⟩

end Lifecycle

end MultiCluster
