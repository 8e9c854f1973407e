import MultiCluster.Proofs.Store.Deployment
import MultiCluster.Proofs.Update.Convergence

namespace MultiCluster

namespace Lifecycle

open Plan

variable {desired : Spec} {app : App} {id : AppId} {answersChanged : Bool}

def staying (stored desired : List Target) : List Target :=
  stored.filter fun t => t.project ∈ desired.map Target.project

theorem targets_removal (app : App) (desired : Spec) (answersChanged : Bool) (id : AppId) :
    (Store.replay (if !(deltaOf app desired answersChanged).toRemove.isEmpty then
        [.removeProjects id (deltaOf app desired answersChanged).removalInput] else []) app).targets =
      staying app.targets desired.targets := by
  split
  · rw [Store.replay_cons, Store.replay_nil, Store.applied, removalInput_deltaOf, staying]
    refine List.filter_congr fun t ht => ?_
    have hstored : t.project ∈ app.targets.map Target.project := List.mem_map_of_mem ht
    rw [List.contains_eq_mem, ← decide_not, decide_eq_decide, Target.mem_missing]
    exact ⟨fun h => Decidable.byContradiction fun hout => h ⟨hstored, hout⟩, fun hin h => h.2 hin⟩
  · rename_i hempty
    have hnone : (deltaOf app desired answersChanged).toRemove = [] := by simpa using hempty
    have hall := Target.missing_eq_nil.mp (toRemove_eq_nil.mp hnone)
    rw [Store.replay_nil, staying]
    refine (List.filter_eq_self.mpr fun t ht => ?_).symm
    exact decide_eq_true (hall t.project (List.mem_map_of_mem ht))

theorem targets_addition (other : App) (hnodup : (desired.targets.map Target.project).Nodup)
    (hother : ∀ p ∈ other.targets.map Target.project, p ∈ app.targets.map Target.project) :
    ∃ kept added,
      (Store.replay (if !(deltaOf app desired answersChanged).toAdd.isEmpty then
          [.addProjects id (deltaOf app desired answersChanged).additionInput] else []) other).targets =
        kept ++ added ∧
      List.Forall₂ Target.Keeps other.targets kept ∧
      added.map Target.project = Target.missing desired.targets app.targets := by
  split
  · rw [Store.replay_cons, Store.replay_nil, Store.applied, additionInput_deltaOf]
    have hnew (p : ProjectId) (hp : p ∈ Target.missing desired.targets app.targets) :
        p ∉ other.targets.map Target.project :=
      fun hmem => (Target.mem_missing.mp hp).2 (hother p hmem)
    have hdistinct : (Target.missing desired.targets app.targets).Nodup := hnodup.filter _
    rw [Store.addTargets_of_new hdistinct hnew, Store.deployed_append]
    refine ⟨_, _, rfl, Store.forall₂_keeps_deployed _ _ _ _, ?_⟩
    rw [Store.map_project_deployed, List.map_map]
    exact List.map_id _
  · rename_i hempty
    have hnone : (deltaOf app desired answersChanged).toAdd = [] := by simpa using hempty
    rw [toAdd_eq_nil.mp hnone]
    have hkept := List.forall₂_same.mpr fun t (_ : t ∈ other.targets) => t.keeps_self
    exact ⟨other.targets, [], (List.append_nil _).symm, hkept, rfl⟩

theorem targets_afterMode (app : App) (id : AppId) (answersChanged : Bool)
    (hnodup : (desired.targets.map Target.project).Nodup) :
    ∃ kept added, (afterMode id desired (.mutateTargets answersChanged) app).targets = kept ++ added ∧
      List.Forall₂ Target.Keeps (staying app.targets desired.targets) kept ∧
      added.map Target.project = Target.missing desired.targets app.targets := by
  have hfields (condition : Bool) (update : AppUpdate) (other : App) :
      (Store.replay (if condition then [.updateApp id update] else []) other).targets =
        other.targets := by
    cases condition <;> rfl
  have hstays := targets_removal app desired answersChanged id
  rw [afterMode, modeWord, targetWord, Store.replay_append, Store.replay_append, hfields, ← hstays]
  refine targets_addition _ hnodup fun p hp => ?_
  rw [hstays] at hp
  exact List.map_subset _ (List.filter_subset_self _) hp

theorem exists_change?_of_mem_writes {cancelAt : Option Nat} {limit : Nat} (settings : Settings)
    {prior : AppRecord} {w : World Store} (hstored : w.remote.app? prior.id = some app) {effect : Effect}
    (h : effect ∈ writes ((update settings prior desired).run (Store.setting cancelAt limit) w).calls) :
    ∃ change, effect.change? = some (prior.id, change) := by
  obtain ⟨hbegin, -⟩ := viewed_writes_update cancelAt limit settings desired Effect.change?
    (some (prior.id, .fields)) (fun _ _ => rfl) hstored
  have hmem := hbegin.subset (List.mem_map_of_mem h)
  rw [modeWord_change?] at hmem
  obtain ⟨change, -, hchange⟩ := List.mem_map.mp hmem
  exact ⟨change, hchange.symm⟩

theorem update_lands_on_targets (cancelAt : Option Nat) (limit : Nat) (settings : Settings)
    (prior : AppRecord) (desired : Spec) (w : World Store) (record : AppRecord) (answersChanged : Bool)
    (hmode : UpdateMode.ofChanges (.between prior.spec desired) = .mutateTargets answersChanged) :
    let run := (update settings prior desired).run (Store.setting cancelAt limit) w
    run.result = some (.ok record) →
      (∃ stored final kept added, w.remote.app? prior.id = some stored ∧
        run.world.remote.app? prior.id = some final ∧
        (∀ p, p ∈ final.targets.map Target.project ↔ p ∈ desired.targets.map Target.project) ∧
        final.targets = kept ++ added ∧
        List.Forall₂ Target.Keeps (staying stored.targets desired.targets) kept ∧
        added.map Target.project = Target.missing desired.targets stored.targets) ∧
      record.spec.targets.map Target.project = desired.targets.map Target.project ∧
      (record.spec.targets.map Target.project).Nodup ∧
      ∀ other, prior.id ≠ other → run.world.remote.app? other = w.remote.app? other := by
  intro run hok
  have hnodup := TargetSet.nodup_of_validate (valid_of_ok hok)
  have hupdates : Updates desired prior w.remote record run.world.remote :=
    ⟨cancelAt, limit, settings, w.now, hok, rfl⟩
  obtain ⟨stored, final, catalog, hstored, hfinal, rfl, heffects⟩ := hupdates.stored
  rw [hmode] at heffects
  have hplaced : Target.SameProjects final.targets desired.targets := by
    have hdone := done_projects_of_mutateTargets stored.withoutVersion desired answersChanged prior.id
    rwa [← heffects] at hdone
  have hreturned : (final.record prior.id catalog (some desired)).spec.targets.map Target.project =
      desired.targets.map Target.project := Target.map_project_orderLike_eq_iff.mpr hplaced
  refine ⟨?_, hreturned, hreturned ▸ hnodup, fun other hother => ?_⟩
  · obtain ⟨kept, added, htargets, hkept, hadded⟩ :=
      targets_afterMode stored.withoutVersion prior.id answersChanged hnodup
    rw [← heffects] at htargets
    refine ⟨stored, final, kept, added, hstored, hfinal, fun p => ?_, htargets, hkept, hadded⟩
    exact ⟨Target.missing_eq_nil.mp hplaced.1 p, Target.missing_eq_nil.mp hplaced.2 p⟩
  · exact Store.app?_run_of_ne (fun effect heffect =>
      exists_change?_of_mem_writes settings hstored heffect) hother

namespace Sample

def drifted : App :=
  { wordpress with
    targets := [(Target.declared ⟨"c-1:p-3"⟩).withInstance ⟨"mcapp-wordpress-3"⟩,
      (Target.declared ⟨"c-1:p-2"⟩).withInstance ⟨"mcapp-wordpress-2"⟩, .declared ⟨"c-1:p-2"⟩] }

def driftedStore : Store := store.putApp known.id drifted

def realigned : Spec :=
  { known.spec with targets := [.declared ⟨"c-1:p-1"⟩, .declared ⟨"c-1:p-2"⟩] }

def realignedApp : App :=
  { drifted with
    targets := [(Target.declared ⟨"c-1:p-2"⟩).withInstance ⟨"mcapp-wordpress-2"⟩,
      (Target.declared ⟨"c-1:p-2"⟩).withInstance ⟨"mcapp-wordpress-mcapp-1-1"⟩,
      (Target.declared ⟨"c-1:p-1"⟩).withInstance ⟨"mcapp-wordpress-mcapp-1-2"⟩] }

def realignedRecord : AppRecord := realignedApp.record known.id catalog (some realigned)

end Sample

open Sample in
theorem update_lands_on_targets_when_drifted :
    let run := (update .standard known realigned).run (Store.setting none 1) ⟨driftedStore, 0⟩
    UpdateMode.ofChanges (.between known.spec realigned) = .mutateTargets false ∧
      run.result = some (.ok realignedRecord) ∧
      run.world.remote.app? known.id = some realignedApp ∧
      realignedRecord.spec.targets.map Target.project = [⟨"c-1:p-1"⟩, ⟨"c-1:p-2"⟩] ∧
      realignedRecord.spec.targets.map Target.instanceId =
        [some ⟨"mcapp-wordpress-mcapp-1-2"⟩, some ⟨"mcapp-wordpress-2"⟩] := by
  intro run
  have hmode : UpdateMode.ofChanges (.between known.spec realigned) = .mutateTargets false := by
    decide +kernel
  have hok : run.result = some (.ok realignedRecord) := by decide +kernel
  obtain ⟨-, hreturned, -⟩ := update_lands_on_targets none 1 .standard known realigned ⟨driftedStore, 0⟩
    realignedRecord false hmode hok
  exact ⟨hmode, hok, by decide +kernel, hreturned, by decide +kernel⟩

end Lifecycle

end MultiCluster
