import MultiCluster.Proofs.Update.Stored

namespace MultiCluster

namespace Store

theorem map_project_addTargets (targets : List Target) (projects : List ProjectId) (p : ProjectId) :
    p ∈ (addTargets targets projects).map Target.project ↔
      p ∈ targets.map Target.project ∨ p ∈ projects := by
  induction projects generalizing targets with
  | nil => simp [addTargets]
  | cons q rest ih =>
    have hstep : addTargets targets (q :: rest) =
        addTargets (if targets.any fun t => t.project = q then targets
          else targets ++ [.declared q]) rest := rfl
    rw [hstep, ih, List.mem_cons]
    split
    · rename_i hany
      have hq : q ∈ targets.map Target.project := by
        obtain ⟨t, ht, heq⟩ := List.any_eq_true.mp hany
        exact List.mem_map.mpr ⟨t, ht, by simpa using heq⟩
      constructor
      · rintro (h | h)
        · exact .inl h
        · exact .inr (.inr h)
      · rintro (h | rfl | h)
        · exact .inl h
        · exact .inl hq
        · exact .inr h
    · rw [List.map_append, List.mem_append, List.map_singleton, List.mem_singleton, or_assoc]
      rfl

theorem mem_projects_addProjects {id : AppId} {input : TargetsInput} {app : App} {p : ProjectId} :
    p ∈ (applied (.addProjects id input) app).targets.map Target.project ↔
      p ∈ app.targets.map Target.project ∨ p ∈ input.projects := by
  simp only [applied, map_project_deployed, map_project_addTargets]

theorem mem_projects_removeProjects {id : AppId} {input : TargetsInput} {app : App}
    {p : ProjectId} :
    p ∈ (applied (.removeProjects id input) app).targets.map Target.project ↔
      p ∈ app.targets.map Target.project ∧ p ∉ input.projects := by
  simp only [applied, List.mem_map, List.mem_filter, Bool.not_eq_true', List.contains_eq_mem,
    decide_eq_false_iff_not]
  constructor
  · rintro ⟨t, ⟨ht, hout⟩, rfl⟩
    exact ⟨⟨t, ht, rfl⟩, hout⟩
  · rintro ⟨⟨t, ht, rfl⟩, hout⟩
    exact ⟨t, ⟨ht, hout⟩, rfl⟩

end Store

namespace Lifecycle

open Plan

variable {desired : Spec} {app : App} {answersChanged : Bool} {id : AppId}

theorem toAdd_deltaOf_congr {other : App}
    (h : ∀ p ∈ desired.targets.map Target.project,
      p ∈ other.targets.map Target.project ↔ p ∈ app.targets.map Target.project) :
    (deltaOf other desired answersChanged).toAdd = (deltaOf app desired answersChanged).toAdd := by
  show TargetDelta.missingFrom _ _ _ = TargetDelta.missingFrom _ _ _
  unfold TargetDelta.missingFrom
  congr 1
  refine List.filter_congr fun t ht => ?_
  have hiff := h t.project (List.mem_map_of_mem ht)
  rw [Bool.not_inj_iff, Bool.eq_iff_iff, TargetSet.contains_iff, TargetSet.contains_iff,
    ← List.mem_map, ← List.mem_map]
  exact hiff

def LeavesFieldsOut (prior : AppRecord) (desired : Spec) (stored : List Target)
    (operation : String) : Prop :=
  let changes := SpecChanges.between prior.spec desired
  changes.revision = none ∧ changes.targetsChanged = true ∧ changes.answersChanged = true ∧
    Target.missing stored desired.targets ≠ [] ∧ Target.missing desired.targets stored ≠ [] ∧
    operation = "add projects"

instance (prior : AppRecord) (desired : Spec) (stored : List Target) (operation : String) :
    Decidable (LeavesFieldsOut prior desired stored operation) :=
  inferInstanceAs (Decidable (_ ∧ _ ∧ _ ∧ _ ∧ _ ∧ _))

theorem done_eq_nil {only effect : Effect} {done rest : List Effect}
    (h : [only] = done ++ effect :: rest) : done = [] := by
  cases done with
  | nil => rfl
  | cons first others => simp at h

theorem eq_of_fields_eq {condition : Bool} {fields effect : Effect} {done rest : List Effect}
    (h : (if condition then [fields] else []) = done ++ effect :: rest) :
    done = [] ∧ effect = fields ∧ rest = [] := by
  cases condition with
  | false => simp at h
  | true =>
    obtain rfl := done_eq_nil h
    simpa using h.symm

section Removed

variable (app : App) (desired : Spec) (answersChanged : Bool) (id : AppId) {fields : Effect}

def withoutLeaving : App :=
  Store.applied (.removeProjects id (deltaOf app desired answersChanged).removalInput) app

theorem missing_withoutLeaving :
    Target.missing (withoutLeaving app desired answersChanged id).targets desired.targets = [] := by
  refine Target.missing_eq_nil.mpr fun p hp => ?_
  rw [withoutLeaving, Store.mem_projects_removeProjects, removalInput_deltaOf,
    Target.mem_missing] at hp
  exact Decidable.byContradiction fun hout => hp.2 ⟨hp.1, hout⟩

theorem toRemove_withoutLeaving :
    (deltaOf (withoutLeaving app desired answersChanged id) desired answersChanged).toRemove = [] :=
  toRemove_eq_nil.mpr (missing_withoutLeaving app desired answersChanged id)

theorem toAdd_withoutLeaving :
    (deltaOf (withoutLeaving app desired answersChanged id) desired answersChanged).toAdd =
      (deltaOf app desired answersChanged).toAdd := by
  refine toAdd_deltaOf_congr fun p hp => ?_
  rw [withoutLeaving, Store.mem_projects_removeProjects, removalInput_deltaOf, Target.mem_missing]
  exact ⟨fun h => h.1, fun h => ⟨h, fun hout => hout.2 hp⟩⟩

theorem additionInput_withoutLeaving :
    (deltaOf (withoutLeaving app desired answersChanged id) desired answersChanged).additionInput =
      (deltaOf app desired answersChanged).additionInput := by
  rw [TargetDelta.additionInput, toAdd_withoutLeaving, ← TargetDelta.additionInput]

theorem targetWord_withoutLeaving (hadd : (deltaOf app desired answersChanged).toAdd ≠ []) :
    targetWord (fun effect => effect) fields id
        (deltaOf (withoutLeaving app desired answersChanged id) desired answersChanged)
        answersChanged =
      [.addProjects id (deltaOf app desired answersChanged).additionInput] := by
  rw [targetWord_of_toRemove_nil (toRemove_withoutLeaving app desired answersChanged id),
    additionInput_withoutLeaving]
  rwa [toAdd_withoutLeaving]

theorem targetWord_withoutLeaving_of_toAdd_nil
    (hadd : (deltaOf app desired answersChanged).toAdd = []) :
    targetWord (fun effect => effect) fields id
        (deltaOf (withoutLeaving app desired answersChanged id) desired answersChanged)
        answersChanged = [fields] :=
  targetWord_of_isEmpty (toRemove_withoutLeaving app desired answersChanged id)
    ((toAdd_withoutLeaving app desired answersChanged id).trans hadd)

theorem targetWord_after_addition :
    let added := Store.applied (.addProjects id (deltaOf app desired answersChanged).additionInput)
      (withoutLeaving app desired answersChanged id)
    targetWord (fun effect => effect) fields id (deltaOf added desired answersChanged)
      answersChanged = [fields] := by
  intro added
  have hstays := missing_withoutLeaving app desired answersChanged id
  rw [Target.missing_eq_nil] at hstays
  have hadded (p : ProjectId) : p ∈ added.targets.map Target.project ↔
      p ∈ (withoutLeaving app desired answersChanged id).targets.map Target.project ∨
        p ∈ Target.missing desired.targets
          (withoutLeaving app desired answersChanged id).targets := by
    rw [Store.mem_projects_addProjects, ← additionInput_withoutLeaving, additionInput_deltaOf]
  refine targetWord_of_isEmpty (toRemove_eq_nil.mpr (Target.missing_eq_nil.mpr fun p hp => ?_))
    (toAdd_eq_nil.mpr (Target.missing_eq_nil.mpr fun p hp => ?_))
  · exact ((hadded p).mp hp).elim (hstays p) fun hnew => (Target.mem_missing.mp hnew).1
  · rw [hadded, Target.mem_missing]
    by_cases hin : p ∈ (withoutLeaving app desired answersChanged id).targets.map Target.project
    · exact .inl hin
    · exact .inr ⟨hp, hin⟩

end Removed

theorem operation_of_removal {fields effect : Effect} {rest : List Effect}
    (hremove : (deltaOf app desired answersChanged).toRemove ≠ [])
    (h : targetWord (fun effect => effect) fields id (deltaOf app desired answersChanged)
      answersChanged = effect :: rest) : effect.operation = "remove projects" := by
  by_cases hadd : (deltaOf app desired answersChanged).toAdd = []
  · rw [targetWord_of_toAdd_nil hremove hadd] at h
    rw [← (List.cons.inj h).1]
    rfl
  · rw [targetWord_of_both hremove hadd] at h
    rw [← (List.cons.inj h).1]
    rfl

-- By what has to go and come, and by how much of it is done.
theorem targetWord_replay {update : AppUpdate} {done rest : List Effect} {effect : Effect}
    (h : targetWord (fun effect => effect) (.updateApp id update) id
      (deltaOf app desired answersChanged) answersChanged = done ++ effect :: rest) :
    let left := targetWord (fun effect => effect) (.updateApp id update) id
      (deltaOf (Store.replay done app) desired answersChanged) answersChanged
    let skips := answersChanged = true ∧ Target.missing app.targets desired.targets ≠ [] ∧
      Target.missing desired.targets app.targets ≠ [] ∧ effect.operation = "add projects"
    ¬ skips ∧ left = effect :: rest ∨ skips ∧ rest = [.updateApp id update] ∧ left = [effect] := by
  intro left skips
  by_cases hremove : (deltaOf app desired answersChanged).toRemove = []
  · have hdone : done = [] := by
      by_cases hadd : (deltaOf app desired answersChanged).toAdd = []
      · rw [targetWord_of_isEmpty hremove hadd] at h
        exact done_eq_nil h
      · rw [targetWord_of_toRemove_nil hremove hadd] at h
        exact done_eq_nil h
    subst hdone
    exact .inl ⟨fun hskips => hskips.2.1 (toRemove_eq_nil.mp hremove), h⟩
  cases done with
  | nil =>
    refine .inl ⟨fun hskips => ?_, h⟩
    have hboth := (operation_of_removal hremove h).symm.trans hskips.2.2.2
    exact absurd hboth (by simp)
  | cons first others =>
    by_cases hadd : (deltaOf app desired answersChanged).toAdd = []
    · rw [targetWord_of_toAdd_nil hremove hadd] at h
      obtain ⟨rfl, htail⟩ := List.cons.inj h
      obtain ⟨rfl, rfl, rfl⟩ := eq_of_fields_eq htail
      refine .inl ⟨fun hskips => hskips.2.2.1 (toAdd_eq_nil.mp hadd), ?_⟩
      exact targetWord_withoutLeaving_of_toAdd_nil app desired answersChanged id hadd
    · rw [targetWord_of_both hremove hadd] at h
      obtain ⟨rfl, htail⟩ := List.cons.inj h
      cases others with
      | nil =>
        obtain ⟨rfl, hrest⟩ := List.cons.inj htail
        have hleft : left = [.addProjects id (deltaOf app desired answersChanged).additionInput] :=
          targetWord_withoutLeaving app desired answersChanged id hadd
        rw [toRemove_eq_nil] at hremove
        rw [toAdd_eq_nil] at hadd
        cases answersChanged with
        | true => exact .inr ⟨⟨rfl, hremove, hadd, rfl⟩, hrest.symm, hleft⟩
        | false => exact .inl ⟨fun hskips => Bool.false_ne_true hskips.1, by rw [hleft, ← hrest]; rfl⟩
      | cons second more =>
        obtain ⟨rfl, hend⟩ := List.cons.inj htail
        obtain ⟨rfl, rfl, rfl⟩ := eq_of_fields_eq hend
        refine .inl ⟨fun hskips => absurd hskips.2.2.2 (by simp [Effect.operation]), ?_⟩
        exact targetWord_after_addition app desired answersChanged id

theorem mode_of_leavesFieldsOut {prior : AppRecord} {stored : List Target} {operation : String}
    (h : LeavesFieldsOut prior desired stored operation) :
    UpdateMode.ofChanges (.between prior.spec desired) = .mutateTargets true := by
  simp only [UpdateMode.ofChanges, h.1, h.2.1, h.2.2.1, ↓reduceIte]

theorem effectsOn_replay {prior : AppRecord} {done rest : List Effect} {effect : Effect}
    (h : effectsOn prior desired app = done ++ effect :: rest) :
    let left := effectsOn prior desired (Store.replay done app)
    ¬ LeavesFieldsOut prior desired app.targets effect.operation ∧ left = effect :: rest ∨
      LeavesFieldsOut prior desired app.targets effect.operation ∧
        rest = [.updateApp prior.id (desired.update (deployedVersion prior desired))] ∧
        left = [effect] := by
  intro left
  cases hmode : UpdateMode.ofChanges (.between prior.spec desired) with
  | rollback revision =>
    have hdone : done = [] := by
      simp only [effectsOn, hmode] at h
      exact done_eq_nil h
    subst hdone
    refine .inl ⟨fun hleaves => ?_, h⟩
    rw [mode_of_leavesFieldsOut hleaves] at hmode
    exact absurd hmode (by simp)
  | updateFields =>
    have hdone : done = [] := by
      simp only [effectsOn, hmode] at h
      exact done_eq_nil h
    subst hdone
    refine .inl ⟨fun hleaves => ?_, h⟩
    rw [mode_of_leavesFieldsOut hleaves] at hmode
    exact absurd hmode (by simp)
  | mutateTargets answersChanged =>
    have hchanges := changes_of_mutateTargets hmode
    have hiff : LeavesFieldsOut prior desired app.targets effect.operation ↔
        answersChanged = true ∧ Target.missing app.targets desired.targets ≠ [] ∧
          Target.missing desired.targets app.targets ≠ [] ∧ effect.operation = "add projects" := by
      simp only [LeavesFieldsOut, hchanges, true_and]
    simp only [effectsOn, hmode, modeWord] at h
    have hword := targetWord_replay h
    simp only [left, effectsOn, hmode, modeWord, hiff]
    exact hword

theorem eq_addProjects {effect : Effect} {id : AppId} {change : Change}
    (hchange : effect.change? = some (id, change)) (h : effect.operation = "add projects") :
    ∃ input, effect = .addProjects id input := by
  cases effect with
  | addProjects target input =>
    obtain ⟨rfl, -⟩ := Prod.mk.inj (Option.some.inj hchange)
    exact ⟨input, rfl⟩
  | _ => exact absurd h (by simp [Effect.operation])

theorem update_retried (cancelAt : Option Nat) (limit : Nat) (settings : Settings)
    (prior : AppRecord) (desired : Spec) (w : World Store) (operation : String)
    (failure : ApiError) (later : Nat) (record retriedRecord : AppRecord)
    (hprior : JustRead prior w.remote) :
    let s := Store.setting cancelAt limit
    let plan := update settings prior desired
    let whole := plan.run s w
    let failed := plan.run s ⟨w.remote.queueFailure operation failure, w.now⟩
    let retried := plan.run s ⟨failed.world.remote, later⟩
    whole.result = some (.ok record) →
      (∃ call ∈ failed.calls, call.effect.isRead = false ∧ call.effect.operation = operation ∧
        call.answer = some (.error failure)) →
      retried.result = some (.ok retriedRecord) →
      ∃ stored final, w.remote.app? prior.id = some stored ∧
        retried.world.remote.app? prior.id = some final ∧
        (¬ LeavesFieldsOut prior desired stored.targets operation →
          whole.world.remote.app? prior.id = some final) ∧
        (LeavesFieldsOut prior desired stored.targets operation →
          (∃ input, writes retried.calls = [.addProjects prior.id input]) ∧
          whole.world.remote.app? prior.id =
            some (Store.updated final (desired.update (deployedVersion prior desired)))) := by
  intro s plan whole failed retried hwhole hfailed hretried
  obtain ⟨stored, catalog, declared, hstored, hrecord⟩ := hprior.stored
  have hversion : prior.spec.version = some catalog.version := by
    rw [hrecord]
    rfl
  obtain ⟨hwholeApp, hwholeAll, _⟩ := update_stored cancelAt limit settings desired hversion hstored
  rw [hwholeAll record hwhole] at hwholeApp
  obtain ⟨hfailedApp, _, hstop⟩ := update_stored cancelAt limit settings desired
    (w := ⟨w.remote.queueFailure operation failure, w.now⟩) hversion hstored
  obtain ⟨call, hcall, hwrite, rfl, hanswer⟩ := hfailed
  have hrefused : call.succeeded = false := by
    rw [Call.succeeded, hanswer]
    exact call.effect.accepts_error failure
  obtain ⟨rest, hrest⟩ := hstop call hcall hwrite hrefused
  obtain ⟨hretriedApp, hretriedAll, _⟩ := update_stored cancelAt limit settings desired
    (w := ⟨failed.world.remote, later⟩) hversion hfailedApp
  have hretriedWrites := (writes_update cancelAt limit settings desired
    (w := ⟨failed.world.remote, later⟩) hversion hfailedApp).2 retriedRecord hretried
  rw [hretriedAll retriedRecord hretried] at hretriedApp
  refine ⟨stored, _, hstored, hretriedApp, fun hkeeps => ?_, fun hleaves => ?_⟩
  · rcases effectsOn_replay hrest with ⟨_, hleft⟩ | ⟨hleaves, _, _⟩
    · rw [hleft, ← Store.replay_append, ← hrest]
      exact hwholeApp
    · exact absurd hleaves hkeeps
  · rcases effectsOn_replay hrest with ⟨hkeeps, _⟩ | ⟨_, hfields, hleft⟩
    · exact absurd hleaves hkeeps
    · have hmem : call.effect ∈ effectsOn prior desired stored := by
        rw [hrest]
        exact List.mem_append_right _ List.mem_cons_self
      obtain ⟨change, hchange⟩ := change?_of_mem_modeWord hmem
      obtain ⟨input, hinput⟩ := eq_addProjects hchange hleaves.2.2.2.2.2
      refine ⟨⟨input, hretriedWrites.trans (hleft.trans (congrArg (fun effect => [effect]) hinput))⟩, ?_⟩
      rw [hfields] at hrest
      rw [hleft, ← Store.replay_append]
      rw [hrest, Store.replay_append, Store.replay_cons] at hwholeApp
      rw [Store.replay_append]
      exact hwholeApp

namespace Sample

def refusal : ApiError := .status 503 "try again"

end Sample

open Sample in
theorem update_retried_after_refused_fields :
    let s := Store.setting none 1
    let plan := update .standard known moved
    let whole := plan.run s ⟨store, 0⟩
    let failed := plan.run s ⟨store.queueFailure "update multi-cluster app" refusal, 0⟩
    let retried := plan.run s ⟨failed.world.remote, 0⟩
    JustRead known store ∧ whole.result = some (.ok (movedRecord [answer])) ∧
      (∃ call ∈ failed.calls, call.effect.isRead = false ∧
        call.effect.operation = "update multi-cluster app" ∧
        call.answer = some (.error refusal)) ∧
      retried.result = some (.ok (movedRecord [answer])) ∧
      whole.world.remote.app? known.id = retried.world.remote.app? known.id := by
  dsimp only
  obtain ⟨stored, final, _, hfinal, hsame, _⟩ := update_retried none 1 .standard known moved
    ⟨store, 0⟩ "update multi-cluster app" refusal 0 (movedRecord [answer]) (movedRecord [answer])
    justRead_known (by decide +kernel) (by decide +kernel) (by decide +kernel)
  have hkeeps : ¬ LeavesFieldsOut known moved stored.targets "update multi-cluster app" :=
    fun hleaves => absurd hleaves.2.2.2.2.2 (by simp)
  refine ⟨justRead_known, by decide +kernel, by decide +kernel, by decide +kernel, ?_⟩
  exact (hsame hkeeps).trans hfinal.symm

open Sample in
theorem retry_leaves_fields_out :
    let s := Store.setting none 1
    let plan := update .standard known moved
    let whole := plan.run s ⟨store, 0⟩
    let failed := plan.run s ⟨store.queueFailure "add projects" refusal, 0⟩
    let retried := plan.run s ⟨failed.world.remote, 0⟩
    JustRead known store ∧ whole.result = some (.ok (movedRecord [answer])) ∧
      (∃ call ∈ failed.calls, call.effect.isRead = false ∧
        call.effect.operation = "add projects" ∧ call.answer = some (.error refusal)) ∧
      retried.result = some (.ok (movedRecord [])) ∧
      (whole.world.remote.app? known.id).map App.answers = some [answer] ∧
      (retried.world.remote.app? known.id).map App.answers = some [] := by
  intro s plan whole failed retried
  exact ⟨justRead_known, by decide +kernel, by decide +kernel, by decide +kernel, by decide +kernel,
    by decide +kernel⟩

end Lifecycle

end MultiCluster
