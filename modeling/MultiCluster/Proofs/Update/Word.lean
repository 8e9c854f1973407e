import MultiCluster.Proofs.Plan.Steps

namespace MultiCluster

def Target.missing (source other : List Target) : List ProjectId :=
  (source.map project).filter fun p => p ∉ other.map project

theorem Target.mem_missing {source other : List Target} {p : ProjectId} :
    p ∈ Target.missing source other ↔ p ∈ source.map project ∧ p ∉ other.map project := by
  simp [missing]

theorem Target.missing_eq_nil {source other : List Target} :
    Target.missing source other = [] ↔ ∀ p ∈ source.map project, p ∈ other.map project := by
  simp [missing]

def updateWord (changes : SpecChanges) (found desired : List Target) : List Change :=
  let removal := Target.missing found desired
  let addition := Target.missing desired found
  match changes.revision with
  | some revision => [.rollback revision]
  | none =>
    if changes.targetsChanged then
      (if removal ≠ [] then [.removal removal] else []) ++
        ((if addition ≠ [] then [.addition addition] else []) ++
          if removal = [] ∧ addition = [] ∨ changes.answersChanged = true ∧ removal ≠ [] then [.fields]
          else [])
    else [.fields]

def firstApp? (calls : List Call) : Option App :=
  match calls.head? with
  | some ⟨_, .getApp _, some (.ok (.app app))⟩ => some app
  | _ => none

namespace TargetDelta

theorem input_missingFrom_projects (source other : TargetSet) (withAnswers : Bool) :
    (input (missingFrom source other withAnswers)).projects =
      Target.missing source.targets other.targets := by
  rw [projects_input_missingFrom, Target.missing]
  refine List.filter_congr fun p _ => ?_
  rw [decide_not, Bool.not_inj_iff, Bool.eq_iff_iff, TargetSet.contains_iff, decide_eq_true_iff,
    List.mem_map]

theorem missingFrom_eq_nil {source other : TargetSet} {withAnswers : Bool} :
    missingFrom source other withAnswers = [] ↔ Target.missing source.targets other.targets = [] := by
  rw [← input_missingFrom_projects source other withAnswers, input, List.map_eq_nil_iff]

end TargetDelta

namespace Lifecycle

open Plan

variable {σ γ : Type} {allowed : WaitRequest → Prop}

def deltaOf (remote : App) (desired : Spec) (answersChanged : Bool) : TargetDelta :=
  .between ⟨remote.targets, remote.answers⟩ ⟨desired.targets, desired.answers⟩ answersChanged

theorem toRemove_eq_nil {remote : App} {desired : Spec} {answersChanged : Bool} :
    (deltaOf remote desired answersChanged).toRemove = [] ↔
      Target.missing remote.targets desired.targets = [] :=
  TargetDelta.missingFrom_eq_nil

theorem toAdd_eq_nil {remote : App} {desired : Spec} {answersChanged : Bool} :
    (deltaOf remote desired answersChanged).toAdd = [] ↔
      Target.missing desired.targets remote.targets = [] :=
  TargetDelta.missingFrom_eq_nil

theorem isEmpty_deltaOf (remote : App) (desired : Spec) (answersChanged : Bool) :
    (deltaOf remote desired answersChanged).isEmpty = true ↔
      Target.missing remote.targets desired.targets = [] ∧
        Target.missing desired.targets remote.targets = [] := by
  rw [TargetDelta.isEmpty, Bool.and_eq_true, List.isEmpty_iff, List.isEmpty_iff, toRemove_eq_nil,
    toAdd_eq_nil, and_comm]

theorem removalInput_deltaOf (remote : App) (desired : Spec) (answersChanged : Bool) :
    (deltaOf remote desired answersChanged).removalInput.projects =
      Target.missing remote.targets desired.targets :=
  TargetDelta.input_missingFrom_projects _ _ _

theorem additionInput_deltaOf (remote : App) (desired : Spec) (answersChanged : Bool) :
    (deltaOf remote desired answersChanged).additionInput.projects =
      Target.missing desired.targets remote.targets :=
  TargetDelta.input_missingFrom_projects _ _ _

def targetWord (view : Effect → γ) (fields : γ) (id : AppId) (delta : TargetDelta)
    (answersChanged : Bool) : List γ :=
  (if !delta.toRemove.isEmpty then [view (.removeProjects id delta.removalInput)] else []) ++
    ((if !delta.toAdd.isEmpty then [view (.addProjects id delta.additionInput)] else []) ++
      if delta.isEmpty || (answersChanged && !delta.toRemove.isEmpty) then [fields] else [])

section TargetWord

variable {fields : Effect} {id : AppId} {delta : TargetDelta} {answersChanged : Bool}

theorem targetWord_of_isEmpty (hremove : delta.toRemove = [])
    (hadd : delta.toAdd = []) :
    targetWord (fun effect => effect) fields id delta answersChanged = [fields] := by
  simp [targetWord, TargetDelta.isEmpty, hremove, hadd]

theorem targetWord_of_toRemove_nil (hremove : delta.toRemove = [])
    (hadd : delta.toAdd ≠ []) :
    targetWord (fun effect => effect) fields id delta answersChanged =
      [.addProjects id delta.additionInput] := by
  simp [targetWord, TargetDelta.isEmpty, hremove, hadd]

theorem targetWord_of_toAdd_nil (hremove : delta.toRemove ≠ [])
    (hadd : delta.toAdd = []) :
    targetWord (fun effect => effect) fields id delta answersChanged =
      .removeProjects id delta.removalInput :: if answersChanged then [fields] else [] := by
  simp [targetWord, TargetDelta.isEmpty, hremove, hadd]

theorem targetWord_of_both (hremove : delta.toRemove ≠ [])
    (hadd : delta.toAdd ≠ []) :
    targetWord (fun effect => effect) fields id delta answersChanged =
      .removeProjects id delta.removalInput :: .addProjects id delta.additionInput ::
        if answersChanged then [fields] else [] := by
  simp [targetWord, TargetDelta.isEmpty, hremove, hadd]

theorem mem_targetWord {effect : Effect}
    (h : effect ∈ targetWord (fun effect => effect) fields id delta answersChanged) :
    effect = .removeProjects id delta.removalInput ∨ effect = .addProjects id delta.additionInput ∨
      effect = fields := by
  simp only [targetWord, List.mem_append] at h
  rcases h with h | h | h
  all_goals
    split at h
    · simp only [List.mem_singleton] at h
      simp only [h, true_or, or_true]
    · exact absurd h List.not_mem_nil

end TargetWord

def modeWord (view : Effect → γ) (fields : γ) (id : AppId) (desired : Spec) (remote : App) :
    UpdateMode → List γ
  | .rollback revision => [view (.rollback id revision)]
  | .mutateTargets answersChanged =>
    targetWord view fields id (deltaOf remote desired answersChanged) answersChanged
  | .updateFields => [fields]

theorem changes_of_mutateTargets {changes : SpecChanges} {answersChanged : Bool}
    (h : UpdateMode.ofChanges changes = .mutateTargets answersChanged) :
    changes.revision = none ∧ changes.targetsChanged = true ∧
      changes.answersChanged = answersChanged := by
  unfold UpdateMode.ofChanges at h
  split at h
  · exact absurd h (by simp)
  · rename_i hrevision
    split at h
    · rename_i htargets
      exact ⟨hrevision, htargets, UpdateMode.mutateTargets.inj h⟩
    · exact absurd h (by simp)

theorem strict_updateFields (prior : AppRecord) (desired : Spec) :
    (updateFields prior desired).Strict allowed := by
  refine (strict_versionOrLatest _ _ _).bind fun version => ?_
  refine strict_perform (fun r hr => ?_) fun r => Strict.bind (p := checked _) trivial fun _ => trivial
  cases r with
  | app a => simp [Effect.accepts] at hr
  | _ => exact ⟨_, rfl⟩

theorem mutateTargets_eq (prior : AppRecord) (desired : Spec) (remote : App) (answersChanged : Bool) :
    let delta := deltaOf remote desired answersChanged
    mutateTargets prior desired remote answersChanged =
      (Plan.when (!delta.toRemove.isEmpty) (act (.removeProjects prior.id delta.removalInput))).bind
        fun _ => (Plan.when (!delta.toAdd.isEmpty)
            (act (.addProjects prior.id delta.additionInput))).bind
          fun _ => Plan.when (delta.isEmpty || (answersChanged && !delta.toRemove.isEmpty))
            (updateFields prior desired) := by
  intro delta
  simp only [when_bind]
  rfl

theorem strict_applyMode (prior : AppRecord) (desired : Spec) (remote : App) (mode : UpdateMode) :
    (applyMode prior desired remote mode).Strict allowed := by
  cases mode with
  | rollback revision => exact strict_act fun r => by cases r <;> rfl
  | mutateTargets answersChanged =>
    rw [applyMode, mutateTargets_eq]
    refine (Strict.when (strict_act fun r => by cases r <;> rfl)).bind fun _ => ?_
    refine (Strict.when (strict_act fun r => by cases r <;> rfl)).bind fun _ => ?_
    exact (strict_updateFields prior desired).when
  | updateFields => exact strict_updateFields prior desired

section Word

variable {view : Effect → γ} {fields : γ} {prior : AppRecord} {desired : Spec}
  (hfields : ∀ version, (desired.version.or prior.spec.version).getD version = version →
    view (.updateApp prior.id
      (desired.update (Naming.templateVersionId desired.catalog desired.template version))) = fields)

include hfields

theorem performs_updateFields : (updateFields prior desired).Performs view [fields] := by
  have hsubmit (version : String)
      (hversion : (desired.version.or prior.spec.version).getD version = version) :
      ((perform (.updateApp prior.id (desired.update
        (Naming.templateVersionId desired.catalog desired.template version)))).bind fun r =>
          (checked (r.toApp "update multi-cluster app")).bind fun _ => pure ()).Performs view
        [fields] := by
    rw [← hfields version hversion]
    exact performs_perform_of_write rfl fun r =>
      (performs_checked _).bind_of_nil fun _ => rfl
  unfold updateFields
  cases hknown : desired.version.or prior.spec.version with
  | some known => exact hsubmit known (by rw [hknown]; rfl)
  | none => exact (performs_resolveLatest _ _).bind fun version => hsubmit version (by rw [hknown]; rfl)

theorem performs_applyMode (remote : App) (mode : UpdateMode) :
    (applyMode prior desired remote mode).Performs view
      (modeWord view fields prior.id desired remote mode) := by
  cases mode with
  | rollback revision => exact performs_act rfl
  | mutateTargets answersChanged =>
    rw [applyMode, mutateTargets_eq]
    refine (performs_act rfl).when.bind fun _ => ?_
    exact (performs_act rfl).when.bind fun _ => (performs_updateFields hfields).when
  | updateFields => exact performs_updateFields hfields

end Word

def afterSnapshot (s : Settings) (prior : AppRecord) (desired : Spec) (remote : App) :
    Plan AppRecord :=
  (applyMode prior desired remote (.ofChanges (.between prior.spec desired))).bind fun _ =>
    (Plan.when desired.wait
      (converge s prior.id .active s.timeouts.update "update")).bind fun _ => readBack prior.id desired

theorem update_eq (s : Settings) (prior : AppRecord) (desired : Spec) :
    update s prior desired = (validate desired.targets desired.answers).bind fun _ =>
      (getApp prior.id).bind (afterSnapshot s prior desired) := by
  unfold update afterSnapshot Plan.when
  simp only [bind_eq]
  split <;> rfl

theorem strict_update (s : Settings) (prior : AppRecord) (desired : Spec) :
    (update s prior desired).Strict fun request =>
      desired.wait = true ∧ request = ⟨.app prior.id, .active, s.timeouts.update, s.poll⟩ := by
  rw [update_eq]
  refine Strict.bind (p := validate _ _) trivial fun _ => ?_
  refine (strict_getApp prior.id).bind fun remote => ?_
  refine (strict_applyMode prior desired remote _).bind fun _ => ?_
  refine Strict.bind ?_ fun _ => strict_readBack prior.id desired
  unfold Plan.when
  split
  · rename_i hwait
    exact strict_converge s prior.id .active s.timeouts.update "update" ⟨hwait, rfl⟩
  · trivial

theorem performs_afterSnapshot (view : Effect → γ) {fields : γ} (prior : AppRecord) (desired : Spec)
    (hfields : ∀ version, (desired.version.or prior.spec.version).getD version = version →
      view (.updateApp prior.id (desired.update
        (Naming.templateVersionId desired.catalog desired.template version))) = fields)
    (s : Settings) (remote : App) :
    (afterSnapshot s prior desired remote).Performs view
      (modeWord view fields prior.id desired remote (.ofChanges (.between prior.spec desired))) := by
  have hmode := performs_applyMode hfields remote (.ofChanges (.between prior.spec desired))
  have hall := hmode.bind fun _ =>
    performs_conclude s prior.id s.timeouts.update "update" desired
  rw [List.append_nil] at hall
  exact hall

theorem run_update (s : Setting σ) (settings : Settings) (prior : AppRecord) (desired : Spec)
    (w : World σ) :
    let reply := s.api.respond (.getApp prior.id) w.remote
    let seen : World σ := ⟨reply.state, w.now + reply.latency⟩
    let first : Call := ⟨w.now, .getApp prior.id, some reply.answer⟩
    (∃ e, (update settings prior desired).run s w = ⟨some (.error e), [], w⟩) ∨
      (∃ remote, reply.answer = .ok (.app remote) ∧ (update settings prior desired).run s w =
        { (afterSnapshot settings prior desired remote).run s seen with
          calls := first :: ((afterSnapshot settings prior desired remote).run s seen).calls }) ∨
      ∃ e, (∀ app, reply.answer ≠ .ok (.app app)) ∧
        (update settings prior desired).run s w = ⟨some (.error e), [first], seen⟩ := by
  intro reply seen first
  rw [update_eq, validate]
  cases (TargetSet.validate ⟨desired.targets, desired.answers⟩) with
  | error e => exact .inl ⟨.invalidSpec e, rfl⟩
  | ok _ => exact .inr (run_getApp_bind s prior.id (afterSnapshot settings prior desired) w)

theorem run_update_of_ok (s : Setting σ) (settings : Settings) {prior record : AppRecord}
    {desired : Spec} {w : World σ}
    (h : ((update settings prior desired).run s w).result = some (.ok record)) :
    let reply := s.api.respond (.getApp prior.id) w.remote
    let seen : World σ := ⟨reply.state, w.now + reply.latency⟩
    ∃ remote, reply.answer = .ok (.app remote) ∧ (update settings prior desired).run s w =
      { (afterSnapshot settings prior desired remote).run s seen with
        calls := ⟨w.now, .getApp prior.id, some reply.answer⟩ ::
          ((afterSnapshot settings prior desired remote).run s seen).calls } := by
  rcases run_update s settings prior desired w with ⟨e, hrun⟩ | hseen | ⟨e, _, hrun⟩
  · rw [hrun] at h
    exact absurd h (by simp)
  · exact hseen
  · rw [hrun] at h
    exact absurd h (by simp)

theorem modeWord_change? (prior : AppRecord) (desired : Spec) (remote : App) (changes : SpecChanges) :
    modeWord Effect.change? (some (prior.id, .fields)) prior.id desired remote (.ofChanges changes) =
      (updateWord changes remote.targets desired.targets).map fun change =>
        some (prior.id, change) := by
  unfold UpdateMode.ofChanges
  simp only [updateWord]
  cases changes.revision with
  | some revision => rfl
  | none =>
    by_cases htargets : changes.targetsChanged = true
    · simp only [htargets, ↓reduceIte, modeWord, targetWord, Effect.change?, removalInput_deltaOf,
        additionInput_deltaOf, Bool.not_eq_true', Bool.or_eq_true, Bool.and_eq_true,
        Bool.eq_false_iff, ne_eq, isEmpty_deltaOf, List.isEmpty_iff, toRemove_eq_nil, toAdd_eq_nil]
      split <;> split <;> split <;> rfl
    · simp only [htargets, Bool.false_eq_true, ↓reduceIte, modeWord, List.map_cons, List.map_nil]

end Lifecycle

end MultiCluster
