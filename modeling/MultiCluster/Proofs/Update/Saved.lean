import MultiCluster.CommandLine.Job
import MultiCluster.Proofs.Update.Answers
import MultiCluster.Proofs.Wire.RoundTrip

namespace MultiCluster

theorem Target.projects_withoutState (targets : List Target) :
    (targets.map withoutState).map project = targets.map project := by
  rw [List.map_map]
  rfl

theorem Target.orderLike_withoutStates (found declared : List Target) :
    orderLike found (declared.map withoutState) = orderLike found declared := by
  simp only [orderLike, List.filterMap_map, List.any_map, Function.comp_def, withoutState]
  rfl

theorem TargetSet.contains_withoutStates (targets : List Target) (answers : List Answer) :
    contains ⟨targets.map Target.withoutState, answers⟩ = contains ⟨targets, answers⟩ := by
  funext project
  simp only [contains, List.any_map, Function.comp_def, Target.withoutState]
  rfl

theorem TargetSet.validate_withoutStates (targets : List Target) (answers : List Answer) :
    validate ⟨targets.map Target.withoutState, answers⟩ = validate ⟨targets, answers⟩ := by
  simp only [validate, Target.projects_withoutState, answeredProjects]

namespace TargetDelta

theorem input_map_withoutState (entries : List DeltaEntry) :
    input (entries.map fun e => { e with target := e.target.withoutState }) = input entries := by
  simp only [input, List.map_map, List.filterMap_map, Function.comp_def, Target.withoutState]

theorem between_withoutStates (current : TargetSet) (targets : List Target) (answers : List Answer)
    (answersChanged : Bool) :
    between current ⟨targets.map Target.withoutState, answers⟩ answersChanged =
      { between current ⟨targets, answers⟩ answersChanged with
        toAdd := (between current ⟨targets, answers⟩ answersChanged).toAdd.map
          fun e => { e with target := e.target.withoutState } } := by
  simp only [between, missingFrom, TargetSet.contains_withoutStates, List.filter_map, List.map_map,
    Function.comp_def, Target.withoutState]
  rfl

end TargetDelta

theorem SpecChanges.between_withoutStates (prior desired : Spec) :
    between prior.withoutStates desired.withoutStates = between prior desired := by
  simp only [between, Spec.withoutStates, Target.projects_withoutState, newRevision]
  rfl

theorem App.record_withoutStates (app : App) (id : AppId) (ref : CatalogRef) (declared : Spec) :
    app.record id ref (some declared.withoutStates) = app.record id ref (some declared) := by
  simp only [record, Spec.withoutStates, Target.orderLike_withoutStates]

namespace Lifecycle

variable (s : Settings) (id : AppId) (prior : AppRecord) (desired : Spec) (remote : App)

theorem validate_withoutStates (targets : List Target) (answers : List Answer) :
    validate (targets.map Target.withoutState) answers = validate targets answers := by
  rw [validate, validate, TargetSet.validate_withoutStates]

theorem mutateTargets_withoutStates (answersChanged : Bool) :
    mutateTargets prior.withoutStates desired.withoutStates remote answersChanged =
      mutateTargets prior desired remote answersChanged := by
  have hid : prior.withoutStates.id = prior.id := rfl
  have hfields : updateFields prior.withoutStates desired.withoutStates = updateFields prior desired := rfl
  have hdelta : TargetDelta.between ⟨remote.targets, remote.answers⟩
      ⟨desired.withoutStates.targets, desired.withoutStates.answers⟩ answersChanged = _ :=
    TargetDelta.between_withoutStates ⟨remote.targets, remote.answers⟩ desired.targets desired.answers
      answersChanged
  simp only [mutateTargets, hid, hfields, hdelta, TargetDelta.additionInput, TargetDelta.removalInput,
    TargetDelta.isEmpty, TargetDelta.input_map_withoutState, List.isEmpty_map]
  rfl

theorem applyMode_withoutStates (mode : UpdateMode) :
    applyMode prior.withoutStates desired.withoutStates remote mode =
      applyMode prior desired remote mode := by
  cases mode with
  | rollback revision => rfl
  | mutateTargets answersChanged => exact mutateTargets_withoutStates prior desired remote answersChanged
  | updateFields => rfl

theorem readBack_withoutStates : readBack id desired.withoutStates = readBack id desired := by
  simp only [readBack, read, App.record_withoutStates]

theorem update_withoutStates :
    update s prior.withoutStates desired.withoutStates = update s prior desired := by
  have hchanges : SpecChanges.between prior.withoutStates.spec desired.withoutStates =
      .between prior.spec desired := SpecChanges.between_withoutStates prior.spec desired
  have hvalid : validate desired.withoutStates.targets desired.withoutStates.answers =
      validate desired.targets desired.answers := validate_withoutStates desired.targets desired.answers
  simp only [update, hvalid, hchanges, applyMode_withoutStates, readBack_withoutStates]
  rfl

theorem update_of_same_withoutStates {prior prior₂ : AppRecord} {desired desired₂ : Spec}
    (hprior : prior₂.withoutStates = prior.withoutStates)
    (hdesired : desired₂.withoutStates = desired.withoutStates) :
    update s prior₂ desired₂ = update s prior desired :=
  calc update s prior₂ desired₂
      = update s prior₂.withoutStates desired₂.withoutStates := (update_withoutStates ..).symm
    _ = update s prior.withoutStates desired.withoutStates := by rw [hprior, hdesired]
    _ = update s prior desired := update_withoutStates ..

end Lifecycle

namespace CommandLine

open Json

variable {α : Type} {codec : Codec α} {files : Files} {file : String} {v : α}

def Saves (files : Files) (file : String) (codec : Codec α) (v : α) : Prop :=
  ∃ text, files file = .ok text ∧ (codec.encode v).PrintedAs text

theorem saves_of_write (h : files file = .ok (codec.write v)) : Saves files file codec v :=
  ⟨_, h, Value.printedAs_text (codec.encode v)⟩

theorem saves_of_recordText {r : AppRecord} (h : files file = .ok (recordText r)) :
    Saves files file AppRecord.codec r :=
  ⟨_, h, (Value.printedAs_indented (AppRecord.codec.encode r)).append_newline⟩

theorem load_of_saves {kept : α → α} {room : Nat} (hcodec : codec.Faithful kept room)
    (h : Saves files file codec v) : load codec files file = .ok (kept v) := by
  obtain ⟨text, htext, hprinted⟩ := h
  rw [load, htext]
  show (codec.read text).mapError _ = _
  rw [hcodec.read hprinted]
  rfl

theorem plan_update_of_saves (s : Settings) {stateFile specFile : String} {prior : AppRecord}
    {desired : Spec} (hprior : Saves files stateFile AppRecord.codec prior)
    (hdesired : Saves files specFile Spec.codec desired) :
    (Command.update stateFile specFile).plan s files =
      .ok (recordText <$> Lifecycle.update s prior desired) := by
  simp only [Command.plan, load_of_saves (@AppRecord.faithful 0) hprior,
    load_of_saves (@Spec.faithful 0) hdesired]
  show Except.ok (recordText <$> Lifecycle.update s prior.withoutStates desired.withoutStates) = _
  rw [Lifecycle.update_withoutStates]

end CommandLine

namespace Lifecycle

open CommandLine (Files Saves load)

theorem update_from_saved {σ : Type} (s : Settings) (files : Files) (stateFile specFile : String)
    (prior : AppRecord) (desired : Spec) (hprior : Saves files stateFile AppRecord.codec prior)
    (hdesired : Saves files specFile Spec.codec desired) :
    (∃ prior' desired', load AppRecord.codec files stateFile = .ok prior' ∧
      load Spec.codec files specFile = .ok desired' ∧
      ∀ (setting : Setting σ) (w : World σ),
        (update s prior' desired').run setting w = (update s prior desired).run setting w) ∧
    ∀ prior₂ desired₂, AppRecord.withoutStates prior₂ = prior.withoutStates →
      Spec.withoutStates desired₂ = desired.withoutStates →
        ∀ (setting : Setting σ) (w : World σ),
          (update s prior₂ desired₂).run setting w = (update s prior desired).run setting w := by
  have hrecord := CommandLine.load_of_saves (@AppRecord.faithful 0) hprior
  have hspec := CommandLine.load_of_saves (@Spec.faithful 0) hdesired
  refine ⟨⟨prior.withoutStates, desired.withoutStates, hrecord, hspec, fun setting w => ?_⟩, ?_⟩
  · rw [update_withoutStates]
  · intro prior₂ desired₂ hprior₂ hdesired₂ setting w
    rw [update_of_same_withoutStates s hprior₂ hdesired₂]

namespace Sample

def liveTargets (spec : Spec) (state : String) : Spec :=
  { spec with targets := spec.targets.map fun t => { t with state := some state } }

def liveKnown : AppRecord := ⟨known.id, liveTargets known.spec State.active⟩

def liveExtended : Spec := liveTargets extended State.removing

def savedFiles : Files := fun file =>
  if file = "state.json" then .ok (CommandLine.recordText liveKnown)
  else .ok (Spec.codec.write liveExtended)

end Sample

open Sample in
theorem update_from_saved_of_live_targets :
    let live := (update .standard liveKnown liveExtended).run (Store.setting none 1) ⟨store, 0⟩
    liveKnown.withoutStates ≠ liveKnown ∧ liveExtended.withoutStates ≠ liveExtended ∧
      live.result = some (.ok (extendedApp.record known.id catalog (some extended))) ∧
      ∃ prior' desired', load AppRecord.codec savedFiles "state.json" = .ok prior' ∧
        load Spec.codec savedFiles "spec.json" = .ok desired' ∧
        (update .standard prior' desired').run (Store.setting none 1) ⟨store, 0⟩ = live := by
  intro live
  obtain ⟨⟨prior', desired', hprior, hdesired, hrun⟩, -⟩ := update_from_saved .standard savedFiles
    "state.json" "spec.json" liveKnown liveExtended (CommandLine.saves_of_recordText rfl)
    (CommandLine.saves_of_write rfl)
  exact ⟨by decide +kernel, by decide +kernel, by decide +kernel, prior', desired', hprior, hdesired,
    hrun _ _⟩

end Lifecycle

end MultiCluster
