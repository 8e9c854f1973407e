import MultiCluster.Lifecycle.Changes
import MultiCluster.Lifecycle.Plan
import MultiCluster.Target.Delta
import MultiCluster.Template.Latest
import MultiCluster.Template.CatalogRef

namespace MultiCluster

structure Settings where
  poll : PollConfig
  timeouts : Timeouts
  deriving DecidableEq, Repr

def Settings.standard : Settings := ⟨.standard, .standard⟩

inductive DeleteOutcome where
  | alreadyAbsent
  | removed (confirmed unconfirmed : Nat)
  deriving DecidableEq, Repr

namespace Lifecycle

def checked {α : Type} (result : Except ApiError α) : Plan α :=
  .ofExcept (result.mapError .api)

def getApp (id : AppId) : Plan App := do
  let effect := Effect.getApp id
  checked ((← .perform effect).toApp effect.operation)

def findApp (id : AppId) : Plan (Option App) := do
  let effect := Effect.getApp id
  match ← .ask effect with
  | .ok response => return some (← checked (response.toApp effect.operation))
  | .error e => if e.isAbsent then return none else .fail (.api e)

def act (effect : Effect) : Plan Unit := do
  checked ((← .perform effect).acknowledged effect.operation)

def resolveLatest (catalog template : String) : Plan String := do
  let id := Naming.templateId catalog template
  let effect := Effect.getTemplate id
  match ← .ask effect with
  | .ok response =>
    let template ← checked (response.toTemplate effect.operation)
    .ofExcept (template.latest.mapError .resolution)
  | .error e => .fail (if e.isAbsent then .resolution (.templateNotFound id) else .api e)

def versionOrLatest (version : Option String) (catalog template : String) : Plan String :=
  match version with
  | some version => pure version
  | none => resolveLatest catalog template

def converge (s : Settings) (id : AppId) (states : StateSpec) (timeout : Duration)
    (operation : String) : Plan Unit := do
  match ← .waitFor ⟨.app id, states, timeout, s.poll⟩ with
  | .ok _ => pure ()
  | .error e => .fail (.wait id operation e)

def validate (targets : List Target) (answers : List Answer) : Plan Unit :=
  .ofExcept ((TargetSet.validate ⟨targets, answers⟩).mapError .invalidSpec)

def read (id : AppId) (declared : Option Spec) : Plan (Option AppRecord) := do
  match ← findApp id with
  | none => return none
  | some app =>
    let effect := Effect.getTemplateVersion app.templateVersion
    let version ← checked ((← .perform effect).toTemplateVersion effect.operation)
    let catalog ← .ofExcept ((CatalogRef.read version.externalId).mapError .resolution)
    return some (app.record id catalog declared)

def readBack (id : AppId) (declared : Spec) : Plan AppRecord := do
  match ← read id (some declared) with
  | some record => pure record
  | none => .fail (.vanished id)

def create (s : Settings) (spec : Spec) : Plan AppRecord := do
  validate spec.targets spec.answers
  let version ← versionOrLatest spec.version spec.catalog spec.template
  let templateVersion := Naming.templateVersionId spec.catalog spec.template version
  let effect := Effect.createApp (spec.newApp templateVersion)
  let created ← checked ((← .perform effect).toApp effect.operation)
  match created.id with
  | none => .fail (.api (.unexpectedResponse effect.operation "created object has no id"))
  | some id =>
    if spec.wait then converge s id .active s.timeouts.create "create"
    readBack id spec

def updateFields (prior : AppRecord) (desired : Spec) : Plan Unit := do
  let version ←
    versionOrLatest (desired.version.or prior.spec.version) desired.catalog desired.template
  let templateVersion := Naming.templateVersionId desired.catalog desired.template version
  let effect := Effect.updateApp prior.id (desired.update templateVersion)
  let _ ← checked ((← .perform effect).toApp effect.operation)
  pure ()

-- The answers of a removed target stay behind, so the fields are set too if answers changed.
def mutateTargets (prior : AppRecord) (desired : Spec) (remote : App) (answersChanged : Bool) :
    Plan Unit := do
  let delta := TargetDelta.between ⟨remote.targets, remote.answers⟩
    ⟨desired.targets, desired.answers⟩ answersChanged
  if !delta.toRemove.isEmpty then act (.removeProjects prior.id delta.removalInput)
  if !delta.toAdd.isEmpty then act (.addProjects prior.id delta.additionInput)
  if delta.isEmpty || (answersChanged && !delta.toRemove.isEmpty) then updateFields prior desired

def applyMode (prior : AppRecord) (desired : Spec) (remote : App) : UpdateMode → Plan Unit
  | .rollback revision => act (.rollback prior.id revision)
  | .mutateTargets answersChanged => mutateTargets prior desired remote answersChanged
  | .updateFields => updateFields prior desired

def update (s : Settings) (prior : AppRecord) (desired : Spec) : Plan AppRecord := do
  validate desired.targets desired.answers
  let remote ← getApp prior.id
  applyMode prior desired remote (.ofChanges (.between prior.spec desired))
  if desired.wait then converge s prior.id .active s.timeouts.update "update"
  readBack prior.id desired

def awaitChildren (s : Settings) : List Target → Plan (Nat × Nat)
  | [] => pure (0, 0)
  | target :: rest =>
    match target.instanceId with
    | none => awaitChildren s rest
    | some instanceId => do
      let child := ChildAppId.of target.project instanceId
      let result ← .waitFor ⟨.child target.project child, .removed, s.timeouts.delete, s.poll⟩
      let (confirmed, unconfirmed) ← awaitChildren s rest
      match result with
      | .ok _ => pure (confirmed + 1, unconfirmed)
      | .error _ => pure (confirmed, unconfirmed + 1)

def delete (s : Settings) (id : AppId) : Plan DeleteOutcome := do
  match ← findApp id with
  | none => return .alreadyAbsent
  | some app =>
    let effect := Effect.deleteApp id
    checked ((← .perform effect).acknowledgedDeletion effect.operation)
    converge s id .removed s.timeouts.delete "delete"
    let (confirmed, unconfirmed) ← awaitChildren s app.targets
    .rest s.poll.settleDelay
    return .removed confirmed unconfirmed

end Lifecycle

end MultiCluster
