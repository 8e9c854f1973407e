import MultiCluster.App
import MultiCluster.Target.Set
import MultiCluster.Template.CatalogRef

namespace MultiCluster

structure SpecChanges where
  revision : Option RevisionId
  targetsChanged : Bool
  answersChanged : Bool
  deriving DecidableEq, Repr

namespace SpecChanges

def newRevision (prior desired : Spec) : Option RevisionId :=
  if desired.revision = prior.revision then none else desired.revision

def between (prior desired : Spec) : SpecChanges where
  revision := newRevision prior desired
  targetsChanged := prior.targets.map Target.project ≠ desired.targets.map Target.project
  answersChanged := prior.answers ≠ desired.answers

theorem newRevision_eq_some_iff {prior desired : Spec} {r : RevisionId} :
    newRevision prior desired = some r ↔ desired.revision = some r ∧ prior.revision ≠ some r := by
  unfold newRevision
  split <;> grind

end SpecChanges

inductive UpdateMode where
  | rollback (revision : RevisionId)
  | mutateTargets (answersChanged : Bool)
  | updateFields
  deriving DecidableEq, Repr

namespace UpdateMode

def ofChanges (changes : SpecChanges) : UpdateMode :=
  match changes.revision with
  | some revision => .rollback revision
  | none =>
    if changes.targetsChanged then .mutateTargets changes.answersChanged else .updateFields

def name : UpdateMode → String
  | rollback _ => "rollback"
  | mutateTargets _ => "mutate_targets"
  | updateFields => "update_fields"

end UpdateMode

namespace Spec

def newApp (spec : Spec) (templateVersion : TemplateVersionId) : App where
  id := none
  name := spec.name
  state := none
  targets := spec.targets
  answers := spec.answers
  templateVersion := templateVersion
  members := spec.members
  roles := spec.roles
  revisionHistoryLimit := spec.revisionHistoryLimit
  upgradeStrategy := spec.upgradeStrategy
  labels := spec.labels
  annotations := spec.annotations
  status := none

def update (spec : Spec) (templateVersion : TemplateVersionId) : AppUpdate where
  answers := spec.answers
  members := spec.members
  revisionHistoryLimit := spec.revisionHistoryLimit
  roles := spec.roles
  templateVersion := templateVersion
  upgradeStrategy := spec.upgradeStrategy
  annotations := spec.annotations
  labels := spec.labels

end Spec

def App.record (app : App) (id : AppId) (catalog : CatalogRef) (declared : Option Spec) :
    AppRecord where
  id := id
  spec := {
    name := app.name
    catalog := catalog.catalog
    template := catalog.template
    version := some catalog.version
    templateVersion := some app.templateVersion
    targets := match declared with
      | some spec => Target.orderLike app.targets spec.targets
      | none => app.targets
    answers := app.answers
    members := app.members
    roles := app.roles
    revisionHistoryLimit := app.revisionHistoryLimit
    upgradeStrategy := app.upgradeStrategy
    labels := app.labels
    annotations := app.annotations
    wait := match declared with
      | some spec => spec.wait
      | none => true
    revision := app.revision }

end MultiCluster
