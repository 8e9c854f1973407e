import MultiCluster.Dict
import MultiCluster.Text.Split

namespace MultiCluster

structure AppId where
  text : String
  deriving DecidableEq, Repr, Inhabited

structure InstanceId where
  text : String
  deriving DecidableEq, Repr, Inhabited

structure TemplateId where
  text : String
  deriving DecidableEq, Repr, Inhabited

structure TemplateVersionId where
  text : String
  deriving DecidableEq, Repr, Inhabited

structure RevisionId where
  text : String
  deriving DecidableEq, Repr, Inhabited

structure ProjectId where
  text : String
  deriving DecidableEq, Repr, Inhabited

structure ChildAppId where
  text : String
  deriving DecidableEq, Repr, Inhabited

def ProjectId.projectPart (id : ProjectId) : String :=
  match Text.cut ':' id.text.toList with
  | some (_, project) => String.ofList project
  | none => id.text

def ChildAppId.of (project : ProjectId) (instanceId : InstanceId) : ChildAppId :=
  ⟨project.projectPart ++ ":" ++ instanceId.text⟩

theorem ProjectId.projectPart_unqualified {id : ProjectId} (h : ':' ∉ id.text.toList) :
    id.projectPart = id.text := by
  simp [projectPart, Text.cut_eq_none_iff.mpr h]

structure Target where
  project : ProjectId
  instanceId : Option InstanceId
  state : Option String
  deriving DecidableEq, Repr

def Target.declared (project : ProjectId) : Target := ⟨project, none, none⟩

def Target.withInstance (t : Target) (id : InstanceId) : Target := { t with instanceId := some id }

def Target.withoutState (t : Target) : Target := { t with state := none }

structure Answer where
  cluster : Option String
  project : Option ProjectId
  values : Dict String
  deriving DecidableEq, Repr

def Answer.global (values : Dict String) : Answer := ⟨none, none, values⟩

def Answer.forProject (project : ProjectId) (values : Dict String) : Answer :=
  ⟨none, some project, values⟩

def Answer.isFor (a : Answer) (project : ProjectId) : Bool := a.project = some project

theorem Answer.isFor_iff {a : Answer} {project : ProjectId} :
    a.isFor project = true ↔ a.project = some project := by
  simp [isFor]

end MultiCluster
