import MultiCluster.Target

namespace MultiCluster

def State.active : String := "active"

def State.removing : String := "removing"

def State.removed : String := "removed"

structure Member where
  accessType : Option String
  groupPrincipal : Option String
  userPrincipal : Option String
  deriving DecidableEq, Repr

structure RollingUpdate where
  batchSize : UInt32
  interval : UInt32
  deriving DecidableEq, Repr

structure UpgradeStrategy where
  rollingUpdate : Option RollingUpdate
  deriving DecidableEq, Repr

structure AppStatus where
  revision : Option RevisionId
  deriving DecidableEq, Repr

structure App where
  id : Option AppId
  name : String
  state : Option String
  targets : List Target
  answers : List Answer
  templateVersion : TemplateVersionId
  members : List Member
  roles : List String
  revisionHistoryLimit : UInt32
  upgradeStrategy : Option UpgradeStrategy
  labels : Dict String
  annotations : Dict String
  status : Option AppStatus
  deriving DecidableEq, Repr

def App.revision (app : App) : Option RevisionId := app.status.bind AppStatus.revision

def App.stateText (app : App) : String := app.state.getD ""

structure Template where
  id : TemplateId
  versionLinks : Dict String
  deriving DecidableEq, Repr

structure TemplateVersion where
  id : TemplateVersionId
  externalId : String
  deriving DecidableEq, Repr

structure ChildApp where
  id : ChildAppId
  state : String
  deriving DecidableEq, Repr

structure TargetsInput where
  projects : List ProjectId
  answers : List Answer
  deriving DecidableEq, Repr

structure AppUpdate where
  answers : List Answer
  members : List Member
  revisionHistoryLimit : UInt32
  roles : List String
  templateVersion : TemplateVersionId
  upgradeStrategy : Option UpgradeStrategy
  annotations : Dict String
  labels : Dict String
  deriving DecidableEq, Repr

structure Spec where
  name : String
  catalog : String
  template : String
  version : Option String
  templateVersion : Option TemplateVersionId
  targets : List Target
  answers : List Answer
  members : List Member
  roles : List String
  revisionHistoryLimit : UInt32
  upgradeStrategy : Option UpgradeStrategy
  labels : Dict String
  annotations : Dict String
  wait : Bool
  revision : Option RevisionId
  deriving DecidableEq, Repr

def Spec.basic (name catalog template : String) (targets : List Target) : Spec where
  name := name
  catalog := catalog
  template := template
  version := none
  templateVersion := none
  targets := targets
  answers := []
  members := []
  roles := ["project-member"]
  revisionHistoryLimit := 10
  upgradeStrategy := none
  labels := .empty
  annotations := .empty
  wait := true
  revision := none

structure AppRecord where
  id : AppId
  spec : Spec
  deriving DecidableEq, Repr

end MultiCluster
