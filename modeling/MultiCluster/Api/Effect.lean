import MultiCluster.Api.ErrorBody
import MultiCluster.App

namespace MultiCluster

inductive Effect where
  | getApp (id : AppId)
  | createApp (app : App)
  | updateApp (id : AppId) (update : AppUpdate)
  | deleteApp (id : AppId)
  | rollback (id : AppId) (revision : RevisionId)
  | addProjects (id : AppId) (input : TargetsInput)
  | removeProjects (id : AppId) (input : TargetsInput)
  | getTemplate (id : TemplateId)
  | getTemplateVersion (id : TemplateVersionId)
  | getChildApp (project : ProjectId) (id : ChildAppId)
  deriving DecidableEq, Repr

namespace Effect

def operation : Effect → String
  | getApp _ => "get multi-cluster app"
  | createApp _ => "create multi-cluster app"
  | updateApp _ _ => "update multi-cluster app"
  | deleteApp _ => "delete multi-cluster app"
  | rollback _ _ => "rollback multi-cluster app"
  | addProjects _ _ => "add projects"
  | removeProjects _ _ => "remove projects"
  | getTemplate _ => "get template"
  | getTemplateVersion _ => "get template version"
  | getChildApp _ _ => "get project app"

def isRead : Effect → Bool
  | getApp _ => true
  | getTemplate _ => true
  | getTemplateVersion _ => true
  | getChildApp _ _ => true
  | _ => false

end Effect

inductive Response where
  | app (app : App)
  | deleted
  | actionAccepted
  | template (template : Template)
  | templateVersion (version : TemplateVersion)
  | childApp (app : ChildApp)
  deriving DecidableEq, Repr

namespace Response

def kind : Response → String
  | app _ => "app"
  | deleted => "deleted"
  | actionAccepted => "action accepted"
  | template _ => "template"
  | templateVersion _ => "template version"
  | childApp _ => "project app"

def toApp (operation : String) : Response → Except ApiError App
  | app a => .ok a
  | other => .error (.unexpectedResponse operation other.kind)

def toTemplate (operation : String) : Response → Except ApiError Template
  | template t => .ok t
  | other => .error (.unexpectedResponse operation other.kind)

def toTemplateVersion (operation : String) : Response → Except ApiError TemplateVersion
  | templateVersion v => .ok v
  | other => .error (.unexpectedResponse operation other.kind)

def acknowledged (operation : String) : Response → Except ApiError Unit
  | actionAccepted => .ok ()
  | other => .error (.unexpectedResponse operation other.kind)

def acknowledgedDeletion (operation : String) : Response → Except ApiError Unit
  | deleted => .ok ()
  | actionAccepted => .ok ()
  | other => .error (.unexpectedResponse operation other.kind)

end Response

abbrev Answered := Except ApiError Response

structure Reply (σ ρ : Type) where
  answer : ρ
  latency : Nat
  state : σ

structure Api (σ : Type) where
  respond : Effect → σ → Reply σ Answered

end MultiCluster
