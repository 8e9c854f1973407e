import MultiCluster.Api.Effect

namespace MultiCluster

inductive Observation where
  | status (state : String)
  | gone
  deriving DecidableEq, Repr

structure Source (σ ρ : Type) where
  name : String
  fetch : σ → Reply σ ρ
  observe : ρ → Except ApiError Observation

inductive Subject where
  | app (id : AppId)
  | child (project : ProjectId) (id : ChildAppId)
  deriving DecidableEq, Repr

namespace Subject

def name : Subject → String
  | app id => id.text
  | child _ id => id.text

def effect : Subject → Effect
  | app id => .getApp id
  | child project id => .getChildApp project id

def state? : Subject → Response → Option String
  | app _, .app a => some a.stateText
  | child _ _, .childApp a => some a.state
  | _, _ => none

def observe (s : Subject) : Answered → Except ApiError Observation
  | .ok response =>
    match s.state? response with
    | some state => .ok (.status state)
    | none => .error (.unexpectedResponse s.effect.operation response.kind)
  | .error e => if e.isAbsent then .ok .gone else .error e

def source {σ : Type} (s : Subject) (api : Api σ) : Source σ Answered where
  name := s.name
  fetch := api.respond s.effect
  observe := s.observe

theorem effect_isRead (s : Subject) : s.effect.isRead = true := by
  cases s <;> rfl

theorem observe_eq_gone_iff {s : Subject} {a : Answered} :
    s.observe a = .ok .gone ↔ ∃ e : ApiError, a = .error e ∧ e.isAbsent = true := by
  cases a with
  | ok response =>
    simp only [observe]
    split <;> simp
  | error e =>
    simp only [observe]
    split <;> simp_all

end Subject

end MultiCluster
