import MultiCluster.Polling.Wait
import MultiCluster.Target.Set
import MultiCluster.Template.CatalogRef

namespace MultiCluster

inductive LifecycleError where
  | api (error : ApiError)
  | resolution (error : ResolutionError)
  | wait (id : AppId) (operation : String) (error : PollError)
  | invalidSpec (error : TargetSetError)
  | vanished (id : AppId)
  deriving DecidableEq, Repr

namespace LifecycleError

def message : LifecycleError → String
  | api error => error.message
  | resolution error => error.message
  | wait id operation error =>
    "waiting for " ++ id.text ++ " to " ++ operation ++ " failed: " ++ error.message
  | invalidSpec error => "invalid targets: " ++ error.message
  | vanished id => "multi-cluster app " ++ id.text ++ " not found after write"

def isCancelled : LifecycleError → Bool
  | wait _ _ error => error.isCancelled
  | _ => false

def causes : LifecycleError → List String
  | api error => error.causes
  | wait _ _ error => error.message :: match error with
    | .fetch e => e.message :: e.causes
    | _ => []
  | invalidSpec error => [error.message]
  | _ => []

end LifecycleError

structure WaitRequest where
  subject : Subject
  states : StateSpec
  timeout : Duration
  config : PollConfig
  deriving DecidableEq, Repr

inductive Plan (α : Type) where
  | done (result : Except LifecycleError α)
  | call (effect : Effect) (next : Answered → Plan α)
  | await (request : WaitRequest) (next : Except PollError String → Plan α)
  | settle (pause : Duration) (next : Plan α)

namespace Plan

variable {α β : Type}

def bind (p : Plan α) (f : α → Plan β) : Plan β :=
  match p with
  | done (.ok a) => f a
  | done (.error e) => done (.error e)
  | call effect next => call effect fun answer => (next answer).bind f
  | await request next => await request fun result => (next result).bind f
  | settle pause next => settle pause (next.bind f)

instance : Monad Plan where
  pure a := done (.ok a)
  bind := bind

def ofExcept (result : Except LifecycleError α) : Plan α := done result

def fail (e : LifecycleError) : Plan α := done (.error e)

def ask (effect : Effect) : Plan Answered := call effect pure

def perform (effect : Effect) : Plan Response := do
  match ← ask effect with
  | .ok response => pure response
  | .error e => fail (.api e)

def waitFor (request : WaitRequest) : Plan (Except PollError String) := await request pure

def rest (pause : Duration) : Plan Unit := settle pause (pure ())

@[simp] theorem pure_eq (a : α) : (pure a : Plan α) = done (.ok a) := rfl

@[simp] theorem bind_eq (p : Plan α) (f : α → Plan β) : p >>= f = p.bind f := rfl

@[simp] theorem done_ok_bind (a : α) (f : α → Plan β) : (done (.ok a)).bind f = f a := rfl

@[simp] theorem done_error_bind (e : LifecycleError) (f : α → Plan β) :
    (done (.error e)).bind f = done (.error e) := rfl

@[simp] theorem call_bind (effect : Effect) (next : Answered → Plan α) (f : α → Plan β) :
    (call effect next).bind f = call effect fun answer => (next answer).bind f := rfl

@[simp] theorem await_bind (request : WaitRequest) (next : Except PollError String → Plan α)
    (f : α → Plan β) :
    (await request next).bind f = await request fun result => (next result).bind f := rfl

@[simp] theorem settle_bind (pause : Duration) (next : Plan α) (f : α → Plan β) :
    (settle pause next).bind f = settle pause (next.bind f) := rfl

theorem bind_pure (p : Plan α) : p.bind (fun a => done (.ok a)) = p := by
  induction p with
  | done result => cases result <;> rfl
  | call effect next ih => simp [ih]
  | await request next ih => simp [ih]
  | settle pause next ih => simp [ih]

theorem bind_assoc {γ : Type} (p : Plan α) (f : α → Plan β) (g : β → Plan γ) :
    (p.bind f).bind g = p.bind fun a => (f a).bind g := by
  induction p with
  | done result => cases result <;> rfl
  | call effect next ih => simp [ih]
  | await request next ih => simp [ih]
  | settle pause next ih => simp [ih]

instance : LawfulMonad Plan :=
  LawfulMonad.mk' Plan (fun p => bind_pure p) (fun _ _ => rfl) bind_assoc

end Plan

structure Call where
  startedAt : Nat
  effect : Effect
  answer : Option Answered

structure World (σ : Type) where
  remote : σ
  now : Nat

structure PlanRun (σ α : Type) where
  result : Option (Except LifecycleError α)
  calls : List Call
  world : World σ

structure Setting (σ : Type) where
  api : Api σ
  cancelAt : Option Nat
  rounds : Nat

namespace Setting

variable {σ : Type}

def wait (s : Setting σ) (request : WaitRequest) (w : World σ) : WaitRun σ Answered :=
  (request.subject.source s.api).wait
    ⟨request.states, request.timeout, request.config, w.now, s.cancelAt⟩ s.rounds w.remote

def waitCalls (request : WaitRequest) (run : WaitRun σ Answered) : List Call :=
  run.fetches.map fun fetch => ⟨fetch.startedAt, request.subject.effect, fetch.answer⟩

def settled (s : Setting σ) (pause : Duration) (now : Nat) : Nat :=
  let wakeAt := Clock.wake now pause.nanos
  match Clock.cancelledBy s.cancelAt wakeAt with
  | some c => max now c
  | none => wakeAt

end Setting

namespace Plan

variable {σ α β : Type}

def run (s : Setting σ) (p : Plan α) (w : World σ) : PlanRun σ α :=
  match p with
  | done result => ⟨some result, [], w⟩
  | call effect next =>
    let reply := s.api.respond effect w.remote
    let after := (next reply.answer).run s ⟨reply.state, w.now + reply.latency⟩
    { after with calls := ⟨w.now, effect, some reply.answer⟩ :: after.calls }
  | await request next =>
    let wait := s.wait request w
    let world := ⟨wait.state, wait.endedAt⟩
    match wait.result with
    | none => ⟨none, Setting.waitCalls request wait, world⟩
    | some result =>
      let after := (next result).run s world
      { after with calls := Setting.waitCalls request wait ++ after.calls }
  | settle pause next => next.run s { w with now := s.settled pause w.now }

def andThen (first : PlanRun σ α) (f : α → World σ → PlanRun σ β) : PlanRun σ β :=
  match first.result with
  | none => ⟨none, first.calls, first.world⟩
  | some (.error e) => ⟨some (.error e), first.calls, first.world⟩
  | some (.ok a) =>
    let after := f a first.world
    { after with calls := first.calls ++ after.calls }

theorem run_bind (s : Setting σ) (p : Plan α) (f : α → Plan β) (w : World σ) :
    (p.bind f).run s w = andThen (p.run s w) fun a w => (f a).run s w := by
  induction p generalizing w with
  | done result => cases result <;> rfl
  | call effect next ih =>
    simp only [call_bind, run, ih, andThen]
    split <;> simp_all
  | await request next ih =>
    simp only [await_bind, run]
    cases (s.wait request w).result with
    | none => rfl
    | some result =>
      simp only [ih, andThen]
      split <;> simp_all
  | settle pause next ih => simp only [settle_bind, run, ih]

end Plan

end MultiCluster
