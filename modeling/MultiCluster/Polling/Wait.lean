import MultiCluster.Clock
import MultiCluster.Polling.Config
import MultiCluster.Polling.Source
import MultiCluster.Text.Quoted

namespace MultiCluster

-- Without any pending ones, every state means "not yet".
structure StateSpec where
  pending : List String
  target : List String
  deriving DecidableEq, Repr

namespace StateSpec

def inOrder (names : List String) : List String :=
  (Dict.ofList (names.map fun name => (name, ()))).keys

def of (pending target : List String) : StateSpec := ⟨inOrder pending, inOrder target⟩

def active : StateSpec := ⟨[], [State.active]⟩

def removed : StateSpec := ⟨[State.removing], [State.removed]⟩

def acceptsRemoval (s : StateSpec) : Bool := s.target.contains State.removed

def isTarget (s : StateSpec) (state : String) : Bool := s.target.contains state

def isPending (s : StateSpec) (state : String) : Bool :=
  s.pending.isEmpty || s.pending.contains state

end StateSpec

inductive PollError where
  | unexpectedState (object state : String) (expected : List String)
  | timeout (object : String) (lastState : Option String) (limit : Duration)
  | notFound (object : String) (checks : UInt32)
  | cancelled
  | fetch (error : ApiError)
  deriving DecidableEq, Repr

namespace PollError

def message : PollError → String
  | unexpectedState object state expected =>
    object ++ " entered unexpected state " ++ Text.quote state ++ " (expected one of " ++
      Text.quoteList expected ++ ")"
  | timeout object lastState limit =>
    "timed out after " ++ limit.text ++ " waiting for " ++ object ++ " (last state: " ++
      Text.quoteOption lastState ++ ")"
  | notFound object checks =>
    object ++ " not found after " ++ toString checks.toNat ++ " consecutive checks"
  | cancelled => "wait cancelled"
  | fetch error => "fetching status failed: " ++ error.message

def isCancelled : PollError → Bool
  | cancelled => true
  | _ => false

end PollError

structure Progress where
  lastStatus : Option String
  misses : UInt32
  deriving DecidableEq, Repr

def Progress.start : Progress := ⟨none, 0⟩

structure WaitTerms where
  states : StateSpec
  timeout : Duration
  config : PollConfig
  startedAt : Nat
  cancelAt : Option Nat
  deriving DecidableEq, Repr

inductive Verdict where
  | ended (result : Except PollError String)
  | pending (progress : Progress)

inductive Pause where
  | over (result : Except PollError String) (endedAt : Nat)
  | next (wakeAt : Nat)

structure Fetch (ρ : Type) where
  startedAt : Nat
  answer : Option ρ
  deriving DecidableEq, Repr

structure WaitRun (σ ρ : Type) where
  result : Option (Except PollError String)
  fetches : List (Fetch ρ)
  state : σ
  endedAt : Nat

namespace WaitTerms

def deadline (t : WaitTerms) : Option Nat := Clock.after? t.startedAt t.timeout

def timedOut (t : WaitTerms) (object : String) (p : Progress) : PollError :=
  .timeout object p.lastStatus t.timeout

def judgeObservation (t : WaitTerms) (object : String) (p : Progress) : Observation → Verdict
  | .gone =>
    if t.states.acceptsRemoval then .ended (.ok State.removed)
    else
      let misses := p.misses + 1
      if t.config.notFoundChecks < misses then .ended (.error (.notFound object misses))
      else .pending { p with misses := misses }
  | .status state =>
    if t.states.isTarget state then .ended (.ok state)
    else if t.states.isPending state then .pending ⟨some state, 0⟩
    else .ended (.error (.unexpectedState object state (t.states.pending ++ t.states.target)))

def judge (t : WaitTerms) (object : String) (p : Progress) :
    Except ApiError Observation → Verdict
  | .error e => .ended (.error (.fetch e))
  | .ok observation => t.judgeObservation object p observation

def pause (t : WaitTerms) (object : String) (p : Progress) (now : Nat) (interval : Duration) :
    Pause :=
  match t.deadline with
  | none =>
    let wakeAt := Clock.wake now interval.nanos
    match Clock.cancelledBy t.cancelAt wakeAt with
    | some c => .over (.error .cancelled) c
    | none => .next wakeAt
  | some deadline =>
    if deadline ≤ now then .over (.error (t.timedOut object p)) now
    else
      let wakeAt := Clock.wake now (min interval.nanos (deadline - now))
      match Clock.cancelledBy t.cancelAt wakeAt with
      | some c => .over (.error .cancelled) c
      | none =>
        if deadline ≤ wakeAt then .over (.error (t.timedOut object p)) wakeAt
        else .next wakeAt

end WaitTerms

namespace Source

variable {σ ρ : Type}

def rounds (s : Source σ ρ) (t : WaitTerms) :
    Nat → Duration → Progress → σ → Nat → WaitRun σ ρ
  | 0, _, _, state, now => ⟨none, [], state, now⟩
  | left + 1, interval, progress, state, now =>
    match Clock.cancelledBy t.cancelAt now with
    | some _ => ⟨some (.error .cancelled), [], state, now⟩
    | none =>
      let reply := s.fetch state
      let arrival := now + reply.latency
      match Clock.cancelledBy t.cancelAt arrival with
      | some c => ⟨some (.error .cancelled), [⟨now, none⟩], reply.state, c⟩
      | none =>
        let fetch := ⟨now, some reply.answer⟩
        match t.judge s.name progress (s.observe reply.answer) with
        | .ended result => ⟨some result, [fetch], reply.state, arrival⟩
        | .pending progress =>
          match t.pause s.name progress arrival interval with
          | .over result endedAt => ⟨some result, [fetch], reply.state, endedAt⟩
          | .next wakeAt =>
            let run :=
              s.rounds t left (t.config.nextInterval interval) progress reply.state wakeAt
            { run with fetches := fetch :: run.fetches }

def wait (s : Source σ ρ) (t : WaitTerms) (limit : Nat) (state : σ) : WaitRun σ ρ :=
  s.rounds t limit t.config.delay .start state t.startedAt

theorem rounds_succ_of_finished {s : Source σ ρ} {t : WaitTerms} {n : Nat} {interval : Duration}
    {progress : Progress} {state : σ} {now : Nat}
    (h : (s.rounds t n interval progress state now).result ≠ none) :
    s.rounds t (n + 1) interval progress state now = s.rounds t n interval progress state now := by
  induction n generalizing interval progress state now with
  | zero => simp [rounds] at h
  | succ n ih =>
    rw [rounds.eq_def s t (n + 1 + 1), rounds.eq_def s t (n + 1)]
    rw [rounds.eq_def s t (n + 1)] at h
    simp only at h ⊢
    split
    · rfl
    · split
      · rfl
      · split
        · rfl
        · split
          · rfl
          · simp_all

theorem run_succ_of_finished {s : Source σ ρ} {t : WaitTerms} {limit : Nat} {state : σ}
    (h : (s.wait t limit state).result ≠ none) :
    s.wait t (limit + 1) state = s.wait t limit state :=
  rounds_succ_of_finished h

theorem wait_of_finished {s : Source σ ρ} {t : WaitTerms} {start : σ} {first second : Nat}
    (hle : first ≤ second)
    (h : (s.wait t first start).result ≠ none) : s.wait t second start = s.wait t first start := by
  induction hle with
  | refl => rfl
  | step _ ih => rw [← ih, run_succ_of_finished (by rwa [ih])]

end Source

end MultiCluster
