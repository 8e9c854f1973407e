import MultiCluster.Proofs.Plan.Course
import MultiCluster.Proofs.Plan.Turns

namespace MultiCluster

namespace StateSpec

def Reaches (s : StateSpec) (state : String) : Observation → Prop
  | .status seen => seen = state ∧ state ∈ s.target
  | .gone => state = State.removed ∧ State.removed ∈ s.target

def Passes (s : StateSpec) : Observation → Prop
  | .status seen => seen ∉ s.target ∧ (s.pending = [] ∨ seen ∈ s.pending)
  | .gone => State.removed ∉ s.target

end StateSpec

namespace WaitTerms

variable {t : WaitTerms} {object : String} {p : Progress} {observed : Except ApiError Observation}

theorem Ends.reaches {state : String} (h : t.Ends object p observed (.ok state)) :
    ∃ observation, observed = .ok observation ∧ t.states.Reaches state observation := by
  cases h with
  | removed hremoval => exact ⟨.gone, rfl, rfl, List.contains_iff_mem.mp hremoval⟩
  | reached htarget => exact ⟨.status state, rfl, rfl, List.contains_iff_mem.mp htarget⟩

theorem GoesOn.passes {next : Progress} (h : t.GoesOn p observed next) :
    ∃ observation, observed = .ok observation ∧ t.states.Passes observation := by
  cases h with
  | missed hstays =>
    exact ⟨.gone, rfl, by simpa [StateSpec.Passes, StateSpec.acceptsRemoval] using hstays⟩
  | @waiting state htarget hpending =>
    refine ⟨.status state, rfl, by simpa [StateSpec.isTarget] using htarget, ?_⟩
    simpa [StateSpec.isPending] using hpending

end WaitTerms

namespace Source

variable {σ ρ : Type} {s : Source σ ρ} {t : WaitTerms} {interval : Duration} {progress : Progress}
  {state : σ} {now : Nat} {reached : String}

def Saw (s : Source σ ρ) (fetch : Fetch ρ) (what : Observation → Prop) : Prop :=
  ∃ answer observation, fetch.answer = some answer ∧ s.observe answer = .ok observation ∧
    what observation

theorem round_ok {run : WaitRun σ ρ} (h : s.round t interval progress state now = .last run)
    (hok : run.result = some (.ok reached)) : ∃ fetch, run.fetches = [fetch] ∧
      fetch.startedAt = now ∧ s.Saw fetch (t.states.Reaches reached) := by
  rcases round_last_cases h hok with hcancelled | ⟨_, htime⟩ | ⟨hfetches, hends⟩
  · exact absurd hcancelled (by simp)
  · exact absurd htime (by simp)
  · obtain ⟨observation, hobserved, hreached⟩ := hends.reaches
    exact ⟨_, hfetches, rfl, _, observation, rfl, hobserved, hreached⟩

theorem round_passes {fetch : Fetch ρ} {next : Progress} {after : σ} {wakeAt : Nat}
    (h : s.round t interval progress state now = .more fetch next after wakeAt) :
    s.Saw fetch t.states.Passes := by
  obtain ⟨-, rfl, -, hgoesOn, -⟩ := round_more_cases h
  obtain ⟨observation, hobserved, hpasses⟩ := hgoesOn.passes
  exact ⟨_, observation, rfl, hobserved, hpasses⟩

theorem fetches_of_rounds_ok {left : Nat}
    (h : (s.rounds t left interval progress state now).result = some (.ok reached)) :
    ∃ looks last, (s.rounds t left interval progress state now).fetches = looks ++ [last] ∧
      (∀ look ∈ looks, s.Saw look t.states.Passes) ∧ s.Saw last (t.states.Reaches reached) ∧
      (looks = [] ∧ last.startedAt = now ∨ ∀ deadline ∈ t.deadline, last.startedAt < deadline) := by
  induction left generalizing interval progress state now with
  | zero => exact absurd h (by simp [rounds])
  | succ left ih =>
    rw [rounds_succ] at h ⊢
    cases hround : s.round t interval progress state now with
    | last run =>
      rw [hround] at h
      obtain ⟨fetch, hfetches, hstart, hreached⟩ := round_ok hround h
      exact ⟨[], fetch, hfetches, by simp, hreached, .inl ⟨rfl, hstart⟩⟩
    | more fetch next after wakeAt =>
      rw [hround] at h
      obtain ⟨looks, last, hfetches, hpassed, hreached, htime⟩ := ih h
      have hwake := (round_more hround).2.2.2
      refine ⟨fetch :: looks, last, ?_, ?_, hreached, .inr ?_⟩
      · simp only [WaitRun.after, hfetches, List.cons_append]
      · intro look hlook
        rcases List.mem_cons.mp hlook with rfl | hlater
        · exact round_passes hround
        · exact hpassed look hlater
      · intro deadline hdeadline
        rcases htime with ⟨-, hstart⟩ | hbefore
        · rw [hstart]
          exact hwake deadline hdeadline
        · exact hbefore deadline hdeadline

theorem wait_of_target {start : σ} (hnever : t.cancelAt = none)
    (hobserved : s.observe (s.fetch start).answer = .ok (.status reached))
    (htarget : t.states.isTarget reached = true) (limit : Nat) :
    s.wait t (limit + 1) start = ⟨some (.ok reached), [⟨t.startedAt, some (s.fetch start).answer⟩],
      (s.fetch start).state, t.startedAt + (s.fetch start).latency⟩ := by
  have hjudge : t.judge s.name .start (s.observe (s.fetch start).answer) = .ended (.ok reached) := by
    rw [hobserved]
    simp only [WaitTerms.judge, WaitTerms.judgeObservation, htarget, ↓reduceIte]
  have hopen (now : Nat) : Clock.cancelledBy t.cancelAt now = none := by
    rw [hnever]
    rfl
  simp only [wait, rounds_succ, round, hopen, onArrival, hjudge]

end Source

theorem Subject.isAbsent_of_observe {subject : Subject} {e : ApiError} {observation : Observation}
    (h : subject.observe (.error e) = .ok observation) : e.isAbsent = true := by
  simp only [observe] at h
  split at h
  · assumption
  · exact absurd h (by simp)

theorem Subject.app_of_observe_status {id : AppId} {answer : Answered} {state : String}
    (h : (Subject.app id).observe answer = .ok (.status state)) :
    ∃ app, answer = .ok (.app app) ∧ app.stateText = state := by
  cases answer with
  | error e =>
    simp only [observe] at h
    split at h <;> simp at h
  | ok response =>
    cases response with
    | app app => exact ⟨app, rfl, by simpa [observe, state?] using h⟩
    | _ => simp [observe, state?] at h

theorem App.state_of_stateText {app : App} {state : String} (h : app.stateText = state)
    (hstate : state ≠ "") : app.state = some state := by
  unfold stateText at h
  cases hs : app.state with
  | none =>
    rw [hs] at h
    exact absurd h.symm hstate
  | some found =>
    rw [hs] at h
    exact congrArg some h

namespace Call

def Sees (c : Call) (id : AppId) (state : String) : Prop :=
  ∃ app, c.effect = .getApp id ∧ c.answer = some (.ok (.app app)) ∧ app.state = some state

def Misses (c : Call) (id : AppId) : Prop :=
  ∃ e : ApiError, c.effect = .getApp id ∧ c.answer = some (.error e) ∧ e.isAbsent = true

end Call

namespace WaitRequest

variable {request : WaitRequest} {c : Call} {what : Observation → Prop} {id : AppId}
  {timeout : Duration} {config : PollConfig} {reached : String}

def Saw (request : WaitRequest) (c : Call) (what : Observation → Prop) : Prop :=
  c.effect = request.subject.effect ∧ ∃ answer observation, c.answer = some answer ∧
    request.subject.observe answer = .ok observation ∧ what observation

theorem Saw.isAbsent (h : request.Saw c what) {e : ApiError} (he : c.answer = some (.error e)) :
    e.isAbsent = true := by
  obtain ⟨-, answer, observation, hanswer, hobserved, -⟩ := h
  obtain rfl := Option.some.inj (hanswer.symm.trans he)
  exact Subject.isAbsent_of_observe hobserved

theorem Saw.sees {states : StateSpec} {state : String} (hstate : state ≠ "")
    (h : (⟨.app id, states, timeout, config⟩ : WaitRequest).Saw c fun seen => seen = .status state) :
    c.Sees id state := by
  obtain ⟨heffect, answer, observation, hanswer, hobserved, rfl⟩ := h
  obtain ⟨app, rfl, hshown⟩ := Subject.app_of_observe_status hobserved
  exact ⟨app, heffect, hanswer, App.state_of_stateText hshown hstate⟩

theorem Saw.misses {states : StateSpec}
    (h : (⟨.app id, states, timeout, config⟩ : WaitRequest).Saw c fun seen => seen = .gone) :
    c.Misses id := by
  obtain ⟨heffect, answer, observation, hanswer, hobserved, rfl⟩ := h
  obtain ⟨e, rfl, habsent⟩ := Subject.observe_eq_gone_iff.mp hobserved
  exact ⟨e, heffect, hanswer, habsent⟩

theorem Saw.imp {wider : Observation → Prop} (h : request.Saw c what)
    (himp : ∀ observation, what observation → wider observation) : request.Saw c wider := by
  obtain ⟨heffect, answer, observation, hanswer, hobserved, hwhat⟩ := h
  exact ⟨heffect, answer, observation, hanswer, hobserved, himp observation hwhat⟩

theorem sees_of_reaches_active
    (h : (⟨.app id, .active, timeout, config⟩ : WaitRequest).Saw c (StateSpec.active.Reaches reached)) :
    c.Sees id State.active := by
  refine Saw.sees (by decide) (h.imp fun observation hreached => ?_)
  cases observation with
  | gone => exact absurd hreached.2 (by decide)
  | status seen =>
    obtain ⟨rfl, htarget⟩ := hreached
    exact congrArg Observation.status (List.mem_singleton.mp htarget)

theorem sees_of_passes_removed
    (h : (⟨.app id, .removed, timeout, config⟩ : WaitRequest).Saw c StateSpec.removed.Passes) :
    c.Sees id State.removing := by
  refine Saw.sees (by decide) (h.imp fun observation hpasses => ?_)
  cases observation with
  | gone =>
    have hlate : State.removed ∉ StateSpec.removed.target := hpasses
    exact absurd hlate (by decide)
  | status seen =>
    have hpending : seen ∈ StateSpec.removed.pending := hpasses.2.resolve_left (by decide)
    exact congrArg Observation.status (List.mem_singleton.mp hpending)

theorem gone_of_reaches_removed
    (h : (⟨.app id, .removed, timeout, config⟩ : WaitRequest).Saw c
      (StateSpec.removed.Reaches reached)) : c.Misses id ∨ c.Sees id State.removed := by
  obtain ⟨heffect, answer, observation, hanswer, hobserved, hreached⟩ := h
  cases observation with
  | gone => exact .inl (Saw.misses ⟨heffect, answer, .gone, hanswer, hobserved, rfl⟩)
  | status seen =>
    obtain ⟨rfl, htarget⟩ := hreached
    have hseen : seen = State.removed := List.mem_singleton.mp htarget
    exact .inr (Saw.sees (by decide) ⟨heffect, answer, _, hanswer, hobserved, by rw [hseen]⟩)

end WaitRequest

-- Of a turn's looks the last was the first one too, or began before the timeout was over. No clock
-- shows an instant past its limit.
def Turn.InTime {σ : Type} (turn : Turn σ) (looks : List Call) (last : Call) : Prop :=
  looks = [] ∧ last.startedAt = turn.startedAt ∨
    (last.startedAt < Clock.limit → last.startedAt < turn.startedAt + turn.request.timeout.nanos)

namespace Setting

variable {σ : Type} {s : Setting σ} {request : WaitRequest} {w : World σ} {reached : String}

theorem looks_of_turn_ok (h : (s.turn request w).run.result = some (.ok reached)) :
    ∃ looks last, (s.turn request w).calls = looks ++ [last] ∧
      (∀ look ∈ looks, request.Saw look request.states.Passes) ∧
      request.Saw last (request.states.Reaches reached) ∧ (s.turn request w).InTime looks last := by
  have hsaw {fetch : Fetch Answered} {what : Observation → Prop}
      (hfetch : (request.subject.source s.api).Saw fetch what) :
      request.Saw ⟨fetch.startedAt, request.subject.effect, fetch.answer⟩ what := ⟨rfl, hfetch⟩
  obtain ⟨looks, last, hfetches, hpassed, hreached, htime⟩ :=
    Source.fetches_of_rounds_ok (t := s.terms request w.now) h
  refine ⟨looks.map fun fetch => ⟨fetch.startedAt, request.subject.effect, fetch.answer⟩,
    ⟨last.startedAt, request.subject.effect, last.answer⟩, ?_, ?_, hsaw hreached, ?_⟩
  · have hcalls : (s.turn request w).calls = waitCalls request (s.wait request w) := rfl
    have hwait : (s.wait request w).fetches = looks ++ [last] := hfetches
    rw [hcalls, waitCalls, hwait, List.map_append, List.map_singleton]
  · intro look hlook
    obtain ⟨fetch, hfetch, rfl⟩ := List.mem_map.mp hlook
    exact hsaw (hpassed fetch hfetch)
  · rcases htime with ⟨hfirst, hstart⟩ | hbefore
    · exact .inl ⟨by rw [hfirst, List.map_nil], hstart⟩
    · refine .inr fun hclock => ?_
      by_cases hdeadline : w.now + request.timeout.nanos < Clock.limit
      · exact hbefore _ (Clock.after?_of_lt hdeadline)
      · exact Nat.lt_of_lt_of_le hclock (Nat.le_of_not_lt hdeadline)

theorem isAbsent_of_mem_calls_turn {c : Call} {e : ApiError}
    (h : (s.turn request w).run.result = some (.ok reached)) (hc : c ∈ (s.turn request w).calls)
    (he : c.answer = some (.error e)) : e.isAbsent = true := by
  obtain ⟨looks, last, hcalls, hpassed, hreached, -⟩ := looks_of_turn_ok h
  rw [hcalls] at hc
  rcases List.mem_append.mp hc with hlook | hlast
  · exact (hpassed c hlook).isAbsent he
  · obtain rfl := List.mem_singleton.mp hlast
    exact hreached.isAbsent he

end Setting

end MultiCluster
