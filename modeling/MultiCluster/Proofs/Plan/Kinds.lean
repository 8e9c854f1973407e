import MultiCluster.Proofs.Http.Answers
import MultiCluster.Proofs.Plan.Outcome
import MultiCluster.Proofs.Plan.Steps
import MultiCluster.Proofs.Polling.Round

namespace MultiCluster

def PollError.isUnexpected : PollError → Bool
  | fetch e => e.isUnexpected
  | _ => false

def LifecycleError.isUnexpected : LifecycleError → Bool
  | api e => e.isUnexpected
  | wait _ _ e => e.isUnexpected
  | _ => false

theorem Subject.isUnexpected_of_observe {subject : Subject} {answer : Answered} {e : ApiError}
    (hsuits : subject.effect.Suits answer) (h : subject.observe answer = .error e) :
    e.isUnexpected = false := by
  cases answer with
  | error other =>
    simp only [observe] at h
    split at h
    · exact absurd h (by simp)
    · obtain rfl := Except.error.inj h
      exact hsuits
  | ok response =>
    cases subject with
    | app id =>
      cases response with
      | app found => exact absurd h (by simp [observe, state?])
      | _ => exact absurd hsuits Bool.false_ne_true
    | child project id =>
      cases response with
      | childApp found => exact absurd h (by simp [observe, state?])
      | _ => exact absurd hsuits Bool.false_ne_true

def Setting.Suited {σ : Type} (s : Setting σ) : Prop :=
  ∀ (effect : Effect) (state : σ), (∀ app, effect ≠ .createApp app) →
    effect.Suits (s.api.respond effect state).answer

theorem Setting.Suited.wait {σ : Type} {s : Setting σ} (h : s.Suited) {request : WaitRequest}
    {w : World σ} {e : PollError} (hfailed : (s.wait request w).result = some (.error e)) :
    e.isUnexpected = false := by
  cases e with
  | fetch e =>
    obtain ⟨before, hobserved⟩ := Source.observed_of_rounds_fetch hfailed
    have hother (app : App) : request.subject.effect ≠ .createApp app := by
      cases request.subject <;> simp [Subject.effect]
    exact Subject.isUnexpected_of_observe (h request.subject.effect before hother) hobserved
  | _ => rfl

namespace Plan

variable {σ α β : Type} {s : Setting σ} {p : Plan α} {w : World σ}

def Expected {ε : Type} (isUnexpected : ε → Bool) (result : Except ε α) : Prop :=
  ∀ e, result = .error e → isUnexpected e = false

def Expects : Plan α → Prop
  | done result => Expected LifecycleError.isUnexpected result
  | call effect next => (∀ app, effect ≠ .createApp app) ∧
      ∀ answer, effect.Suits answer → (next answer).Expects
  | await _ next => ∀ result, Expected PollError.isUnexpected result → (next result).Expects
  | settle _ next => next.Expects

def WaitsExpected (s : Setting σ) (p : Plan α) (w : World σ) : Prop :=
  ∀ request startedAt run result, .wait request startedAt run ∈ p.course s w →
    run.result = some result → Expected PollError.isUnexpected result

def EndsExpected (s : Setting σ) (p : Plan α) (w : World σ) : Prop :=
  ∀ result, (p.run s w).result = some result → Expected LifecycleError.isUnexpected result

theorem EndsExpected.bind {f : α → Plan β} (hp : p.EndsExpected s w)
    (hf : ∀ a, (p.run s w).result = some (.ok a) → (f a).EndsExpected s (p.run s w).world) :
    (p.bind f).EndsExpected s w := by
  intro result h
  rw [run_bind, andThen] at h
  cases hfirst : (p.run s w).result with
  | none =>
    rw [hfirst] at h
    exact absurd h (by simp)
  | some first =>
    rw [hfirst] at h
    cases first with
    | ok a => exact hf a hfirst result h
    | error e =>
      obtain rfl := Option.some.inj h
      exact fun other hother => Except.error.inj hother ▸ hp _ hfirst e rfl

theorem WaitsExpected.bind {f : α → Plan β} (hp : p.WaitsExpected s w)
    (hf : ∀ a, (p.run s w).result = some (.ok a) → (f a).WaitsExpected s (p.run s w).world) :
    (p.bind f).WaitsExpected s w := by
  intro request startedAt run result hmem h
  rw [course_bind] at hmem
  rcases List.mem_append.mp hmem with hfirst | hlater
  · exact hp request startedAt run result hfirst h
  · cases hended : (p.run s w).result with
    | none =>
      rw [hended] at hlater
      exact absurd hlater List.not_mem_nil
    | some ended =>
      rw [hended] at hlater
      cases ended with
      | error e => exact absurd hlater List.not_mem_nil
      | ok a => exact hf a hended request startedAt run result hlater h

theorem WaitsExpected.call {effect : Effect} {next : Answered → Plan α}
    (h : let reply := s.api.respond effect w.remote
      (next reply.answer).WaitsExpected s ⟨reply.state, w.now + reply.latency⟩) :
    (call effect next).WaitsExpected s w := by
  intro request startedAt run result hmem
  rcases List.mem_cons.mp hmem with heq | hlater
  · cases heq
  · exact h request startedAt run result hlater

theorem expects_done_ok (a : α) : (done (.ok a)).Expects := fun _ h => nomatch h

theorem expects_fail {e : LifecycleError} (h : e.isUnexpected = false) : (fail e : Plan α).Expects :=
  fun _ he => Except.error.inj he ▸ h

theorem Expects.bind {f : α → Plan β} (hp : p.Expects) (hf : ∀ a, (f a).Expects) :
    (p.bind f).Expects := by
  induction p with
  | done result =>
    cases result with
    | ok a => exact hf a
    | error e => exact expects_fail (hp e rfl)
  | call effect next ih => exact ⟨hp.1, fun answer hsuits => ih answer (hp.2 answer hsuits)⟩
  | await request next ih => exact fun result hresult => ih result (hp result hresult)
  | settle pause next ih => exact ih hp

theorem Expects.when {condition : Bool} {p : Plan Unit} (hp : p.Expects) :
    (Plan.when condition p).Expects := by
  cases condition with
  | true => exact hp
  | false => exact expects_done_ok ()

theorem expects_perform {effect : Effect} {f : Response → Plan α}
    (hother : ∀ app, effect ≠ .createApp app)
    (hf : ∀ response, effect.accepts (.ok response) = true → (f response).Expects) :
    ((perform effect).bind f).Expects := by
  rw [perform_bind]
  refine ⟨hother, fun answer hsuits => ?_⟩
  cases answer with
  | ok response => exact hf response hsuits
  | error e => exact expects_fail hsuits

-- By induction on the plan. What a wait looks at is answered like a call, so the premise on calls is enough.
theorem Expects.run (hp : p.Expects) (hs : s.Suited) (w : World σ) :
    p.EndsExpected s w ∧ p.WaitsExpected s w := by
  induction p generalizing w with
  | done result =>
    refine ⟨fun other h => Option.some.inj h ▸ hp, fun _ _ _ _ hmem => ?_⟩
    exact absurd hmem List.not_mem_nil
  | call effect next ih =>
    obtain ⟨hends, hwaits⟩ := ih _ (hp.2 _ (hs effect w.remote hp.1))
      ⟨(s.api.respond effect w.remote).state, w.now + (s.api.respond effect w.remote).latency⟩
    exact ⟨hends, hwaits.call⟩
  | await asked next ih =>
    have hwait (result : Except PollError String) (h : (s.wait asked w).result = some result) :
        Expected PollError.isUnexpected result := fun e he => hs.wait (he ▸ h)
    cases hresult : (s.wait asked w).result with
    | none =>
      refine ⟨fun result h => ?_, fun request startedAt run result hmem h => ?_⟩
      · simp only [Plan.run, hresult] at h
        exact absurd h (by simp)
      · simp only [course, hresult, List.mem_singleton] at hmem
        obtain ⟨-, -, rfl⟩ := Episode.wait.inj hmem
        exact hwait result h
    | some ended =>
      obtain ⟨hends, hwaits⟩ := ih ended (hp ended (hwait ended hresult))
        ⟨(s.wait asked w).state, (s.wait asked w).endedAt⟩
      refine ⟨fun result h => ?_, fun request startedAt run result hmem h => ?_⟩
      · simp only [Plan.run, hresult] at h
        exact hends result h
      · simp only [course, hresult] at hmem
        rcases List.mem_cons.mp hmem with heq | hlater
        · obtain ⟨-, -, rfl⟩ := Episode.wait.inj heq
          exact hwait result h
        · exact hwaits request startedAt run result hlater h
  | settle pause next ih =>
    obtain ⟨hends, hwaits⟩ := ih hp { w with now := s.settled pause w.now }
    refine ⟨hends, fun request startedAt run result hmem => ?_⟩
    rcases List.mem_cons.mp hmem with heq | hlater
    · cases heq
    · exact hwaits request startedAt run result hlater

end Plan

end MultiCluster
