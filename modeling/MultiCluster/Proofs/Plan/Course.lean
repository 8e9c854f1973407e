import MultiCluster.Lifecycle.Plan

namespace MultiCluster

namespace Effect

def accepts : Effect → Answered → Bool
  | getApp _, .ok (.app _) => true
  | createApp _, .ok (.app _) => true
  | updateApp _ _, .ok (.app _) => true
  | deleteApp _, .ok .deleted => true
  | deleteApp _, .ok .actionAccepted => true
  | rollback _ _, .ok .actionAccepted => true
  | addProjects _ _, .ok .actionAccepted => true
  | removeProjects _ _, .ok .actionAccepted => true
  | getTemplate _, .ok (.template _) => true
  | getTemplateVersion _, .ok (.templateVersion _) => true
  | getChildApp _ _, .ok (.childApp _) => true
  | _, _ => false

theorem accepts_error (effect : Effect) (e : ApiError) : effect.accepts (.error e) = false := by
  cases effect <;> rfl

end Effect

def Call.succeeded (c : Call) : Bool :=
  match c.answer with
  | some answer => c.effect.accepts answer
  | none => false

inductive Episode (σ : Type) where
  | call (made : Call)
  | wait (request : WaitRequest) (startedAt : Nat) (run : WaitRun σ Answered)
  | pause (startedAt endedAt : Nat)

namespace Episode

variable {σ : Type}

def calls : Episode σ → List Call
  | call made => [made]
  | wait request _ run => Setting.waitCalls request run
  | pause _ _ => []

def Failed : Episode σ → Prop
  | call made => made.succeeded = false
  | wait _ _ _ => False
  | pause _ _ => False

end Episode

theorem Setting.effect_of_mem_waitCalls {σ : Type} {request : WaitRequest}
    {run : WaitRun σ Answered} {c : Call} (hc : c ∈ Setting.waitCalls request run) :
    c.effect = request.subject.effect := by
  obtain ⟨fetch, _, rfl⟩ := List.mem_map.mp hc
  rfl

namespace Plan

variable {σ α β : Type}

def course (s : Setting σ) : Plan α → World σ → List (Episode σ)
  | done _, _ => []
  | call effect next, w =>
    let reply := s.api.respond effect w.remote
    .call ⟨w.now, effect, some reply.answer⟩ ::
      (next reply.answer).course s ⟨reply.state, w.now + reply.latency⟩
  | await request next, w =>
    let wait := s.wait request w
    .wait request w.now wait ::
      match wait.result with
      | none => []
      | some result => (next result).course s ⟨wait.state, wait.endedAt⟩
  | settle pause next, w =>
    .pause w.now (s.settled pause w.now) :: next.course s { w with now := s.settled pause w.now }

theorem calls_run (s : Setting σ) (p : Plan α) (w : World σ) :
    (p.run s w).calls = (p.course s w).flatMap Episode.calls := by
  induction p generalizing w with
  | done result => rfl
  | call effect next ih => simp only [run, course, List.flatMap_cons, Episode.calls, ih,
      List.cons_append, List.nil_append]
  | await request next ih =>
    simp only [run, course, List.flatMap_cons, Episode.calls]
    cases (s.wait request w).result with
    | none => simp
    | some result => simp only [ih]
  | settle pause next ih => simp only [run, course, List.flatMap_cons, Episode.calls, ih,
      List.nil_append]

def Strict (allowed : WaitRequest → Prop) : Plan α → Prop
  | done _ => True
  | call effect next =>
    (∀ answer, effect.accepts answer = false → ∃ e, next answer = done (.error e)) ∧
      ∀ answer, (next answer).Strict allowed
  | await request next => allowed request ∧ ∀ result, (next result).Strict allowed
  | settle _ next => next.Strict allowed

variable {allowed : WaitRequest → Prop}

theorem Strict.bind {p : Plan α} {f : α → Plan β} (hp : p.Strict allowed)
    (hf : ∀ a, (f a).Strict allowed) : (p.bind f).Strict allowed := by
  induction p with
  | done result =>
    cases result with
    | ok a => exact hf a
    | error e => trivial
  | call effect next ih =>
    refine ⟨fun answer hanswer => ?_, fun answer => ih answer (hp.2 answer)⟩
    obtain ⟨e, he⟩ := hp.1 answer hanswer
    exact ⟨e, by simp only [he, done_error_bind]⟩
  | await request next ih => exact ⟨hp.1, fun result => ih result (hp.2 result)⟩
  | settle pause next ih => exact ih hp

theorem pairwise_course (s : Setting σ) {p : Plan α} (hp : p.Strict allowed) (w : World σ) :
    (p.course s w).Pairwise fun earlier _ => ¬ earlier.Failed := by
  induction p generalizing w with
  | done result => exact .nil
  | call effect next ih =>
    refine List.pairwise_cons.mpr ⟨?_, ih _ (hp.2 _) _⟩
    intro later hlater hfailed
    obtain ⟨e, he⟩ := hp.1 _ hfailed
    rw [he] at hlater
    exact List.not_mem_nil hlater
  | await request next ih =>
    simp only [course]
    cases (s.wait request w).result with
    | none => exact List.pairwise_singleton _ _
    | some result => exact List.pairwise_cons.mpr ⟨fun _ _ h => h, ih _ (hp.2 _) _⟩
  | settle pause next ih =>
    exact List.pairwise_cons.mpr ⟨fun _ _ h => h, ih hp _⟩

theorem result_of_failed_call (s : Setting σ) {p : Plan α} (hp : p.Strict allowed) (w : World σ)
    {c : Call} (hc : Episode.call c ∈ p.course s w) (hfailed : c.succeeded = false) :
    ∃ e, (p.run s w).result = some (.error e) := by
  induction p generalizing w with
  | done result => exact absurd hc List.not_mem_nil
  | call effect next ih =>
    rcases List.mem_cons.mp hc with heq | hrest
    · cases heq
      obtain ⟨e, he⟩ := hp.1 _ hfailed
      exact ⟨e, by simp only [run, he]⟩
    · exact ih _ (hp.2 _) _ hrest
  | await request next ih =>
    simp only [course, List.mem_cons, reduceCtorEq, false_or] at hc
    simp only [run]
    cases hr : (s.wait request w).result with
    | none =>
      rw [hr] at hc
      exact absurd hc List.not_mem_nil
    | some result =>
      rw [hr] at hc
      exact ih _ (hp.2 _) _ hc
  | settle pause next ih =>
    simp only [course, List.mem_cons, reduceCtorEq, false_or] at hc
    exact ih hp _ hc

end Plan

end MultiCluster
