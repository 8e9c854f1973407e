import MultiCluster.Proofs.Plan.Writes

namespace MultiCluster

namespace Plan

variable {σ α β : Type} {s : Setting σ}

theorem course_bind (s : Setting σ) (p : Plan α) (f : α → Plan β) (w : World σ) :
    (p.bind f).course s w = p.course s w ++
      match (p.run s w).result with
      | some (.ok a) => (f a).course s (p.run s w).world
      | _ => [] := by
  induction p generalizing w with
  | done result => cases result <;> rfl
  | call effect next ih => simp only [call_bind, course, run, ih, List.cons_append]
  | await request next ih =>
    simp only [await_bind, course, run, List.cons_append]
    cases (s.wait request w).result with
    | none => rfl
    | some result => simp only [ih]
  | settle pause next ih => simp only [settle_bind, course, run, ih, List.cons_append]

def Yields (s : Setting σ) (p : Plan α)
    (post : List (Episode σ) → Option (Except LifecycleError α) → Prop) : Prop :=
  ∀ w, post (p.course s w) (p.run s w).result

variable {p : Plan α} {f : α → Plan β}
  {middle : List (Episode σ) → Option (Except LifecycleError α) → Prop}
  {post : List (Episode σ) → Option (Except LifecycleError β) → Prop}

theorem Yields.bind (hp : p.Yields s middle)
    (hopen : ∀ course, middle course none → post course none)
    (hfailed : ∀ course e, middle course (some (.error e)) → post course (some (.error e)))
    (hok : ∀ course a, middle course (some (.ok a)) →
      (f a).Yields s fun later result => post (course ++ later) result) :
    (p.bind f).Yields s post := by
  intro w
  have hfirst := hp w
  rw [course_bind, run_bind, andThen]
  cases hresult : (p.run s w).result with
  | none =>
    rw [hresult] at hfirst
    simp only [List.append_nil]
    exact hopen _ hfirst
  | some result =>
    rw [hresult] at hfirst
    cases result with
    | error e =>
      simp only [List.append_nil]
      exact hfailed _ e hfirst
    | ok a => exact hok _ a hfirst (p.run s w).world

theorem Yields.mono (hp : p.Yields s middle)
    {wider : List (Episode σ) → Option (Except LifecycleError α) → Prop}
    (h : ∀ course result, middle course result → wider course result) : p.Yields s wider :=
  fun w => h _ _ (hp w)

theorem yields_call {effect : Effect} {next : Answered → Plan α}
    (h : ∀ startedAt answer, (next answer).Yields s fun later result =>
      middle (.call ⟨startedAt, effect, some answer⟩ :: later) result) :
    (call effect next).Yields s middle :=
  fun w => h w.now (s.api.respond effect w.remote).answer _

theorem yields_await {request : WaitRequest} {next : Except PollError String → Plan α}
    (hopen : ∀ w, (s.wait request w).result = none →
      middle [.wait request w.now (s.wait request w)] none)
    (hended : ∀ w result, (s.wait request w).result = some result →
      (next result).Yields s fun later final =>
        middle (.wait request w.now (s.wait request w) :: later) final) :
    (await request next).Yields s middle := by
  intro w
  simp only [course, run]
  cases hresult : (s.wait request w).result with
  | none => exact hopen w hresult
  | some result => exact hended w result hresult _

end Plan

end MultiCluster
