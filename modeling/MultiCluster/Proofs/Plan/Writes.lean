import MultiCluster.Proofs.Plan.Course

namespace MultiCluster

inductive Change where
  | rollback (revision : RevisionId)
  | removal (projects : List ProjectId)
  | addition (projects : List ProjectId)
  | fields
  deriving DecidableEq, Repr

def Effect.change? : Effect → Option (AppId × Change)
  | updateApp id _ => some (id, .fields)
  | rollback id revision => some (id, .rollback revision)
  | addProjects id input => some (id, .addition input.projects)
  | removeProjects id input => some (id, .removal input.projects)
  | _ => none

def writes (calls : List Call) : List Effect :=
  (calls.filter fun c => !c.effect.isRead).map Call.effect

@[simp] theorem writes_nil : writes [] = [] := rfl

@[simp] theorem writes_append (first second : List Call) :
    writes (first ++ second) = writes first ++ writes second := by
  simp only [writes, List.filter_append, List.map_append]

theorem writes_cons_of_isRead {c : Call} (calls : List Call) (h : c.effect.isRead = true) :
    writes (c :: calls) = writes calls := by
  simp only [writes, List.filter_cons, h, Bool.not_true, Bool.false_eq_true, ↓reduceIte]

theorem writes_cons_of_write {c : Call} (calls : List Call) (h : c.effect.isRead = false) :
    writes (c :: calls) = c.effect :: writes calls := by
  simp only [writes, List.filter_cons, h, Bool.not_false, ↓reduceIte, List.map_cons]

theorem mem_writes_cons (c : Call) {calls : List Call} {effect : Effect}
    (h : effect ∈ writes calls) : effect ∈ writes (c :: calls) := by
  cases hread : c.effect.isRead with
  | true => rwa [writes_cons_of_isRead _ hread]
  | false =>
    rw [writes_cons_of_write _ hread]
    exact List.mem_cons_of_mem _ h

theorem writes_eq_nil {calls : List Call} (h : ∀ c ∈ calls, c.effect.isRead = true) :
    writes calls = [] := by
  have hnone : calls.filter (fun c => !c.effect.isRead) = [] :=
    List.filter_eq_nil_iff.mpr fun c hc => by simp [h c hc]
  rw [writes, hnone, List.map_nil]

theorem writes_waitCalls {σ : Type} (request : WaitRequest) (run : WaitRun σ Answered) :
    writes (Setting.waitCalls request run) = [] := by
  refine writes_eq_nil fun c hc => ?_
  rw [Setting.effect_of_mem_waitCalls hc]
  exact request.subject.effect_isRead

def accepted (calls : List Call) : List Effect :=
  (calls.filter fun c => !c.effect.isRead && c.succeeded).map Call.effect

@[simp] theorem accepted_nil : accepted [] = [] := rfl

@[simp] theorem accepted_append (first second : List Call) :
    accepted (first ++ second) = accepted first ++ accepted second := by
  simp only [accepted, List.filter_append, List.map_append]

theorem accepted_cons (c : Call) (calls : List Call) :
    accepted (c :: calls) =
      if !c.effect.isRead && c.succeeded then c.effect :: accepted calls else accepted calls := by
  simp only [accepted, List.filter_cons]
  split <;> rfl

theorem accepted_sublist_writes (calls : List Call) : (accepted calls).Sublist (writes calls) := by
  have hfilter : (calls.filter fun c => !c.effect.isRead && c.succeeded) =
      (calls.filter fun c => !c.effect.isRead).filter Call.succeeded := by
    rw [List.filter_filter]
    exact List.filter_congr fun c _ => Bool.and_comm _ _
  rw [accepted, writes, hfilter]
  exact List.filter_sublist.map _

theorem accepted_eq_writes {calls : List Call}
    (h : ∀ c ∈ calls, c.effect.isRead = false → c.succeeded = true) :
    accepted calls = writes calls := by
  refine congrArg (List.map Call.effect) (List.filter_congr fun c hc => ?_)
  cases hread : c.effect.isRead with
  | true => rfl
  | false => rw [h c hc hread]; rfl

theorem accepted_waitCalls {σ : Type} (request : WaitRequest) (run : WaitRun σ Answered) :
    accepted (Setting.waitCalls request run) = [] := by
  rw [accepted_eq_writes, writes_waitCalls]
  intro c hc hwrite
  rw [Setting.effect_of_mem_waitCalls hc, request.subject.effect_isRead] at hwrite
  exact absurd hwrite (by simp)

theorem writes_of_failed {calls : List Call}
    (hpair : calls.Pairwise fun earlier _ => earlier.effect.isRead = false → earlier.succeeded = true)
    {c : Call} (hc : c ∈ calls) (hwrite : c.effect.isRead = false) (hfailed : c.succeeded = false) :
    writes calls = accepted calls ++ [c.effect] := by
  obtain ⟨before, after, rfl⟩ := List.append_of_mem hc
  rw [List.pairwise_append, List.pairwise_cons] at hpair
  have hbefore : accepted before = writes before :=
    accepted_eq_writes fun d hd => hpair.2.2 d hd c List.mem_cons_self
  have hafter : after = [] := by
    refine List.eq_nil_iff_forall_not_mem.mpr fun later hlater => ?_
    have hgood := hpair.2.1.1 later hlater hwrite
    rw [hfailed] at hgood
    exact Bool.false_ne_true hgood
  subst hafter
  rw [accepted_append, writes_append, hbefore, writes_cons_of_write _ hwrite, accepted_cons, hfailed,
    Bool.and_false]
  simp

namespace Plan

variable {σ α β γ : Type}

theorem perform_bind (effect : Effect) (f : Response → Plan α) :
    (perform effect).bind f = call effect fun
      | .ok response => f response
      | .error e => done (.error (.api e)) := by
  show call effect _ = call effect _
  congr 1
  funext answer
  cases answer <;> rfl

theorem run_bind_of_ok {s : Setting σ} {p : Plan α} {f : α → Plan β} {w : World σ} {a : α}
    (h : (p.run s w).result = some (.ok a)) :
    (p.bind f).run s w =
      { (f a).run s (p.run s w).world with
        calls := (p.run s w).calls ++ ((f a).run s (p.run s w).world).calls } := by
  rw [run_bind, andThen, h]

theorem result_bind_of_ok {s : Setting σ} {p : Plan α} {f : α → Plan β} {w : World σ} {a : α}
    (h : (p.run s w).result = some (.ok a)) :
    ((p.bind f).run s w).result = ((f a).run s (p.run s w).world).result := by
  rw [run_bind_of_ok h]

theorem result_bind_ok {s : Setting σ} {p : Plan α} {f : α → Plan β} {w : World σ} {b : β}
    (h : ((p.bind f).run s w).result = some (.ok b)) :
    ∃ a, (p.run s w).result = some (.ok a) ∧
      ((f a).run s (p.run s w).world).result = some (.ok b) := by
  rw [run_bind, andThen] at h
  split at h
  · exact absurd h (by simp)
  · exact absurd h (by simp)
  · rename_i a ha
    exact ⟨a, ha, h⟩

def Performs (view : Effect → γ) : Plan α → List γ → Prop
  | done (.ok _), word => word = []
  | done (.error _), _ => True
  | call effect next, word =>
    if effect.isRead then ∀ answer, (next answer).Performs view word
    else ∃ rest, word = view effect :: rest ∧ ∀ answer, (next answer).Performs view rest
  | await _ next, word => ∀ result, (next result).Performs view word
  | settle _ next, word => next.Performs view word

theorem Performs.bind {view : Effect → γ} {p : Plan α} {f : α → Plan β} {first second : List γ}
    (hp : p.Performs view first) (hf : ∀ a, (f a).Performs view second) :
    (p.bind f).Performs view (first ++ second) := by
  induction p generalizing first with
  | done result =>
    cases result with
    | ok a =>
      have hnil : first = [] := hp
      rw [hnil]
      exact hf a
    | error e => trivial
  | call effect next ih =>
    simp only [Performs] at hp
    simp only [call_bind, Performs]
    by_cases hread : effect.isRead = true
    · rw [if_pos hread] at hp ⊢
      exact fun answer => ih answer (hp answer)
    · rw [if_neg hread] at hp ⊢
      obtain ⟨rest, rfl, hrest⟩ := hp
      exact ⟨rest ++ second, rfl, fun answer => ih answer (hrest answer)⟩
  | await request next ih => exact fun result => ih result (hp result)
  | settle pause next ih => exact ih hp

theorem Performs.bind_of_nil {view : Effect → γ} {p : Plan α} {f : α → Plan β} {word : List γ}
    (hp : p.Performs view []) (hf : ∀ a, (f a).Performs view word) :
    (p.bind f).Performs view word :=
  hp.bind hf

theorem Performs.writes_run {view : Effect → γ} {p : Plan α} {word : List γ}
    (hp : p.Performs view word) (s : Setting σ) (w : World σ) :
    (writes (p.run s w).calls).map view <+: word ∧
      ∀ a, (p.run s w).result = some (.ok a) → (writes (p.run s w).calls).map view = word := by
  induction p generalizing word w with
  | done result =>
    cases result with
    | ok a =>
      have hnil : word = [] := hp
      rw [hnil]
      exact ⟨List.nil_prefix, fun _ _ => rfl⟩
    | error e => exact ⟨List.nil_prefix, fun a h => absurd h (by simp [run])⟩
  | call effect next ih =>
    simp only [Performs] at hp
    simp only [run]
    split at hp
    · rename_i hread
      rw [writes_cons_of_isRead _ hread]
      exact ih _ (hp _) _
    · rename_i hwrite
      obtain ⟨rest, rfl, hrest⟩ := hp
      rw [writes_cons_of_write _ (by simpa using hwrite), List.map_cons]
      obtain ⟨hbegin, hok⟩ := ih _ (hrest _) _
      exact ⟨List.cons_prefix_cons.mpr ⟨rfl, hbegin⟩, fun a h => by rw [hok a h]⟩
  | await request next ih =>
    simp only [run]
    cases (s.wait request w).result with
    | none =>
      simp only [writes_waitCalls]
      exact ⟨List.nil_prefix, fun a h => absurd h (by simp)⟩
    | some result =>
      simp only [writes_append, writes_waitCalls, List.nil_append]
      exact ih _ (hp _) _
  | settle pause next ih => exact ih hp _

theorem Performs.writes_eq_nil {p : Plan α} (hp : p.Performs (fun effect => effect) []) (s : Setting σ)
    (w : World σ) : writes (p.run s w).calls = [] := by
  have hbegin := (hp.writes_run s w).1
  rw [List.map_id'] at hbegin
  exact List.prefix_nil.mp hbegin

theorem pairwise_calls (s : Setting σ) {p : Plan α} {allowed : WaitRequest → Prop}
    (hp : p.Strict allowed) (w : World σ) : (p.run s w).calls.Pairwise fun earlier _ =>
      earlier.effect.isRead = false → earlier.succeeded = true := by
  rw [calls_run, List.pairwise_flatMap]
  refine ⟨fun episode _ => ?_, ?_⟩
  · cases episode with
    | call made => exact List.pairwise_singleton _ _
    | wait request startedAt run =>
      refine List.Pairwise.imp_of_mem ?_ (List.pairwise_of_forall (R := fun _ _ => True) (by simp))
      intro earlier later hearlier _ _ hwrite
      rw [Setting.effect_of_mem_waitCalls hearlier, request.subject.effect_isRead] at hwrite
      exact absurd hwrite (by simp)
    | pause startedAt endedAt => exact .nil
  · refine (pairwise_course s hp w).imp ?_
    intro earlier later hfailed c hc _ _ hwrite
    cases earlier with
    | call made =>
      obtain rfl := List.mem_singleton.mp hc
      simpa [Episode.Failed] using hfailed
    | wait request startedAt run =>
      rw [Setting.effect_of_mem_waitCalls hc, request.subject.effect_isRead] at hwrite
      exact absurd hwrite (by simp)
    | pause startedAt endedAt => exact absurd hc List.not_mem_nil

theorem mem_course_of_write (s : Setting σ) {p : Plan α} {w : World σ} {c : Call}
    (hc : c ∈ (p.run s w).calls) (hwrite : c.effect.isRead = false) :
    Episode.call c ∈ p.course s w := by
  rw [calls_run, List.mem_flatMap] at hc
  obtain ⟨episode, hepisode, hc⟩ := hc
  cases episode with
  | call made =>
    obtain rfl := List.mem_singleton.mp hc
    exact hepisode
  | wait request startedAt run =>
    rw [Setting.effect_of_mem_waitCalls hc, request.subject.effect_isRead] at hwrite
    exact absurd hwrite (by simp)
  | pause startedAt endedAt => exact absurd hc List.not_mem_nil

theorem accepted_of_ok (s : Setting σ) {p : Plan α} {allowed : WaitRequest → Prop}
    (hp : p.Strict allowed) {w : World σ} {a : α} (h : (p.run s w).result = some (.ok a)) :
    accepted (p.run s w).calls = writes (p.run s w).calls := by
  refine accepted_eq_writes fun c hc hwrite => ?_
  cases hgood : c.succeeded with
  | true => rfl
  | false =>
    obtain ⟨e, he⟩ := result_of_failed_call s hp w (mem_course_of_write s hc hwrite) hgood
    rw [h] at he
    exact absurd he (by simp)

end Plan

end MultiCluster
