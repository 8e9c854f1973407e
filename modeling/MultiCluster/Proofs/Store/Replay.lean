import MultiCluster.Api.Store
import MultiCluster.Proofs.Plan.Writes
import MultiCluster.Proofs.Polling.Passage

namespace MultiCluster

namespace Store

def applied : Effect → App → App
  | .updateApp _ update, app => updated app update
  | .rollback _ revision, app => { app with status := some ⟨some revision⟩ }
  | .addProjects id input, app =>
    { app with
      targets := deployed app.name id 0 (addTargets app.targets input.projects)
      answers := mergeAnswers app.answers input.answers }
  | .removeProjects _ input, app =>
    { app with
      targets := app.targets.filter fun t => !input.projects.contains t.project
      answers := app.answers.filter fun a => !input.answers.contains a }
  | _, app => app

def replay (effects : List Effect) (app : App) : App :=
  effects.foldl (fun app effect => applied effect app) app

@[simp] theorem replay_nil (app : App) : replay [] app = app := rfl

@[simp] theorem replay_cons (effect : Effect) (effects : List Effect) (app : App) :
    replay (effect :: effects) app = replay effects (applied effect app) := rfl

theorem replay_append (first second : List Effect) (app : App) :
    replay (first ++ second) app = replay second (replay first app) :=
  List.foldl_append

theorem replay_preserves (kept : App → Prop) {effects : List Effect}
    (h : ∀ effect ∈ effects, ∀ app, kept app → kept (applied effect app)) {app : App}
    (happ : kept app) : kept (replay effects app) := by
  induction effects generalizing app with
  | nil => exact happ
  | cons effect rest ih =>
    exact ih (fun other hother => h other (List.mem_cons_of_mem _ hother))
      (h effect List.mem_cons_self app happ)

theorem apps_getApp (s : Store) (id : AppId) : (s.getApp id).2.apps = s.apps := by
  unfold getApp
  cases (s.queuedStates.find? id.text).getD [] with
  | nil =>
    simp only
    split <;> rfl
  | cons state rest =>
    simp only
    split <;> rfl

theorem apps_apply_of_isRead (s : Store) {effect : Effect} (h : effect.isRead = true) :
    (s.apply effect).2.apps = s.apps := by
  cases effect with
  | getApp id => exact apps_getApp s id
  | getTemplate id => rfl
  | getTemplateVersion id => rfl
  | getChildApp project id => rfl
  | _ => exact absurd h Bool.false_ne_true

theorem respond_cases (s : Store) (effect : Effect) :
    (∃ e left, s.respond effect =
        (.error e, { s with failures := s.failures.insert effect.operation left })) ∨
      s.respond effect = s.apply effect := by
  unfold respond
  split
  · exact .inl ⟨_, _, rfl⟩
  · exact .inr rfl

theorem apps_respond_of_isRead (s : Store) {effect : Effect} (h : effect.isRead = true) :
    (s.respond effect).2.apps = s.apps := by
  rcases respond_cases s effect with ⟨e, left, heq⟩ | heq
  · rw [heq]
  · rw [heq]
    exact apps_apply_of_isRead s h

theorem app?_onApp (s : Store) (id : AppId) {f : App → Response × Store} {effect : Effect}
    (hf : ∀ app, effect.accepts (.ok (f app).1) = true ∧
      (f app).2.apps = s.apps.insert id.text (applied effect app)) :
    (s.onApp id f).2.app? id =
      if effect.accepts (s.onApp id f).1 then (s.app? id).map (applied effect) else s.app? id := by
  cases hstored : s.app? id with
  | none =>
    have heq : s.onApp id f = (.error (appNotFound id), s) := by rw [onApp, hstored]
    rw [heq, Effect.accepts_error]
    exact hstored
  | some app =>
    have heq : s.onApp id f = (.ok (f app).1, (f app).2) := by rw [onApp, hstored]
    rw [heq, if_pos (hf app).1, app?, (hf app).2, Dict.find?_insert, if_pos rfl]
    rfl

theorem app?_apply_change (s : Store) {effect : Effect} {id : AppId} {change : Change}
    (h : effect.change? = some (id, change)) :
    (s.apply effect).2.app? id =
      if effect.accepts (s.apply effect).1 then (s.app? id).map (applied effect) else s.app? id := by
  cases effect with
  | updateApp other update =>
    obtain ⟨rfl, _⟩ := Prod.ext_iff.mp (Option.some.inj h)
    exact app?_onApp s _ fun app => ⟨rfl, rfl⟩
  | rollback other revision =>
    obtain ⟨rfl, _⟩ := Prod.ext_iff.mp (Option.some.inj h)
    exact app?_onApp s _ fun app => ⟨rfl, rfl⟩
  | addProjects other input =>
    obtain ⟨rfl, _⟩ := Prod.ext_iff.mp (Option.some.inj h)
    exact app?_onApp s _ fun app => ⟨rfl, rfl⟩
  | removeProjects other input =>
    obtain ⟨rfl, _⟩ := Prod.ext_iff.mp (Option.some.inj h)
    exact app?_onApp s _ fun app => ⟨rfl, rfl⟩
  | _ => exact absurd h (by simp [Effect.change?])

theorem app?_respond (s : Store) (effect : Effect) (id : AppId)
    (h : effect.isRead = false → ∃ change, effect.change? = some (id, change)) :
    (s.respond effect).2.app? id =
      if !effect.isRead && effect.accepts (s.respond effect).1 then (s.app? id).map (applied effect)
      else s.app? id := by
  cases hread : effect.isRead with
  | true => exact congrArg (Dict.find? · id.text) (apps_respond_of_isRead s hread)
  | false =>
    obtain ⟨change, hchange⟩ := h hread
    rcases respond_cases s effect with ⟨e, left, heq⟩ | heq
    · rw [heq, Effect.accepts_error]
      rfl
    · rw [heq]
      exact app?_apply_change s hchange

theorem getApp_ok {s : Store} {id : AppId} {found : App}
    (h : (s.getApp id).1 = .ok (.app found)) :
    ∃ app state, s.app? id = some app ∧ found = { app with state := state } := by
  unfold getApp at h
  cases hqueued : (s.queuedStates.find? id.text).getD [] with
  | nil =>
    simp only [hqueued] at h
    split at h
    · exact absurd h (by simp)
    · rename_i app happ
      obtain rfl : app = found := by simpa using h
      exact ⟨app, app.state, happ, rfl⟩
  | cons state rest =>
    simp only [hqueued] at h
    split at h
    · exact absurd h (by simp)
    · rename_i app happ
      obtain rfl : { app with state := some state } = found := by simpa using h
      exact ⟨app, some state, happ, rfl⟩

theorem respond_getApp_ok {s : Store} {id : AppId} {found : App}
    (h : (s.respond (.getApp id)).1 = .ok (.app found)) :
    ∃ app state, s.app? id = some app ∧ found = { app with state := state } := by
  rcases respond_cases s (.getApp id) with ⟨e, left, heq⟩ | heq
  · rw [heq] at h
    exact absurd h (by simp)
  · rw [heq] at h
    exact getApp_ok h

def setting (cancelAt : Option Nat) (rounds : Nat) : Setting Store := ⟨api, cancelAt, rounds⟩

section Run

variable {α : Type} {cancelAt : Option Nat} {limit : Nat} {id : AppId}

theorem apps_wait (request : WaitRequest) (w : World Store) :
    ((setting cancelAt limit).wait request w).state.apps = w.remote.apps :=
  Source.rounds_preserves (fun s => s.apps = w.remote.apps)
    (fun s hs => (apps_respond_of_isRead s request.subject.effect_isRead).trans hs) _ _ _ _ _ rfl

theorem run_call (effect : Effect) (next : Answered → Plan α) (w : World Store) :
    let reply := w.remote.respond effect
    let after := (next reply.1).run (setting cancelAt limit) ⟨reply.2, w.now⟩
    (Plan.call effect next).run (setting cancelAt limit) w =
      { after with calls := ⟨w.now, effect, some reply.1⟩ :: after.calls } :=
  rfl

theorem app?_run (cancelAt : Option Nat) (limit : Nat) (p : Plan α) (w : World Store) (id : AppId)
    (h : ∀ effect ∈ writes (p.run (setting cancelAt limit) w).calls,
      ∃ change, effect.change? = some (id, change)) :
    (p.run (setting cancelAt limit) w).world.remote.app? id =
      (w.remote.app? id).map (replay (accepted (p.run (setting cancelAt limit) w).calls)) := by
  induction p generalizing w with
  | done result => exact (Option.map_id_apply).symm
  | call effect next ih =>
    rw [run_call] at h ⊢
    have hstep := app?_respond w.remote effect id fun hwrite =>
      h effect (by rw [writes_cons_of_write _ hwrite]; exact List.mem_cons_self)
    have hrest := ih (w.remote.respond effect).1 ⟨(w.remote.respond effect).2, w.now⟩
      fun other hother => h other (mem_writes_cons _ hother)
    refine hrest.trans ?_
    rw [hstep, accepted_cons]
    simp only [Call.succeeded]
    by_cases hgood : (!effect.isRead && effect.accepts (w.remote.respond effect).1) = true
    · simp only [hgood, ↓reduceIte, Option.map_map]
      rfl
    · simp only [hgood, Bool.false_eq_true, ↓reduceIte]
  | await request next ih =>
    have happs : ((setting cancelAt limit).wait request w).state.app? id = w.remote.app? id :=
      congrArg (Dict.find? · id.text) (apps_wait request w)
    simp only [Plan.run] at h ⊢
    cases hresult : ((setting cancelAt limit).wait request w).result with
    | none =>
      simp only [accepted_waitCalls, happs]
      exact (Option.map_id_apply).symm
    | some result =>
      simp only [hresult, writes_append, writes_waitCalls, List.nil_append] at h
      simp only [accepted_append, accepted_waitCalls, List.nil_append, ih result _ h, happs]
  | settle pause next ih => exact ih _ h

theorem app?_run_of_reads {p : Plan α} (hp : p.Performs (fun effect => effect) [])
    (id : AppId) (w : World Store) :
    (p.run (setting cancelAt limit) w).world.remote.app? id = w.remote.app? id := by
  have hwrites := hp.writes_eq_nil (setting cancelAt limit) w
  have haccepted := accepted_sublist_writes (p.run (setting cancelAt limit) w).calls
  rw [hwrites] at haccepted
  rw [app?_run cancelAt limit p w id (by simp [hwrites]), List.sublist_nil.mp haccepted]
  exact Option.map_id_apply

end Run

end Store

end MultiCluster
