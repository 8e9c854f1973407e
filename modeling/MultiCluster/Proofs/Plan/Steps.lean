import MultiCluster.Lifecycle.Operations
import MultiCluster.Proofs.Plan.Writes

namespace MultiCluster

namespace Plan

variable {α γ : Type} {view : Effect → γ} {allowed : WaitRequest → Prop}

def when (condition : Bool) (p : Plan Unit) : Plan Unit := if condition then p else done (.ok ())

theorem when_bind (condition : Bool) (p : Plan Unit) (f : Unit → Plan α) :
    (when condition p).bind f = if condition then p.bind f else f () := by
  cases condition <;> rfl

theorem Strict.when {condition : Bool} {p : Plan Unit} (hp : p.Strict allowed) :
    (when condition p).Strict allowed := by
  unfold Plan.when
  split
  · exact hp
  · trivial

theorem Performs.when {condition : Bool} {p : Plan Unit} {word : List γ}
    (hp : p.Performs view word) :
    (Plan.when condition p).Performs view (if condition then word else []) := by
  unfold Plan.when
  split
  · exact hp
  · rfl

theorem strict_perform {effect : Effect} {f : Response → Plan α}
    (hwrong : ∀ r, effect.accepts (.ok r) = false → ∃ e, f r = done (.error e))
    (hf : ∀ r, (f r).Strict allowed) : ((perform effect).bind f).Strict allowed := by
  rw [perform_bind]
  refine ⟨fun answer hanswer => ?_, fun answer => ?_⟩
  · cases answer with
    | ok r => exact hwrong r hanswer
    | error e => exact ⟨_, rfl⟩
  · cases answer with
    | ok r => exact hf r
    | error e => trivial

theorem performs_call_of_isRead {effect : Effect} {next : Answered → Plan α} {word : List γ}
    (hread : effect.isRead = true) (hnext : ∀ answer, (next answer).Performs view word) :
    (call effect next).Performs view word := by
  rw [Performs, if_pos hread]
  exact hnext

theorem performs_perform_of_isRead {effect : Effect} {f : Response → Plan α} {word : List γ}
    (hread : effect.isRead = true) (hf : ∀ r, (f r).Performs view word) :
    ((perform effect).bind f).Performs view word := by
  rw [perform_bind]
  refine performs_call_of_isRead hread fun answer => ?_
  cases answer with
  | ok r => exact hf r
  | error e => trivial

theorem performs_perform_of_write {effect : Effect} {f : Response → Plan α} {word : List γ}
    (hwrite : effect.isRead = false) (hf : ∀ r, (f r).Performs view word) :
    ((perform effect).bind f).Performs view (view effect :: word) := by
  rw [perform_bind, Performs, if_neg (by simp [hwrite])]
  refine ⟨word, rfl, fun answer => ?_⟩
  cases answer with
  | ok r => exact hf r
  | error e => trivial

end Plan

namespace Lifecycle

open Plan

variable {σ α γ : Type} {view : Effect → γ} {allowed : WaitRequest → Prop}

theorem performs_ofExcept (result : Except LifecycleError α) : (ofExcept result).Performs view [] := by
  cases result with
  | ok a => rfl
  | error e => trivial

theorem performs_checked (result : Except ApiError α) : (checked result).Performs view [] :=
  performs_ofExcept _

theorem toApp_of_not_accepted {id : AppId} (operation : String) {r : Response}
    (h : (Effect.getApp id).accepts (.ok r) = false) :
    ∃ e, r.toApp operation = .error e := by
  cases r with
  | app a => simp [Effect.accepts] at h
  | _ => exact ⟨_, rfl⟩

theorem strict_getApp (id : AppId) : (getApp id).Strict allowed := by
  refine strict_perform (fun r hr => ?_) (fun r => trivial)
  obtain ⟨e, he⟩ := toApp_of_not_accepted _ hr
  exact ⟨.api e, by rw [he]; rfl⟩

theorem run_getApp_bind (s : Setting σ) (id : AppId) (f : App → Plan α) (w : World σ) :
    let reply := s.api.respond (.getApp id) w.remote
    let seen : World σ := ⟨reply.state, w.now + reply.latency⟩
    let first : Call := ⟨w.now, .getApp id, some reply.answer⟩
    (∃ app, reply.answer = .ok (.app app) ∧ ((getApp id).bind f).run s w =
        { (f app).run s seen with calls := first :: ((f app).run s seen).calls }) ∨
      ∃ e, (∀ app, reply.answer ≠ .ok (.app app)) ∧
        ((getApp id).bind f).run s w = ⟨some (.error e), [first], seen⟩ := by
  have hbind : (getApp id).bind f = (perform (.getApp id)).bind fun r =>
      (checked (r.toApp "get multi-cluster app")).bind f := bind_assoc _ _ _
  simp only [hbind, perform_bind, run]
  generalize s.api.respond (.getApp id) w.remote = reply
  obtain ⟨answer, latency, state⟩ := reply
  cases answer with
  | ok r =>
    cases r with
    | app app => exact .inl ⟨app, rfl, rfl⟩
    | _ => exact .inr ⟨_, fun _ h => by simp at h, rfl⟩
  | error e => exact .inr ⟨.api e, fun _ h => by simp at h, rfl⟩

theorem strict_act {effect : Effect}
    (h : ∀ r, effect.accepts (.ok r) = (r matches .actionAccepted)) :
    (act effect).Strict allowed := by
  refine strict_perform (fun r hr => ?_) (fun r => trivial)
  cases r with
  | actionAccepted => simp [h] at hr
  | _ => exact ⟨_, rfl⟩

theorem performs_act {effect : Effect} (hwrite : effect.isRead = false) :
    (act effect).Performs view [view effect] :=
  performs_perform_of_write hwrite fun _ => performs_checked _

theorem resolveLatest_eq (catalog template : String) :
    resolveLatest catalog template = call (.getTemplate (Naming.templateId catalog template)) fun
      | .ok response => (checked (response.toTemplate "get template")).bind fun found =>
        ofExcept (found.latest.mapError .resolution)
      | .error e => fail (if e.isAbsent then
          .resolution (.templateNotFound (Naming.templateId catalog template)) else .api e) :=
  rfl

theorem strict_resolveLatest (catalog template : String) :
    (resolveLatest catalog template).Strict allowed := by
  rw [resolveLatest_eq]
  refine ⟨fun answer hanswer => ?_, fun answer => ?_⟩
  · cases answer with
    | ok r =>
      cases r with
      | template t => simp [Effect.accepts] at hanswer
      | _ => exact ⟨_, rfl⟩
    | error e => exact ⟨_, rfl⟩
  · cases answer with
    | ok r => exact Strict.bind (p := checked _) trivial fun _ => trivial
    | error e => trivial

theorem performs_resolveLatest (catalog template : String) :
    (resolveLatest catalog template).Performs view [] := by
  rw [resolveLatest_eq]
  refine performs_call_of_isRead rfl fun answer => ?_
  cases answer with
  | ok r => exact (performs_checked _).bind fun _ => performs_ofExcept _
  | error e => trivial

theorem strict_versionOrLatest (version : Option String) (catalog template : String) :
    (versionOrLatest version catalog template).Strict allowed := by
  cases version with
  | some v => trivial
  | none => exact strict_resolveLatest catalog template

theorem findApp_bind (id : AppId) (f : Option App → Plan α) :
    (findApp id).bind f = call (.getApp id) fun
      | .ok response => (checked (response.toApp "get multi-cluster app")).bind fun app => f (some app)
      | .error e => if e.isAbsent then f none else done (.error (.api e)) := by
  show call _ _ = call _ _
  congr 1
  funext answer
  cases answer with
  | ok r => cases r <;> rfl
  | error e =>
    show ((if e.isAbsent = true then pure none else fail (.api e) : Plan (Option App)).bind f) =
      if e.isAbsent = true then f none else done (.error (.api e))
    split <;> rfl

def readFound (id : AppId) (declared : Option Spec) (app : App) : Plan AppRecord := do
  let effect := Effect.getTemplateVersion app.templateVersion
  let version ← checked ((← .perform effect).toTemplateVersion effect.operation)
  let catalog ← .ofExcept ((CatalogRef.read version.externalId).mapError .resolution)
  return app.record id catalog declared

theorem strict_readFound (id : AppId) (declared : Option Spec) (app : App) :
    (readFound id declared app).Strict allowed := by
  refine strict_perform (fun r hr => ?_) (fun r => ?_)
  · cases r with
    | templateVersion v => simp [Effect.accepts] at hr
    | _ => exact ⟨_, rfl⟩
  · refine Strict.bind (p := checked _) trivial fun v => ?_
    exact Strict.bind (p := ofExcept _) trivial fun _ => trivial

theorem performs_readFound (id : AppId) (declared : Option Spec) (app : App) :
    (readFound id declared app).Performs view [] := by
  refine performs_perform_of_isRead rfl fun r => ?_
  refine (performs_checked _).bind_of_nil fun v => ?_
  exact (performs_ofExcept _).bind_of_nil fun _ => rfl

theorem readBack_eq (id : AppId) (declared : Spec) :
    readBack id declared = call (.getApp id) fun
      | .ok response => (checked (response.toApp "get multi-cluster app")).bind
          (readFound id (some declared))
      | .error e => fail (if e.isAbsent then .vanished id else .api e) := by
  simp only [readBack, read, bind_eq, findApp_bind, call_bind]
  congr 1
  funext answer
  cases answer with
  | ok r =>
    simp only [bind_assoc, pure_eq, done_ok_bind]
    rfl
  | error e =>
    simp only
    split <;> rfl

theorem strict_readBack (id : AppId) (declared : Spec) :
    (readBack id declared).Strict allowed := by
  rw [readBack_eq]
  refine ⟨fun answer hanswer => ?_, fun answer => ?_⟩
  · cases answer with
    | ok r =>
      obtain ⟨e, he⟩ := toApp_of_not_accepted "get multi-cluster app" hanswer
      exact ⟨.api e, by simp only [he]; rfl⟩
    | error e => exact ⟨_, rfl⟩
  · cases answer with
    | ok r => exact Strict.bind (p := checked _) trivial fun app =>
        strict_readFound id (some declared) app
    | error e => trivial

theorem performs_readBack (id : AppId) (declared : Spec) :
    (readBack id declared).Performs view [] := by
  rw [readBack_eq]
  refine performs_call_of_isRead rfl fun answer => ?_
  cases answer with
  | ok r => exact (performs_checked _).bind fun app => performs_readFound id (some declared) app
  | error e => trivial

theorem strict_converge (s : Settings) (id : AppId) (states : StateSpec) (timeout : Duration)
    (operation : String) (hallowed : allowed ⟨.app id, states, timeout, s.poll⟩) :
    (converge s id states timeout operation).Strict allowed := by
  refine ⟨hallowed, fun result => ?_⟩
  cases result <;> trivial

theorem performs_converge (s : Settings) (id : AppId) (states : StateSpec) (timeout : Duration)
    (operation : String) : (converge s id states timeout operation).Performs view [] := by
  intro result
  cases result with
  | ok state => rfl
  | error e => trivial

def conclude (s : Settings) (id : AppId) (timeout : Duration) (operation : String) (spec : Spec) :
    Plan AppRecord :=
  (Plan.when spec.wait (converge s id .active timeout operation)).bind fun _ => readBack id spec

theorem performs_conclude (s : Settings) (id : AppId) (timeout : Duration) (operation : String)
    (spec : Spec) : (conclude s id timeout operation spec).Performs view [] := by
  have hwait : (Plan.when spec.wait (converge s id .active timeout operation)).Performs view
      (if spec.wait then [] else []) := (performs_converge s id .active timeout operation).when
  rw [ite_self] at hwait
  exact hwait.bind_of_nil fun _ => performs_readBack id spec

end Lifecycle

end MultiCluster
