import MultiCluster.Proofs.Lifecycle.Success
import MultiCluster.Proofs.Update.Stored

namespace MultiCluster

def Effect.Reports : Effect → ApiError → LifecycleError → Prop
  | getTemplate id, e, failure =>
    failure = if e.isAbsent then .resolution (.templateNotFound id) else .api e
  | getApp id, e, failure => failure = .api e ∨ e.isAbsent = true ∧ failure = .vanished id
  | _, e, failure => failure = .api e

def Call.Erred (c : Call) : Prop := ∃ e, c.answer = some (.error e)

instance (c : Call) : Decidable c.Erred :=
  match h : c.answer with
  | some (.error e) => .isTrue ⟨e, h⟩
  | some (.ok _) => .isFalse fun ⟨_, he⟩ => nomatch h.symm.trans he
  | none => .isFalse fun ⟨_, he⟩ => nomatch h.symm.trans he

namespace Plan

structure Heeded {σ α : Type} (s : Setting σ) (asked excused : WaitRequest → Prop)
    (course : List (Episode σ)) (result : Option (Except LifecycleError α)) : Prop where
  call : ∀ c e, .call c ∈ course → c.answer = some (.error e) →
    ∃ failure, result = some (.error failure) ∧ c.effect.Reports e failure
  wait : ∀ a, result = some (.ok a) → ∀ request startedAt run,
    .wait request startedAt run ∈ course → excused request ∨ asked request ∧ ∃ w reached,
      Episode.wait request startedAt run = (s.turn request w).episode ∧
        (s.turn request w).run.result = some (.ok reached)

variable {σ α β : Type} {s : Setting σ} {asked excused : WaitRequest → Prop}
  {course later : List (Episode σ)} {result : Option (Except LifecycleError α)}

theorem Heeded.append {a : β} (hfirst : Heeded s asked excused course (some (.ok a)))
    (hlater : Heeded s asked excused later result) :
    Heeded s asked excused (course ++ later) result := by
  constructor
  · intro c e hc he
    rcases List.mem_append.mp hc with hc | hc
    · obtain ⟨failure, hfailure, -⟩ := hfirst.call c e hc he
      exact absurd hfailure (by simp)
    · exact hlater.call c e hc he
  · intro b hok request startedAt run hwait
    rcases List.mem_append.mp hwait with hwait | hwait
    · exact hfirst.wait a rfl request startedAt run hwait
    · exact hlater.wait b hok request startedAt run hwait

theorem heeded_done (result : Except LifecycleError α) :
    (done result).Yields s (Heeded s asked excused) := by
  intro w
  constructor
  · intro c e hc
    exact absurd hc List.not_mem_nil
  · intro a _ request startedAt run hwait
    exact absurd hwait List.not_mem_nil

theorem heeded_bind {p : Plan α} {f : α → Plan β} (hp : p.Yields s (Heeded s asked excused))
    (hf : ∀ a, (f a).Yields s (Heeded s asked excused)) :
    (p.bind f).Yields s (Heeded s asked excused) := by
  refine hp.bind ?_ ?_ ?_
  · intro course hopen
    refine ⟨fun c e hc he => ?_, fun b hok => absurd hok (by simp)⟩
    obtain ⟨failure, hfailure, -⟩ := hopen.call c e hc he
    exact absurd hfailure (by simp)
  · intro course e hfailed
    refine ⟨fun c answered hc he => ?_, fun b hok => absurd hok (by simp)⟩
    obtain ⟨failure, hfailure, hreports⟩ := hfailed.call c answered hc he
    obtain rfl := Except.error.inj (Option.some.inj hfailure)
    exact ⟨e, rfl, hreports⟩
  · intro course a hfirst
    exact (hf a).mono fun later result hlater => hfirst.append hlater

theorem Heeded.failed {c : Call} {e : ApiError} {failure : LifecycleError}
    (he : c.answer = some (.error e)) (hreports : c.effect.Reports e failure) :
    Heeded s asked excused [.call c] (some (.error failure) : Option (Except LifecycleError α)) := by
  constructor
  · intro other answered hc hanswered
    obtain rfl := Episode.call.inj (List.mem_singleton.mp hc)
    obtain rfl : e = answered := by simpa using he.symm.trans hanswered
    exact ⟨failure, rfl, hreports⟩
  · intro a hok
    exact absurd hok (by simp)

theorem Heeded.answered {c : Call} {response : Response} (hc : c.answer = some (.ok response))
    (hlater : Heeded s asked excused later result) :
    Heeded s asked excused (.call c :: later) result := by
  constructor
  · intro other e hother he
    rcases List.mem_cons.mp hother with heq | hother
    · obtain rfl := Episode.call.inj heq
      exact absurd (hc.symm.trans he) (by simp)
    · exact hlater.call other e hother he
  · intro a hok request startedAt run hwait
    exact hlater.wait a hok request startedAt run (by simpa using hwait)

theorem heeded_call {effect : Effect} {next : Answered → Plan α}
    (herror : ∀ e, ∃ failure, next (.error e) = done (.error failure) ∧ effect.Reports e failure)
    (hok : ∀ response, (next (.ok response)).Yields s (Heeded s asked excused)) :
    (call effect next).Yields s (Heeded s asked excused) := by
  refine yields_call fun startedAt answer => ?_
  cases answer with
  | error e =>
    obtain ⟨failure, hnext, hreports⟩ := herror e
    rw [hnext]
    exact fun w => .failed rfl hreports
  | ok response => exact (hok response).mono fun later result hlater => hlater.answered rfl

theorem heeded_await {request : WaitRequest} {next : Except PollError String → Plan α}
    (hrequest : excused request ∨
      asked request ∧ ∀ e, ∃ failure, next (.error e) = done (.error failure))
    (hnext : ∀ result, (next result).Yields s (Heeded s asked excused)) :
    (await request next).Yields s (Heeded s asked excused) := by
  refine yields_await ?_ ?_
  · intro w hopen
    exact ⟨fun c e hc => absurd hc (by simp), fun a hok => absurd hok (by simp)⟩
  · intro w result hresult v
    have hlater := hnext result v
    constructor
    · intro c e hc he
      exact hlater.call c e (by simpa using hc) he
    · intro a hok other startedAt run hwait
      rcases List.mem_cons.mp hwait with heq | hwait
      · obtain ⟨rfl, rfl, rfl⟩ := Episode.wait.inj heq
        refine hrequest.imp_right fun ⟨hasked, hfails⟩ => ⟨hasked, w, ?_⟩
        cases result with
        | ok reached => exact ⟨reached, rfl, hresult⟩
        | error e =>
          obtain ⟨failure, hfailure⟩ := hfails e
          rw [hfailure] at hok
          exact absurd hok (by simp [Plan.run])
      · exact hlater.wait a hok other startedAt run hwait

theorem heeded_settle {pause : Duration} {next : Plan α}
    (hnext : next.Yields s (Heeded s asked excused)) :
    (settle pause next).Yields s (Heeded s asked excused) := by
  intro w
  have hlater := hnext { w with now := s.settled pause w.now }
  constructor
  · intro c e hc he
    exact hlater.call c e (by simpa [course] using hc) he
  · intro a hok request startedAt run hwait
    exact hlater.wait a hok request startedAt run (by simpa [course] using hwait)

theorem heeded_when (condition : Bool) {p : Plan Unit}
    (hp : condition = true → p.Yields s (Heeded s asked excused)) :
    (Plan.when condition p).Yields s (Heeded s asked excused) := by
  cases condition with
  | true => exact hp rfl
  | false => exact heeded_done _

theorem heeded_perform {effect : Effect} {f : Response → Plan α}
    (hreports : ∀ e, effect.Reports e (.api e))
    (hf : ∀ r, (f r).Yields s (Heeded s asked excused)) :
    ((perform effect).bind f).Yields s (Heeded s asked excused) := by
  rw [perform_bind]
  exact heeded_call (fun e => ⟨.api e, rfl, hreports e⟩) hf

def MissedIn (course : List (Episode σ)) (request : WaitRequest) (c : Call) (id : AppId) : Prop :=
  c.Misses id ∧ ∃ turn : Turn σ, turn.episode ∈ course ∧ turn.request = request ∧ c ∈ turn.calls

structure TemplateErrorsFail (run : PlanRun σ α) : Prop where
  template : ∀ c ∈ run.calls, ∀ id e, c.effect = .getTemplate id → c.answer = some (.error e) →
    run.result = some (.error (if e.isAbsent then .resolution (.templateNotFound id) else .api e))
  version : ∀ c ∈ run.calls, ∀ id e, c.effect = .getTemplateVersion id →
    c.answer = some (.error e) → run.result = some (.error (.api e))

variable {c : Call} {e : ApiError}

theorem call_or_turn_of_mem (hc : c ∈ course.flatMap Episode.calls) : .call c ∈ course ∨
    ∃ request startedAt run, .wait request startedAt run ∈ course ∧
      c ∈ Setting.waitCalls request run ∧ c.effect = request.subject.effect := by
  obtain ⟨episode, hepisode, hc⟩ := List.mem_flatMap.mp hc
  cases episode with
  | call made =>
    obtain rfl := List.mem_singleton.mp hc
    exact .inl hepisode
  | wait request startedAt run =>
    exact .inr ⟨request, startedAt, run, hepisode, hc, Setting.effect_of_mem_waitCalls hc⟩
  | pause startedAt endedAt => exact absurd hc List.not_mem_nil

theorem Heeded.erred {a : α} (h : Heeded s asked excused course (some (.ok a)))
    (hc : c ∈ course.flatMap Episode.calls) (he : c.answer = some (.error e)) :
    (∃ request, excused request ∧ c.effect = request.subject.effect) ∨
      ∃ turn : Turn σ, asked turn.request ∧ turn.episode ∈ course ∧ c ∈ turn.calls ∧
        c.effect = turn.request.subject.effect ∧ e.isAbsent = true := by
  rcases call_or_turn_of_mem hc with hcall | ⟨request, startedAt, run, hwait, hmem, heffect⟩
  · obtain ⟨failure, hfailure, -⟩ := h.call c e hcall he
    exact absurd hfailure (by simp)
  · rcases h.wait a rfl request startedAt run hwait with hexcused | ⟨hasked, w, reached, hturn, hok⟩
    · exact .inl ⟨request, hexcused, heffect⟩
    · obtain ⟨-, rfl, rfl⟩ := Episode.wait.inj hturn
      exact .inr ⟨s.turn request w, hasked, hwait, hmem, heffect,
        Setting.isAbsent_of_mem_calls_turn hok hmem he⟩

theorem Heeded.missedIn {a : α} {request : WaitRequest} {id : AppId}
    (h : Heeded s (fun other => other = request) excused course (some (.ok a)))
    (hsubject : request.subject = .app id) (hc : c ∈ course.flatMap Episode.calls) (herred : c.Erred) :
    (∃ other, excused other ∧ c.effect = other.subject.effect) ∨ MissedIn course request c id := by
  obtain ⟨e, he⟩ := herred
  refine (h.erred hc he).imp_right fun ⟨turn, hasked, hturn, hmem, heffect, habsent⟩ => ?_
  rw [hasked, hsubject] at heffect
  exact ⟨⟨e, heffect, he, habsent⟩, turn, hturn, hasked, hmem⟩

theorem templateErrorsFail_of_reports {run : PlanRun σ α}
    (h : ∀ c ∈ run.calls, ∀ e, c.answer = some (.error e) →
      (∃ subject : Subject, c.effect = subject.effect) ∨
        ∃ failure, run.result = some (.error failure) ∧ c.effect.Reports e failure) :
    TemplateErrorsFail run := by
  constructor
  · intro c hc id e heffect he
    rcases h c hc e he with ⟨subject, hlook⟩ | ⟨failure, hfailure, hreports⟩
    · cases subject <;> exact Effect.noConfusion (heffect.symm.trans hlook)
    · rw [heffect] at hreports
      rw [hfailure, hreports]
  · intro c hc id e heffect he
    rcases h c hc e he with ⟨subject, hlook⟩ | ⟨failure, hfailure, hreports⟩
    · cases subject <;> exact Effect.noConfusion (heffect.symm.trans hlook)
    · rw [heffect] at hreports
      rw [hfailure, hreports]

theorem Heeded.templateErrorsFail {p : Plan α} {w : World σ}
    (h : Heeded s asked excused (p.course s w) (p.run s w).result) :
    TemplateErrorsFail (p.run s w) := by
  refine templateErrorsFail_of_reports fun c hc e he => ?_
  rw [calls_run] at hc
  rcases call_or_turn_of_mem hc with hcall | ⟨request, -, -, -, -, heffect⟩
  · exact .inr (h.call c e hcall he)
  · exact .inl ⟨request.subject, heffect⟩

theorem templateErrorsFail_of_look {run : PlanRun σ α} {look : Call} {id : AppId}
    (hcalls : run.calls = [look]) (hlook : look.effect = .getApp id) : TemplateErrorsFail run := by
  refine templateErrorsFail_of_reports fun c hc e he => .inl ⟨.app id, ?_⟩
  rw [hcalls] at hc
  rw [List.mem_singleton.mp hc]
  exact hlook

end Plan

namespace Lifecycle

open Plan

variable {σ α : Type} {s : Setting σ} {settings : Settings} {asked excused : WaitRequest → Prop}

theorem heeded_getApp (id : AppId) : (getApp id).Yields s (Heeded s asked excused) :=
  heeded_perform (fun _ => .inl rfl) fun _ => heeded_done _

theorem heeded_act {effect : Effect} (hreports : ∀ e, effect.Reports e (.api e)) :
    (act effect).Yields s (Heeded s asked excused) :=
  heeded_perform hreports fun _ => heeded_done _

theorem heeded_versionOrLatest (version : Option String) (catalog template : String) :
    (versionOrLatest version catalog template).Yields s (Heeded s asked excused) := by
  cases version with
  | some version => exact heeded_done _
  | none =>
    rw [versionOrLatest, resolveLatest_eq]
    refine heeded_call (fun e => ⟨_, rfl, rfl⟩) fun response => ?_
    exact heeded_bind (heeded_done _) fun _ => heeded_done _

theorem heeded_converge {id : AppId} {states : StateSpec} {timeout : Duration}
    (operation : String) (hasked : asked ⟨.app id, states, timeout, settings.poll⟩) :
    (converge settings id states timeout operation).Yields s (Heeded s asked excused) := by
  refine heeded_await (.inr ⟨hasked, fun e => ⟨_, rfl⟩⟩) fun result => ?_
  cases result <;> exact heeded_done _

theorem heeded_readFound (id : AppId) (declared : Option Spec) (app : App) :
    (readFound id declared app).Yields s (Heeded s asked excused) := by
  refine heeded_perform (fun _ => rfl) fun response => ?_
  refine heeded_bind (heeded_done _) fun version => ?_
  exact heeded_bind (heeded_done _) fun catalog => heeded_done _

theorem heeded_readBack (id : AppId) (declared : Spec) :
    (readBack id declared).Yields s (Heeded s asked excused) := by
  rw [readBack_eq]
  refine heeded_call (fun e => ⟨_, rfl, ?_⟩) fun response => ?_
  · cases habsent : e.isAbsent with
    | true => exact .inr ⟨habsent, rfl⟩
    | false => exact .inl rfl
  · exact heeded_bind (heeded_done _) (heeded_readFound id (some declared))

theorem heeded_conclude {id : AppId} {timeout : Duration} (operation : String) {spec : Spec}
    (hasked : spec.wait = true → asked (activation settings id timeout)) :
    (conclude settings id timeout operation spec).Yields s (Heeded s asked excused) := by
  refine heeded_bind (heeded_when _ fun hwait => ?_) fun _ => heeded_readBack id spec
  exact heeded_converge operation (hasked hwait)

theorem heeded_create {spec : Spec}
    (hasked : ∀ id, spec.wait = true → asked (activation settings id settings.timeouts.create)) :
    (create settings spec).Yields s (Heeded s asked excused) := by
  rw [create_eq]
  refine heeded_bind (heeded_done _) fun _ => ?_
  refine heeded_bind (heeded_versionOrLatest _ _ _) fun version => ?_
  refine heeded_perform (fun _ => rfl) fun response => ?_
  refine heeded_bind (heeded_done _) fun created => ?_
  cases created.id with
  | none => exact heeded_done _
  | some id => exact heeded_conclude "create" (hasked id)

section Update

variable {prior : AppRecord} {desired : Spec}

theorem heeded_updateFields : (updateFields prior desired).Yields s (Heeded s asked excused) := by
  refine heeded_bind (heeded_versionOrLatest _ _ _) fun version => ?_
  refine heeded_perform (fun _ => rfl) fun response => ?_
  exact heeded_bind (heeded_done _) fun _ => heeded_done _

theorem heeded_applyMode (remote : App) (mode : UpdateMode) :
    (applyMode prior desired remote mode).Yields s (Heeded s asked excused) := by
  cases mode with
  | rollback revision => exact heeded_act fun _ => rfl
  | mutateTargets answersChanged =>
    rw [applyMode, mutateTargets_eq]
    refine heeded_bind (heeded_when _ fun _ => heeded_act fun _ => rfl) fun _ => ?_
    refine heeded_bind (heeded_when _ fun _ => heeded_act fun _ => rfl) fun _ => ?_
    exact heeded_when _ fun _ => heeded_updateFields
  | updateFields => exact heeded_updateFields

theorem heeded_update
    (hasked : desired.wait = true → asked (activation settings prior.id settings.timeouts.update)) :
    (update settings prior desired).Yields s (Heeded s asked excused) := by
  rw [update_eq_conclude]
  refine heeded_bind ?_ fun _ => heeded_conclude "update" hasked
  refine heeded_bind (heeded_done _) fun _ => ?_
  exact heeded_bind (heeded_getApp prior.id) fun remote => heeded_applyMode remote _

end Update

theorem yields_findApp {id : AppId} {a : α} {f : Option App → Plan α} (hnone : f none = done (.ok a))
    (hfound : ∀ app, (f (some app)).Yields s (Heeded s asked excused)) :
    ((findApp id).bind f).Yields s fun course result =>
      (∃ look, course = [.call look] ∧ look.Misses id ∧ result = some (.ok a)) ∨
        Heeded s asked excused course result := by
  rw [findApp_bind]
  refine yields_call fun startedAt answer => ?_
  cases answer with
  | error e =>
    cases habsent : e.isAbsent with
    | true =>
      simp only [habsent, ↓reduceIte, hnone]
      exact fun w => .inl ⟨_, rfl, ⟨e, rfl, rfl, habsent⟩, rfl⟩
    | false =>
      simp only [habsent, Bool.false_eq_true, ↓reduceIte]
      exact fun w => .inr (.failed rfl (.inl rfl))
  | ok response =>
    have hchecked : (checked (response.toApp "get multi-cluster app")).Yields s
        (Heeded s asked excused) := heeded_done _
    exact (heeded_bind hchecked hfound).mono fun later result hlater => .inr (hlater.answered rfl)

theorem heeded_awaitChildren (targets : List Target)
    (hexcused : ∀ request ∈ childRemovals settings targets, excused request) :
    (awaitChildren settings targets).Yields s (Heeded s asked excused) := by
  induction targets with
  | nil => exact heeded_done _
  | cons target rest ih =>
    rw [awaitChildren_cons]
    rw [childRemovals_cons] at hexcused
    cases hinstance : target.instanceId with
    | none => exact ih (by simpa [hinstance] using hexcused)
    | some instanceId =>
      simp only [hinstance] at hexcused
      refine heeded_await (.inl (hexcused _ List.mem_cons_self)) fun result => ?_
      refine heeded_bind (ih fun request hrequest => ?_) fun _ => heeded_done _
      exact hexcused request (List.mem_cons_of_mem _ hrequest)

theorem yields_read {id : AppId} {declared : Option Spec} :
    (read id declared).Yields s fun course result =>
      (∃ look, course = [.call look] ∧ look.Misses id ∧ result = some (.ok none)) ∨
        Heeded s asked excused course result := by
  refine yields_findApp rfl fun app => ?_
  refine heeded_perform (fun _ => rfl) fun response => ?_
  refine heeded_bind (heeded_done _) fun version => ?_
  exact heeded_bind (heeded_done _) fun catalog => heeded_done _

theorem yields_delete {id : AppId} (hasked : asked (removal settings (.app id)))
    (hexcused : ∀ project child, excused (removal settings (.child project child))) :
    (delete settings id).Yields s fun course result =>
      (∃ look, course = [.call look] ∧ look.Misses id ∧ result = some (.ok .alreadyAbsent)) ∨
        Heeded s asked excused course result := by
  refine yields_findApp rfl fun app => ?_
  refine heeded_perform (fun _ => rfl) fun response => ?_
  refine heeded_bind (heeded_done _) fun _ => ?_
  refine heeded_bind (heeded_converge "delete" hasked) fun _ => ?_
  refine heeded_bind (heeded_awaitChildren app.targets fun request hrequest => ?_) fun counts =>
    heeded_settle (heeded_done _)
  obtain ⟨target, -, hchild⟩ := List.mem_filterMap.mp hrequest
  obtain ⟨instanceId, -, rfl⟩ := Option.map_eq_some_iff.mp hchild
  exact hexcused _ _

theorem Creates.look_of_ok {spec : Spec} {course : List (Episode σ)} {record : AppRecord} {c : Call}
    {id : AppId} (h : Creates s settings spec course (some (.ok record)))
    (hc : c ∈ course.flatMap Episode.calls) (heffect : c.effect = .getApp id) : id = record.id := by
  cases h with
  | submitted _ hresolving hcreation hrest =>
    cases hrest with
    | concluded hcreated hid hrest =>
      rcases mem_calls_submitted hc with hfirst | rfl | hlater
      · exact Effect.noConfusion (heffect.symm.trans (hresolving.effect_of_mem hfirst))
      · exact Effect.noConfusion (heffect.symm.trans hcreation)
      · have hread := hrest.effect_of_mem hlater
        rw [heffect] at hread
        rcases hread with hlook | ⟨version, hversion⟩
        · cases hrest with
          | readBack _ hreading =>
            rw [hreading.recorded.1]
            exact Effect.getApp.inj hlook
        · exact Effect.noConfusion hversion

theorem calls_of_look {p : Plan α} {w : World σ} {look : Call}
    (h : p.course s w = [.call look]) : (p.run s w).calls = [look] := by
  rw [calls_run, h]
  rfl

theorem create_heeds (spec : Spec) (w : World σ) :
    let run := (create settings spec).run s w
    TemplateErrorsFail run ∧ ∀ record, run.result = some (.ok record) →
      ∀ c ∈ run.calls, c.Erred → MissedIn ((create settings spec).course s w)
        (activation settings record.id settings.timeouts.create) c record.id := by
  intro run
  have hcreates : Creates s settings spec _ run.result := yields_create w
  have hplan : (create settings spec).Yields s (Heeded s
      (fun request => ∃ id, request = activation settings id settings.timeouts.create)
      fun _ => False) := heeded_create fun id _ => ⟨id, rfl⟩
  have hheeded := hplan w
  refine ⟨hheeded.templateErrorsFail, fun record hok c hc ⟨e, he⟩ => ?_⟩
  rw [hok] at hcreates
  rw [hok] at hheeded
  rw [calls_run] at hc
  rcases hheeded.erred hc he with ⟨_, hexcused, -⟩ | ⟨turn, ⟨id, hasked⟩, hturn, hmem, heffect, habsent⟩
  · exact hexcused.elim
  · rw [hasked] at heffect
    obtain rfl := hcreates.look_of_ok hc heffect
    exact ⟨⟨e, heffect, he, habsent⟩, turn, hturn, hasked, hmem⟩

theorem update_heeds (prior : AppRecord) (desired : Spec) (w : World σ) :
    let run := (update settings prior desired).run s w
    TemplateErrorsFail run ∧ ∀ record, run.result = some (.ok record) →
      ∀ c ∈ run.calls, c.Erred → MissedIn ((update settings prior desired).course s w)
        (activation settings prior.id settings.timeouts.update) c prior.id := by
  intro run
  have hplan : (update settings prior desired).Yields s (Heeded s
      (fun request => request = activation settings prior.id settings.timeouts.update)
      fun _ => False) := heeded_update fun _ => rfl
  have hheeded := hplan w
  refine ⟨hheeded.templateErrorsFail, fun record hok c hc herred => ?_⟩
  rw [hok] at hheeded
  rw [calls_run] at hc
  rcases hheeded.missedIn rfl hc herred with ⟨_, hexcused, -⟩ | hmissed
  · exact hexcused.elim
  · exact hmissed

theorem read_heeds (id : AppId) (declared : Option Spec) (w : World σ) :
    let run := (read id declared).run s w
    TemplateErrorsFail run ∧ ∀ found, run.result = some (.ok found) →
      ∀ c ∈ run.calls, c.Erred → found = none ∧ run.calls = [c] ∧ c.Misses id := by
  intro run
  have hplan : (read id declared).Yields s fun course result =>
      (∃ look, course = [.call look] ∧ look.Misses id ∧ result = some (.ok none)) ∨
        Heeded s (fun _ => False) (fun _ => False) course result := yields_read
  rcases hplan w with ⟨look, hcourse, hmisses, hresult⟩ | hheeded
  · have hcalls : run.calls = [look] := calls_of_look hcourse
    refine ⟨templateErrorsFail_of_look hcalls hmisses.effect_eq, fun found hok c hc _ => ?_⟩
    rw [hcalls] at hc ⊢
    obtain rfl := List.mem_singleton.mp hc
    have hnone : none = found := by simpa using hresult.symm.trans hok
    exact ⟨hnone.symm, rfl, hmisses⟩
  · refine ⟨hheeded.templateErrorsFail, fun found hok c hc ⟨e, he⟩ => ?_⟩
    rw [hok] at hheeded
    rw [calls_run] at hc
    rcases hheeded.erred hc he with ⟨_, hexcused, -⟩ | ⟨_, hasked, -⟩
    · exact hexcused.elim
    · exact hasked.elim

theorem delete_heeds (id : AppId) (w : World σ) :
    let run := (delete settings id).run s w
    TemplateErrorsFail run ∧ ∀ outcome, run.result = some (.ok outcome) →
      ∀ c ∈ run.calls, c.Erred →
        (outcome = .alreadyAbsent ∧ run.calls = [c] ∧ c.Misses id) ∨
        MissedIn ((delete settings id).course s w) (removal settings (.app id)) c id ∨
        ∃ project child, c.effect = .getChildApp project child := by
  intro run
  have hplan : (delete settings id).Yields s fun course result =>
      (∃ look, course = [.call look] ∧ look.Misses id ∧ result = some (.ok .alreadyAbsent)) ∨
        Heeded s (fun request => request = removal settings (.app id))
          (fun request => ∃ project child, request.subject = .child project child) course result :=
    yields_delete rfl fun project child => ⟨project, child, rfl⟩
  rcases hplan w with ⟨look, hcourse, hmisses, hresult⟩ | hheeded
  · have hcalls : run.calls = [look] := calls_of_look hcourse
    refine ⟨templateErrorsFail_of_look hcalls hmisses.effect_eq, fun outcome hok c hc _ => .inl ?_⟩
    rw [hcalls] at hc ⊢
    obtain rfl := List.mem_singleton.mp hc
    have habsent : .alreadyAbsent = outcome := by simpa using hresult.symm.trans hok
    exact ⟨habsent.symm, rfl, hmisses⟩
  · refine ⟨hheeded.templateErrorsFail, fun outcome hok c hc herred => .inr ?_⟩
    rw [hok] at hheeded
    rw [calls_run] at hc
    rcases hheeded.missedIn rfl hc herred with ⟨request, ⟨project, child, hchild⟩, heffect⟩ | hmissed
    · rw [hchild] at heffect
      exact .inr ⟨project, child, heffect⟩
    · exact .inl hmissed

theorem errors_are_heeded (s : Setting σ) (settings : Settings) (w : World σ) :
    (∀ spec, let run := (create settings spec).run s w
      TemplateErrorsFail run ∧ ∀ record, run.result = some (.ok record) →
        ∀ c ∈ run.calls, c.Erred → MissedIn ((create settings spec).course s w)
          (activation settings record.id settings.timeouts.create) c record.id) ∧
    (∀ prior desired, let run := (update settings prior desired).run s w
      TemplateErrorsFail run ∧ ∀ record, run.result = some (.ok record) →
        ∀ c ∈ run.calls, c.Erred → MissedIn ((update settings prior desired).course s w)
          (activation settings prior.id settings.timeouts.update) c prior.id) ∧
    (∀ id declared, let run := (read id declared).run s w
      TemplateErrorsFail run ∧ ∀ found, run.result = some (.ok found) →
        ∀ c ∈ run.calls, c.Erred → found = none ∧ run.calls = [c] ∧ c.Misses id) ∧
    ∀ id, let run := (delete settings id).run s w
      TemplateErrorsFail run ∧ ∀ outcome, run.result = some (.ok outcome) →
        ∀ c ∈ run.calls, c.Erred →
          (outcome = .alreadyAbsent ∧ run.calls = [c] ∧ c.Misses id) ∨
          MissedIn ((delete settings id).course s w) (removal settings (.app id)) c id ∨
          ∃ project child, c.effect = .getChildApp project child :=
  ⟨fun spec => create_heeds spec w, fun prior desired => update_heeds prior desired w,
    fun id declared => read_heeds id declared w, fun id => delete_heeds id w⟩

open Sample in
theorem errors_are_heeded_after_miss :
    let s : Setting Store := ⟨Store.api, none, 2⟩
    let plan := create .standard wanted
    let run := plan.run s ⟨lagging, 0⟩
    run.result = some (.ok wantedRecord) ∧ ∃ c ∈ run.calls, c.Erred ∧
      MissedIn (plan.course s ⟨lagging, 0⟩)
        (activation .standard ⟨"mcapp-1"⟩ Timeouts.standard.create) c ⟨"mcapp-1"⟩ := by
  intro s plan run
  have hok : run.result = some (.ok wantedRecord) := by decide +kernel
  have hmissed : ∃ c ∈ run.calls, c.Erred := by decide +kernel
  obtain ⟨c, hc, herred⟩ := hmissed
  obtain ⟨hcreate, -⟩ := errors_are_heeded s .standard ⟨lagging, 0⟩
  exact ⟨hok, c, hc, herred, (hcreate wanted).2 wantedRecord hok c hc herred⟩

end Lifecycle

end MultiCluster
