import Mathlib.Data.List.Basic
import MultiCluster.Proofs.Plan.Outcome
import MultiCluster.Proofs.Polling.Success
import MultiCluster.Proofs.Update.Word

namespace MultiCluster

def Turn.episode {σ : Type} (turn : Turn σ) : Episode σ :=
  .wait turn.request turn.startedAt turn.run

theorem Call.Misses.effect_eq {c : Call} {id : AppId} (h : c.Misses id) : c.effect = .getApp id := by
  obtain ⟨-, hid, -⟩ := h
  exact hid

namespace Lifecycle

open Plan

variable {σ : Type} {s : Setting σ} {settings : Settings} {id : AppId} {timeout : Duration}
  {operation : String} {spec : Spec}

def activation (settings : Settings) (id : AppId) (timeout : Duration) : WaitRequest :=
  ⟨.app id, .active, timeout, settings.poll⟩

def applyChanges (prior : AppRecord) (desired : Spec) : Plan Unit :=
  (validate desired.targets desired.answers).bind fun _ =>
    (getApp prior.id).bind fun remote =>
      applyMode prior desired remote (.ofChanges (.between prior.spec desired))

theorem update_eq_conclude (prior : AppRecord) (desired : Spec) :
    update settings prior desired = (applyChanges prior desired).bind fun _ =>
      conclude settings prior.id settings.timeouts.update "update" desired := by
  rw [update_eq, applyChanges, bind_assoc]
  simp only [bind_assoc]
  rfl

inductive Settles (s : Setting σ) (settings : Settings) (id : AppId) (timeout : Duration)
    (operation : String) (waits : Bool) :
    List (Episode σ) → Option (Except LifecycleError Unit) → Prop
  | skipped (hwaits : waits = false) : Settles s settings id timeout operation waits [] (some (.ok ()))
  | settled {w : World σ} {reached : String} (hwaits : waits = true)
    (hresult : (s.turn (activation settings id timeout) w).run.result = some (.ok reached)) :
    Settles s settings id timeout operation waits
      [(s.turn (activation settings id timeout) w).episode] (some (.ok ()))
  | failed {w : World σ} {e : PollError} (hwaits : waits = true)
    (hresult : (s.turn (activation settings id timeout) w).run.result = some (.error e)) :
    Settles s settings id timeout operation waits
      [(s.turn (activation settings id timeout) w).episode] (some (.error (.wait id operation e)))
  | unfinished {w : World σ} (hwaits : waits = true) :
    Settles s settings id timeout operation waits
      [(s.turn (activation settings id timeout) w).episode] none

inductive ReadsBack (id : AppId) (spec : Spec) :
    List (Episode σ) → Option (Except LifecycleError AppRecord) → Prop
  | vanished {look : Call} (hlook : look.Misses id) :
    ReadsBack id spec [.call look] (some (.error (.vanished id)))
  | unread {look : Call} {e : LifecycleError} (hlook : look.effect = .getApp id)
    (hthere : ¬ look.Misses id) (he : ∀ other, e ≠ .vanished other) :
    ReadsBack id spec [.call look] (some (.error e))
  | unversioned {look version : Call} {app : App} {e : LifecycleError}
    (hlook : look.effect = .getApp id) (hfound : look.answer = some (.ok (.app app)))
    (hversion : version.effect = .getTemplateVersion app.templateVersion)
    (he : ∀ other, e ≠ .vanished other) :
    ReadsBack id spec [.call look, .call version] (some (.error e))
  | read {look version : Call} {app : App} {found : TemplateVersion} {catalog : CatalogRef}
    (hlook : look.effect = .getApp id) (hfound : look.answer = some (.ok (.app app)))
    (hversion : version.effect = .getTemplateVersion app.templateVersion)
    (hnamed : version.answer = some (.ok (.templateVersion found)))
    (hcatalog : CatalogRef.read found.externalId = .ok catalog) :
    ReadsBack id spec [.call look, .call version] (some (.ok (app.record id catalog (some spec))))

inductive Concludes (s : Setting σ) (settings : Settings) (id : AppId) (timeout : Duration)
    (operation : String) (spec : Spec) :
    List (Episode σ) → Option (Except LifecycleError AppRecord) → Prop
  | unfinished {settling : List (Episode σ)}
    (hsettling : Settles s settings id timeout operation spec.wait settling none) :
    Concludes s settings id timeout operation spec settling none
  | unsettled {settling : List (Episode σ)} {e : LifecycleError}
    (hsettling : Settles s settings id timeout operation spec.wait settling (some (.error e))) :
    Concludes s settings id timeout operation spec settling (some (.error e))
  | readBack {settling reading : List (Episode σ)} {result : Option (Except LifecycleError AppRecord)}
    (hsettling : Settles s settings id timeout operation spec.wait settling (some (.ok ())))
    (hreading : ReadsBack id spec reading result) :
    Concludes s settings id timeout operation spec (settling ++ reading) result

theorem yields_settling (waits : Bool) :
    (Plan.when waits (converge settings id .active timeout operation)).Yields s
      (Settles s settings id timeout operation waits) := by
  cases waits with
  | false =>
    intro w
    exact .skipped rfl
  | true =>
    show (await (activation settings id timeout) _).Yields s _
    refine yields_await ?_ ?_
    · intro w hopen
      exact .unfinished rfl
    · intro w result hresult later
      cases result with
      | ok reached => exact .settled rfl hresult
      | error e => exact .failed rfl hresult

theorem yields_readFound {look : Call} {app : App} (hlook : look.effect = .getApp id)
    (hfound : look.answer = some (.ok (.app app))) :
    (readFound id (some spec) app).Yields s fun later result =>
      ReadsBack id spec (.call look :: later) result := by
  have hplan : readFound id (some spec) app =
      (perform (.getTemplateVersion app.templateVersion)).bind fun response =>
        (checked (response.toTemplateVersion "get template version")).bind fun version =>
          (ofExcept ((CatalogRef.read version.externalId).mapError .resolution)).bind fun catalog =>
            done (.ok (app.record id catalog (some spec))) := rfl
  rw [hplan, perform_bind]
  refine yields_call fun startedAt answer => ?_
  cases answer with
  | error e => exact fun w => .unversioned hlook hfound rfl (by simp)
  | ok response =>
    cases response with
    | templateVersion found =>
      intro w
      have hchecked : checked ((Response.templateVersion found).toTemplateVersion
          "get template version") = done (.ok found) := rfl
      simp only [hchecked, done_ok_bind]
      cases hcatalog : CatalogRef.read found.externalId with
      | error fault => exact .unversioned hlook hfound rfl (by simp)
      | ok catalog => exact .read hlook hfound rfl rfl hcatalog
    | _ => exact fun w => .unversioned hlook hfound rfl (by simp)

theorem yields_readBack : (readBack id spec).Yields s (ReadsBack id spec) := by
  rw [readBack_eq]
  refine yields_call fun startedAt answer => ?_
  cases answer with
  | error e =>
    intro w
    cases habsent : e.isAbsent with
    | true =>
      simp only [habsent, ↓reduceIte]
      exact .vanished ⟨e, rfl, rfl, habsent⟩
    | false =>
      have hthere : ¬ Call.Misses ⟨startedAt, .getApp id, some (.error e)⟩ id := by
        rintro ⟨other, -, hanswer, hother⟩
        obtain rfl : e = other := by simpa using hanswer
        rw [habsent] at hother
        exact Bool.false_ne_true hother
      simp only [habsent, Bool.false_eq_true, ↓reduceIte]
      exact .unread rfl hthere (by simp)
  | ok response =>
    have hthere : ¬ Call.Misses ⟨startedAt, .getApp id, some (.ok response)⟩ id := by
      rintro ⟨other, -, hanswer, -⟩
      simp at hanswer
    cases response with
    | app app => exact yields_readFound rfl rfl
    | _ => exact fun w => .unread rfl hthere (by simp)

theorem yields_conclude : (conclude settings id timeout operation spec).Yields s
    (Concludes s settings id timeout operation spec) := by
  refine (yields_settling spec.wait).bind ?_ ?_ ?_
  · intro settling hsettling
    exact .unfinished hsettling
  · intro settling e hsettling
    exact .unsettled hsettling
  · intro settling _ hsettling
    exact yields_readBack.mono fun reading result hreading => .readBack hsettling hreading

section Stages

variable {course : List (Episode σ)} {waits : Bool} {c : Call}

theorem Settles.turn_or_nil {result : Option (Except LifecycleError Unit)}
    (h : Settles s settings id timeout operation waits course result) :
    course = [] ∨ waits = true ∧ ∃ w, course = [(s.turn (activation settings id timeout) w).episode] := by
  cases h with
  | skipped _ => exact .inl rfl
  | settled hwaits _ => exact .inr ⟨hwaits, _, rfl⟩
  | failed hwaits _ => exact .inr ⟨hwaits, _, rfl⟩
  | unfinished hwaits => exact .inr ⟨hwaits, _, rfl⟩

theorem Settles.effect_of_mem {result : Option (Except LifecycleError Unit)}
    (h : Settles s settings id timeout operation waits course result)
    (hc : c ∈ course.flatMap Episode.calls) : waits = true ∧ c.effect = .getApp id := by
  rcases h.turn_or_nil with rfl | ⟨hwaits, w, rfl⟩
  · exact absurd hc List.not_mem_nil
  · rw [List.flatMap_singleton] at hc
    exact ⟨hwaits, Setting.effect_of_mem_waitCalls hc⟩

theorem ReadsBack.effects {result : Option (Except LifecycleError AppRecord)}
    (h : ReadsBack id spec course result) : ∃ version,
      (course.flatMap Episode.calls).map Call.effect <+: [.getApp id, .getTemplateVersion version] := by
  cases h with
  | vanished hlook => exact ⟨⟨""⟩, by simp [Episode.calls, hlook.effect_eq]⟩
  | unread heffect => exact ⟨⟨""⟩, by simp [Episode.calls, heffect]⟩
  | unversioned heffect _ hversion => exact ⟨_, by simp [Episode.calls, heffect, hversion]; rfl⟩
  | read heffect _ hversion => exact ⟨_, by simp [Episode.calls, heffect, hversion]; rfl⟩

theorem Concludes.effects {result : Option (Except LifecycleError AppRecord)}
    (h : Concludes s settings id timeout operation spec course result) : ∃ looks version,
      (course.flatMap Episode.calls).map Call.effect <+:
          looks ++ [.getApp id, .getTemplateVersion version] ∧
        (∀ look ∈ looks, look = .getApp id) ∧ (spec.wait = false → looks = []) := by
  have hlooks {settling : List (Episode σ)} {settled : Option (Except LifecycleError Unit)}
      (hsettling : Settles s settings id timeout operation spec.wait settling settled) :
      let looks := (settling.flatMap Episode.calls).map Call.effect
      (∀ look ∈ looks, look = .getApp id) ∧ (spec.wait = false → looks = []) := by
    intro looks
    constructor
    · intro look hlook
      obtain ⟨c, hc, rfl⟩ := List.mem_map.mp hlook
      exact (hsettling.effect_of_mem hc).2
    · intro hwaits
      rcases hsettling.turn_or_nil with rfl | ⟨hwaits', -⟩
      · rfl
      · exact absurd (hwaits.symm.trans hwaits') (by simp)
  cases h with
  | unfinished hsettling => exact ⟨_, ⟨""⟩, List.prefix_append _ _, hlooks hsettling⟩
  | unsettled hsettling => exact ⟨_, ⟨""⟩, List.prefix_append _ _, hlooks hsettling⟩
  | readBack hsettling hreading =>
    obtain ⟨version, hbegins⟩ := hreading.effects
    refine ⟨_, version, ?_, hlooks hsettling⟩
    rw [List.flatMap_append, List.map_append]
    exact List.prefix_append_right_inj _ |>.mpr hbegins

theorem Concludes.effect_of_mem {result : Option (Except LifecycleError AppRecord)}
    (h : Concludes s settings id timeout operation spec course result)
    (hc : c ∈ course.flatMap Episode.calls) :
    c.effect = .getApp id ∨ ∃ version, c.effect = .getTemplateVersion version := by
  obtain ⟨looks, version, hbegins, hlooks, -⟩ := h.effects
  have hmem := hbegins.subset (List.mem_map_of_mem hc)
  rcases List.mem_append.mp hmem with hlook | hread
  · exact .inl (hlooks _ hlook)
  · rcases List.mem_cons.mp hread with hlook | hversion
    · exact .inl hlook
    · exact .inr ⟨version, List.mem_singleton.mp hversion⟩

variable {gone : AppId}

theorem ReadsBack.vanished_iff {result : Option (Except LifecycleError AppRecord)}
    (h : ReadsBack id spec course result) : result = some (.error (.vanished gone)) ↔
      ∃ look, course.getLast? = some (.call look) ∧ look.Misses gone := by
  cases h with
  | @vanished look hlook =>
    constructor
    · intro hresult
      obtain rfl : id = gone := by simpa using hresult
      exact ⟨look, rfl, hlook⟩
    · rintro ⟨last, hlast, hmisses⟩
      obtain rfl : look = last := by simpa using hlast
      rw [Effect.getApp.inj (hlook.effect_eq.symm.trans hmisses.effect_eq)]
  | @unread look e heffect hthere he =>
    constructor
    · intro hresult
      exact absurd (by simpa using hresult) (he gone)
    · rintro ⟨last, hlast, hmisses⟩
      obtain rfl : look = last := by simpa using hlast
      obtain rfl := Effect.getApp.inj (heffect.symm.trans hmisses.effect_eq)
      exact absurd hmisses hthere
  | @unversioned look version app e heffect _ hversion he =>
    constructor
    · intro hresult
      exact absurd (by simpa using hresult) (he gone)
    · rintro ⟨last, hlast, hmisses⟩
      obtain rfl : version = last := by simpa using hlast
      exact Effect.noConfusion (hversion.symm.trans hmisses.effect_eq)
  | @read look version app found catalog heffect _ hversion =>
    constructor
    · intro hresult
      exact absurd hresult (by simp)
    · rintro ⟨last, hlast, hmisses⟩
      obtain rfl : version = last := by simpa using hlast
      exact Effect.noConfusion (hversion.symm.trans hmisses.effect_eq)

theorem Settles.not_vanished {result : Option (Except LifecycleError Unit)}
    (h : Settles s settings id timeout operation waits course result) :
    result ≠ some (.error (.vanished gone)) := by
  cases h <;> simp

theorem Settles.last_ne_call {result : Option (Except LifecycleError Unit)}
    (h : Settles s settings id timeout operation waits course result) :
    course.getLast? ≠ some (.call c) := by
  rcases h.turn_or_nil with rfl | ⟨-, w, rfl⟩
  · simp
  · simp [Turn.episode]

theorem ReadsBack.ne_nil {result : Option (Except LifecycleError AppRecord)}
    (h : ReadsBack id spec course result) : course ≠ [] := by
  cases h <;> simp

theorem Concludes.ne_nil {result : Option (Except LifecycleError AppRecord)}
    (h : Concludes s settings id timeout operation spec course result) : course ≠ [] := by
  cases h with
  | unfinished hsettling => cases hsettling; simp
  | unsettled hsettling => cases hsettling; simp
  | readBack _ hreading => exact List.append_ne_nil_of_right_ne_nil _ hreading.ne_nil

theorem Concludes.vanished_iff {result : Option (Except LifecycleError AppRecord)}
    (h : Concludes s settings id timeout operation spec course result) :
    result = some (.error (.vanished gone)) ↔
      ∃ look, course.getLast? = some (.call look) ∧ look.Misses gone := by
  cases h with
  | unfinished hsettling =>
    constructor
    · intro hresult
      exact absurd hresult (by simp)
    · rintro ⟨look, hlast, -⟩
      exact absurd hlast hsettling.last_ne_call
  | unsettled hsettling =>
    constructor
    · intro hresult
      obtain rfl := Except.error.inj (Option.some.inj hresult)
      exact absurd rfl hsettling.not_vanished
    · rintro ⟨look, hlast, -⟩
      exact absurd hlast hsettling.last_ne_call
  | readBack hsettling hreading =>
    rw [List.getLast?_append_of_ne_nil _ hreading.ne_nil]
    exact hreading.vanished_iff

theorem Concludes.settled_of_vanished {result : Option (Except LifecycleError AppRecord)}
    (h : Concludes s settings id timeout operation spec course result)
    (hvanished : result = some (.error (.vanished gone))) (hwait : spec.wait = true) :
    id = gone ∧ ∃ w reached, (s.turn (activation settings gone timeout) w).episode ∈ course ∧
      (s.turn (activation settings gone timeout) w).run.result = some (.ok reached) := by
  obtain ⟨look, hlast, hmisses⟩ := h.vanished_iff.mp hvanished
  have hmem : look ∈ course.flatMap Episode.calls :=
    List.mem_flatMap.mpr ⟨_, List.mem_of_getLast? hlast, List.mem_singleton_self _⟩
  obtain rfl : id = gone := by
    rcases h.effect_of_mem hmem with hlook | ⟨version, hversion⟩
    · exact Effect.getApp.inj (hlook.symm.trans hmisses.effect_eq)
    · exact Effect.noConfusion (hversion.symm.trans hmisses.effect_eq)
  refine ⟨rfl, ?_⟩
  cases h with
  | unfinished hsettling => exact absurd hlast hsettling.last_ne_call
  | unsettled hsettling => exact absurd hlast hsettling.last_ne_call
  | readBack hsettling hreading =>
    cases hsettling with
    | skipped hskipped => exact absurd (hwait.symm.trans hskipped) (by simp)
    | @settled w reached _ hresult => exact ⟨w, reached, by simp, hresult⟩

end Stages

end Lifecycle

end MultiCluster
