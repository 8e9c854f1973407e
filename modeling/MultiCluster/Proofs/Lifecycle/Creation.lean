import MultiCluster.Api.Store
import MultiCluster.Proofs.Lifecycle.Conclusion
import MultiCluster.Proofs.Template.Latest

namespace MultiCluster

namespace Lifecycle

open Plan

variable {σ : Type} {s : Setting σ} {settings : Settings} {spec : Spec} {version : String}

def payload (spec : Spec) (version : String) : App :=
  spec.newApp (Naming.templateVersionId spec.catalog spec.template version)

def submit (settings : Settings) (spec : Spec) (version : String) : Plan AppRecord :=
  (perform (.createApp (payload spec version))).bind fun response =>
    (checked (response.toApp "create multi-cluster app")).bind fun created =>
      match created.id with
      | none =>
        fail (.api (.unexpectedResponse "create multi-cluster app" "created object has no id"))
      | some id => conclude settings id settings.timeouts.create "create" spec

theorem create_eq (settings : Settings) (spec : Spec) : create settings spec =
    (validate spec.targets spec.answers).bind fun _ =>
      (versionOrLatest spec.version spec.catalog spec.template).bind (submit settings spec) := by
  unfold create submit conclude Plan.when
  simp only [bind_eq]
  congr 1
  funext _
  congr 1
  funext version
  congr 1
  funext response
  congr 1
  funext created
  cases created.id with
  | none => rfl
  | some id =>
    simp only
    split <;> rfl

inductive Resolves (spec : Spec) :
    List (Episode σ) → Option (Except LifecycleError String) → Prop
  | pinned {version : String} (hversion : spec.version = some version) :
    Resolves spec [] (some (.ok version))
  | latest {look : Call} {template : Template} {version : String} (hversion : spec.version = none)
    (hlook : look.effect = .getTemplate (Naming.templateId spec.catalog spec.template))
    (hfound : look.answer = some (.ok (.template template)))
    (hlatest : template.latest = .ok version) :
    Resolves spec [.call look] (some (.ok version))
  | unresolved {look : Call} {e : LifecycleError} (hversion : spec.version = none)
    (hlook : look.effect = .getTemplate (Naming.templateId spec.catalog spec.template))
    (he : ∀ other, e ≠ .vanished other) : Resolves spec [.call look] (some (.error e))

inductive Submitted (s : Setting σ) (settings : Settings) (spec : Spec) (creation : Call) :
    List (Episode σ) → Option (Except LifecycleError AppRecord) → Prop
  | refused {e : LifecycleError} (hrefused : ∀ app, creation.answer ≠ some (.ok (.app app)))
    (he : ∀ other, e ≠ .vanished other) : Submitted s settings spec creation [] (some (.error e))
  | nameless {app : App} (hcreated : creation.answer = some (.ok (.app app))) (hid : app.id = none) :
    Submitted s settings spec creation []
      (some (.error (.api (.unexpectedResponse "create multi-cluster app" "created object has no id"))))
  | concluded {app : App} {id : AppId} {rest : List (Episode σ)}
    {result : Option (Except LifecycleError AppRecord)}
    (hcreated : creation.answer = some (.ok (.app app))) (hid : app.id = some id)
    (hrest : Concludes s settings id settings.timeouts.create "create" spec rest result) :
    Submitted s settings spec creation rest result

inductive Creates (s : Setting σ) (settings : Settings) (spec : Spec) :
    List (Episode σ) → Option (Except LifecycleError AppRecord) → Prop
  | rejected {e : TargetSetError}
    (hinvalid : TargetSet.validate ⟨spec.targets, spec.answers⟩ = .error e) :
    Creates s settings spec [] (some (.error (.invalidSpec e)))
  | unresolved {resolving : List (Episode σ)} {e : LifecycleError}
    (hvalid : TargetSet.validate ⟨spec.targets, spec.answers⟩ = .ok ())
    (hresolving : Resolves spec resolving (some (.error e))) :
    Creates s settings spec resolving (some (.error e))
  | submitted {resolving rest : List (Episode σ)} {version : String} {creation : Call}
    {result : Option (Except LifecycleError AppRecord)}
    (hvalid : TargetSet.validate ⟨spec.targets, spec.answers⟩ = .ok ())
    (hresolving : Resolves spec resolving (some (.ok version)))
    (hcreation : creation.effect = .createApp (payload spec version))
    (hrest : Submitted s settings spec creation rest result) :
    Creates s settings spec (resolving ++ .call creation :: rest) result

theorem yields_versionOrLatest :
    (versionOrLatest spec.version spec.catalog spec.template).Yields s (Resolves spec) := by
  cases hversion : spec.version with
  | some version =>
    intro w
    exact .pinned hversion
  | none =>
    show (resolveLatest spec.catalog spec.template).Yields s (Resolves spec)
    rw [resolveLatest_eq]
    refine yields_call fun startedAt answer => ?_
    cases answer with
    | error e =>
      intro w
      refine .unresolved hversion rfl ?_
      split <;> simp
    | ok response =>
      cases response with
      | template template =>
        intro w
        have hchecked : checked ((Response.template template).toTemplate "get template") =
            done (.ok template) := rfl
        simp only [hchecked, done_ok_bind]
        cases hlatest : template.latest with
        | error fault => exact .unresolved hversion rfl (by simp)
        | ok version => exact .latest hversion rfl rfl hlatest
      | _ => exact fun w => .unresolved hversion rfl (by simp)

theorem yields_submit : (submit settings spec version).Yields s fun course result =>
    ∃ creation rest, course = .call creation :: rest ∧
      creation.effect = .createApp (payload spec version) ∧
      Submitted s settings spec creation rest result := by
  rw [submit, perform_bind]
  refine yields_call fun startedAt answer => ?_
  cases answer with
  | error e => exact fun w => ⟨_, [], rfl, rfl, .refused (by simp) (by simp)⟩
  | ok response =>
    cases response with
    | app app =>
      have hchecked : checked ((Response.app app).toApp "create multi-cluster app") =
          done (.ok app) := rfl
      simp only [hchecked, done_ok_bind]
      cases hid : app.id with
      | none => exact fun w => ⟨_, [], rfl, rfl, .nameless rfl hid⟩
      | some id =>
        refine yields_conclude.mono fun rest result hrest => ?_
        exact ⟨_, rest, rfl, rfl, .concluded rfl hid hrest⟩
    | _ => exact fun w => ⟨_, [], rfl, rfl, .refused (by simp) (by simp)⟩

theorem yields_create : (create settings spec).Yields s (Creates s settings spec) := by
  rw [create_eq, validate]
  cases hvalid : TargetSet.validate ⟨spec.targets, spec.answers⟩ with
  | error e =>
    intro w
    exact .rejected hvalid
  | ok _ =>
    show ((versionOrLatest spec.version spec.catalog spec.template).bind
      (submit settings spec)).Yields s _
    refine yields_versionOrLatest.bind ?_ ?_ ?_
    · intro resolving hresolving
      cases hresolving
    · intro resolving e hresolving
      exact .unresolved hvalid hresolving
    · intro resolving version hresolving
      refine yields_submit.mono fun course result hsubmitted => ?_
      obtain ⟨creation, rest, rfl, hcreation, hrest⟩ := hsubmitted
      exact .submitted hvalid hresolving hcreation hrest

def versionEffects (spec : Spec) : List Effect :=
  match spec.version with
  | some _ => []
  | none => [.getTemplate (Naming.templateId spec.catalog spec.template)]

def Chosen (spec : Spec) (calls : List Call) (version : String) : Prop :=
  spec.version = some version ∨ spec.version = none ∧ ∃ look ∈ calls, ∃ template : Template,
    look.effect = .getTemplate (Naming.templateId spec.catalog spec.template) ∧
      look.answer = some (.ok (.template template)) ∧ template.latest = .ok version ∧
      version ∈ template.versionLinks.keys ∧
      ∀ key ∈ template.versionLinks.keys, Version.read key ≠ none

section Effects

variable {course : List (Episode σ)} {creation c : Call} {id : AppId}

theorem Resolves.effects {result : Option (Except LifecycleError String)}
    (h : Resolves spec course result) :
    (course.flatMap Episode.calls).map Call.effect = versionEffects spec := by
  cases h with
  | pinned hversion => simp [versionEffects, hversion]
  | latest hversion hlook => simp [versionEffects, hversion, Episode.calls, hlook]
  | unresolved hversion hlook => simp [versionEffects, hversion, Episode.calls, hlook]

theorem mem_versionEffects {effect : Effect} (h : effect ∈ versionEffects spec) :
    effect = .getTemplate (Naming.templateId spec.catalog spec.template) := by
  unfold versionEffects at h
  split at h
  · exact absurd h List.not_mem_nil
  · exact List.mem_singleton.mp h

theorem Resolves.effect_of_mem {result : Option (Except LifecycleError String)}
    (h : Resolves spec course result) (hc : c ∈ course.flatMap Episode.calls) :
    c.effect = .getTemplate (Naming.templateId spec.catalog spec.template) := by
  have hmem : c.effect ∈ (course.flatMap Episode.calls).map Call.effect := List.mem_map_of_mem hc
  rw [h.effects] at hmem
  exact mem_versionEffects hmem

theorem Resolves.chosen (h : Resolves spec course (some (.ok version))) {calls : List Call}
    (hcalls : ∀ c ∈ course.flatMap Episode.calls, c ∈ calls) : Chosen spec calls version := by
  cases h with
  | pinned hversion => exact .inl hversion
  | @latest look template _ hversion hlook hfound hlatest =>
    have hmem : look ∈ calls := hcalls look (by simp [Episode.calls])
    obtain ⟨hkey, hread⟩ := Template.latest_ok hlatest
    exact .inr ⟨hversion, look, hmem, template, hlook, hfound, hlatest, hkey, hread⟩

variable {result : Option (Except LifecycleError AppRecord)}

theorem Submitted.effects (h : Submitted s settings spec creation course result) :
    ∃ looks id version, (course.flatMap Episode.calls).map Call.effect <+:
        looks ++ [.getApp id, .getTemplateVersion version] ∧
      (∀ look ∈ looks, look = .getApp id) ∧ (spec.wait = false → looks = []) := by
  cases h with
  | refused _ _ => exact ⟨[], ⟨""⟩, ⟨""⟩, List.nil_prefix, by simp⟩
  | nameless _ _ => exact ⟨[], ⟨""⟩, ⟨""⟩, List.nil_prefix, by simp⟩
  | @concluded _ id _ _ _ _ hrest =>
    obtain ⟨looks, version, heffects⟩ := hrest.effects
    exact ⟨looks, id, version, heffects⟩

theorem Submitted.id_of_mem (h : Submitted s settings spec creation course result)
    (hc : c ∈ course.flatMap Episode.calls) : ∃ app id, creation.answer = some (.ok (.app app)) ∧
      app.id = some id ∧ (c.effect = .getApp id ∨ ∃ version, c.effect = .getTemplateVersion version) := by
  cases h with
  | refused _ _ => exact absurd hc List.not_mem_nil
  | nameless _ _ => exact absurd hc List.not_mem_nil
  | concluded hcreated hid hrest => exact ⟨_, _, hcreated, hid, hrest.effect_of_mem hc⟩

theorem Creates.effects (h : Creates s settings spec course result) :
    ∃ created looks id version, (course.flatMap Episode.calls).map Call.effect <+:
        versionEffects spec ++ .createApp created ::
          (looks ++ [.getApp id, .getTemplateVersion version]) ∧
      (∀ look ∈ looks, look = .getApp id) ∧ (spec.wait = false → looks = []) := by
  cases h with
  | rejected _ => exact ⟨payload spec "", [], ⟨""⟩, ⟨""⟩, List.nil_prefix, by simp⟩
  | unresolved _ hresolving =>
    refine ⟨payload spec "", [], ⟨""⟩, ⟨""⟩, ?_, by simp⟩
    rw [hresolving.effects]
    exact List.prefix_append _ _
  | @submitted _ _ version _ _ _ hresolving hcreation hrest =>
    obtain ⟨looks, id, found, hbegins, hlooks⟩ := hrest.effects
    refine ⟨payload spec version, looks, id, found, ?_, hlooks⟩
    rw [List.flatMap_append, List.map_append, hresolving.effects, List.flatMap_cons, Episode.calls,
      List.singleton_append, List.map_cons, hcreation]
    exact (List.prefix_append_right_inj _).mpr (List.cons_prefix_cons.mpr ⟨rfl, hbegins⟩)

theorem mem_calls_submitted {resolving : List (Episode σ)}
    (h : c ∈ (resolving ++ .call creation :: course).flatMap Episode.calls) :
    c ∈ resolving.flatMap Episode.calls ∨ c = creation ∨ c ∈ course.flatMap Episode.calls := by
  rw [List.flatMap_append, List.flatMap_cons, Episode.calls, List.singleton_append] at h
  rcases List.mem_append.mp h with hresolving | hrest
  · exact .inl hresolving
  · exact .inr (List.mem_cons.mp hrest)

theorem Creates.eq_of_invalid {e : TargetSetError} (h : Creates s settings spec course result)
    (hinvalid : TargetSet.validate ⟨spec.targets, spec.answers⟩ = .error e) :
    course = [] ∧ result = some (.error (.invalidSpec e)) := by
  cases h with
  | rejected hinvalid' =>
    obtain rfl := Except.error.inj (hinvalid.symm.trans hinvalid')
    exact ⟨rfl, rfl⟩
  | unresolved hvalid _ => exact absurd (hinvalid.symm.trans hvalid) (by simp)
  | submitted hvalid _ _ _ => exact absurd (hinvalid.symm.trans hvalid) (by simp)

theorem Creates.creation_of_mem {created : App} (h : Creates s settings spec course result)
    (hc : c ∈ course.flatMap Episode.calls) (heffect : c.effect = .createApp created) :
    ∃ resolving rest version, course = resolving ++ .call c :: rest ∧
      Resolves spec resolving (some (.ok version)) ∧ created = payload spec version ∧
      Submitted s settings spec c rest result := by
  cases h with
  | rejected _ => exact absurd hc List.not_mem_nil
  | unresolved _ hresolving =>
    have hother := hresolving.effect_of_mem hc
    rw [heffect] at hother
    exact Effect.noConfusion hother
  | @submitted resolving rest version creation _ _ hresolving hcreation hrest =>
    rcases mem_calls_submitted hc with hfirst | rfl | hlater
    · have hother := hresolving.effect_of_mem hfirst
      rw [heffect] at hother
      exact Effect.noConfusion hother
    · have hpayload := Effect.createApp.inj (heffect.symm.trans hcreation)
      exact ⟨resolving, rest, version, rfl, hresolving, hpayload, hrest⟩
    · obtain ⟨app, id, -, -, hread⟩ := hrest.id_of_mem hlater
      rw [heffect] at hread
      rcases hread with hlook | ⟨found, hversion⟩
      · exact Effect.noConfusion hlook
      · exact Effect.noConfusion hversion

theorem Creates.payload_of_mem {created : App} (h : Creates s settings spec course result)
    (hc : c ∈ course.flatMap Episode.calls) (heffect : c.effect = .createApp created) :
    ∃ version, Chosen spec (course.flatMap Episode.calls) version ∧ created = payload spec version := by
  obtain ⟨resolving, rest, version, rfl, hresolving, hpayload, -⟩ := h.creation_of_mem hc heffect
  refine ⟨version, hresolving.chosen fun look hlook => ?_, hpayload⟩
  rw [List.flatMap_append]
  exact List.mem_append_left _ hlook

theorem Creates.eq_of_nameless {created app : App} (h : Creates s settings spec course result)
    (hc : c ∈ course.flatMap Episode.calls) (heffect : c.effect = .createApp created)
    (hanswer : c.answer = some (.ok (.app app))) (hid : app.id = none) :
    (course.flatMap Episode.calls).getLast? = some c ∧
      result = some (.error (.api
        (.unexpectedResponse "create multi-cluster app" "created object has no id"))) := by
  obtain ⟨resolving, rest, version, rfl, -, -, hrest⟩ := h.creation_of_mem hc heffect
  cases hrest with
  | refused hrefused _ => exact absurd hanswer (hrefused app)
  | nameless _ _ => exact ⟨by simp [Episode.calls], rfl⟩
  | concluded hcreated hnamed _ =>
    obtain rfl : app = _ := by simpa using hanswer.symm.trans hcreated
    exact absurd (hid.symm.trans hnamed) (by simp)

theorem Creates.created_of_look (h : Creates s settings spec course result)
    (hc : c ∈ course.flatMap Episode.calls) (heffect : c.effect = .getApp id) :
    ∃ creation ∈ course.flatMap Episode.calls, ∃ created app,
      creation.effect = .createApp created ∧ creation.answer = some (.ok (.app app)) ∧
        app.id = some id := by
  cases h with
  | rejected _ => exact absurd hc List.not_mem_nil
  | unresolved _ hresolving =>
    have hother := hresolving.effect_of_mem hc
    rw [heffect] at hother
    exact Effect.noConfusion hother
  | @submitted resolving rest version creation _ _ hresolving hcreation hrest =>
    rcases mem_calls_submitted hc with hfirst | rfl | hlater
    · have hother := hresolving.effect_of_mem hfirst
      rw [heffect] at hother
      exact Effect.noConfusion hother
    · rw [heffect] at hcreation
      exact Effect.noConfusion hcreation
    · obtain ⟨app, found, hcreated, hid, hread⟩ := hrest.id_of_mem hlater
      rw [heffect] at hread
      rcases hread with hlook | ⟨other, hversion⟩
      · obtain rfl := Effect.getApp.inj hlook
        exact ⟨creation, by simp [Episode.calls], _, app, hcreation, hcreated, hid⟩
      · exact Effect.noConfusion hversion

theorem Creates.length_writes_le (h : Creates s settings spec course result) :
    (writes (course.flatMap Episode.calls)).length ≤ 1 := by
  obtain ⟨created, looks, id, version, hbegins, hlooks, -⟩ := h.effects
  have hwrites (calls : List Call) :
      writes calls = (calls.map Call.effect).filter fun effect => !effect.isRead := by
    rw [writes, List.filter_map]
    rfl
  have hresolving : (versionEffects spec).filter (fun effect => !effect.isRead) = [] := by
    refine List.filter_eq_nil_iff.mpr fun effect heffect => ?_
    rw [mem_versionEffects heffect]
    exact Bool.false_ne_true
  have hreading : looks.filter (fun effect => !effect.isRead) = [] := by
    refine List.filter_eq_nil_iff.mpr fun effect heffect => ?_
    rw [hlooks effect heffect]
    exact Bool.false_ne_true
  have hfiltered := (hbegins.filter fun effect => !effect.isRead).length_le
  rw [← hwrites, List.filter_append, hresolving, List.filter_cons, List.filter_append, hreading]
    at hfiltered
  exact hfiltered

theorem Resolves.ne_vanished {e : LifecycleError} (h : Resolves spec course (some (.error e))) :
    e ≠ .vanished id := by
  cases h with
  | unresolved _ _ he => exact he id

theorem Submitted.vanished_iff {created : App} (hcreation : creation.effect = .createApp created)
    (h : Submitted s settings spec creation course result) :
    result = some (.error (.vanished id)) ↔
      ∃ look, (.call creation :: course).getLast? = some (.call look) ∧ look.Misses id := by
  have hnot : ¬ creation.Misses id := fun hmisses =>
    Effect.noConfusion (hcreation.symm.trans hmisses.effect_eq)
  have hlast {look : Call} (hlook : [Episode.call (σ := σ) creation].getLast? = some (.call look)) :
      creation = look := by simpa using hlook
  cases h with
  | refused _ he =>
    constructor
    · intro hresult
      exact absurd (by simpa using hresult) (he id)
    · rintro ⟨look, hlook, hmisses⟩
      exact absurd (hlast hlook ▸ hmisses) hnot
  | nameless _ _ =>
    constructor
    · intro hresult
      exact absurd hresult (by simp)
    · rintro ⟨look, hlook, hmisses⟩
      exact absurd (hlast hlook ▸ hmisses) hnot
  | concluded _ _ hrest =>
    have hcons := List.getLast?_append_of_ne_nil [.call creation] hrest.ne_nil
    rw [List.singleton_append] at hcons
    rw [hcons]
    exact hrest.vanished_iff

theorem Creates.vanished_iff (h : Creates s settings spec course result) :
    result = some (.error (.vanished id)) ↔
      ∃ look, course.getLast? = some (.call look) ∧ look.Misses id := by
  cases h with
  | rejected _ => simp
  | unresolved _ hresolving =>
    constructor
    · intro hresult
      exact absurd (by simpa using hresult) hresolving.ne_vanished
    · rintro ⟨look, hlast, hmisses⟩
      have hmem : look ∈ course.flatMap Episode.calls :=
        List.mem_flatMap.mpr ⟨_, List.mem_of_getLast? hlast, List.mem_singleton_self _⟩
      exact Effect.noConfusion ((hresolving.effect_of_mem hmem).symm.trans hmisses.effect_eq)
  | submitted _ _ hcreation hrest =>
    rw [List.getLast?_append_of_ne_nil _ (List.cons_ne_nil _ _)]
    exact hrest.vanished_iff hcreation

theorem Creates.settled_of_vanished (h : Creates s settings spec course result)
    (hvanished : result = some (.error (.vanished id))) (hwait : spec.wait = true) : ∃ w reached,
      (s.turn (activation settings id settings.timeouts.create) w).episode ∈ course ∧
        (s.turn (activation settings id settings.timeouts.create) w).run.result =
          some (.ok reached) := by
  cases h with
  | rejected _ => exact absurd hvanished (by simp)
  | unresolved _ hresolving => exact absurd (by simpa using hvanished) hresolving.ne_vanished
  | submitted _ _ _ hrest =>
    cases hrest with
    | refused _ he => exact absurd (by simpa using hvanished) (he id)
    | nameless _ _ => exact absurd hvanished (by simp)
    | concluded _ _ hrest =>
      obtain ⟨rfl, w, reached, hmem, hresult⟩ := hrest.settled_of_vanished hvanished hwait
      exact ⟨w, reached, by simp [hmem], hresult⟩

end Effects

theorem create_writes_once (s : Setting σ) (settings : Settings) (spec : Spec) (w : World σ) :
    let run := (create settings spec).run s w
    let course := (create settings spec).course s w
    run.calls = course.flatMap Episode.calls ∧
      (∀ e, TargetSet.validate ⟨spec.targets, spec.answers⟩ = .error e →
        run.calls = [] ∧ run.result = some (.error (.invalidSpec e))) ∧
      (∃ created looks id version, run.calls.map Call.effect <+:
          versionEffects spec ++ .createApp created ::
            (looks ++ [.getApp id, .getTemplateVersion version]) ∧
        (∀ look ∈ looks, look = .getApp id) ∧ (spec.wait = false → looks = [])) ∧
      (writes run.calls).length ≤ 1 ∧
      (∀ creation ∈ run.calls, ∀ created, creation.effect = .createApp created →
        (∃ version, Chosen spec run.calls version ∧
          created = spec.newApp (Naming.templateVersionId spec.catalog spec.template version)) ∧
          created.id = none ∧ created.state = none ∧ created.status = none) ∧
      (∀ look ∈ run.calls, ∀ id, look.effect = .getApp id →
        ∃ creation ∈ run.calls, ∃ created app, creation.effect = .createApp created ∧
          creation.answer = some (.ok (.app app)) ∧ app.id = some id) ∧
      (∀ creation ∈ run.calls, ∀ created app, creation.effect = .createApp created →
        creation.answer = some (.ok (.app app)) → app.id = none →
          run.calls.getLast? = some creation ∧ run.result = some (.error (.api
            (.unexpectedResponse "create multi-cluster app" "created object has no id")))) ∧
      ∀ id, run.result = some (.error (.vanished id)) ↔
        ∃ look, course.getLast? = some (.call look) ∧ look.Misses id ∧
          (spec.wait = true → ∃ turn : Turn σ, turn.episode ∈ course ∧
            turn.request = activation settings id settings.timeouts.create ∧
            ∃ reached, turn.run.result = some (.ok reached)) := by
  intro run course
  have hcalls : run.calls = course.flatMap Episode.calls := calls_run s _ w
  have h : Creates s settings spec course run.result := yields_create w
  refine ⟨hcalls, ?_⟩
  rw [hcalls]
  refine ⟨?_, h.effects, h.length_writes_le, ?_, ?_, ?_, ?_⟩
  · intro e hinvalid
    obtain ⟨hnone, hresult⟩ := h.eq_of_invalid hinvalid
    exact ⟨by rw [hnone, List.flatMap_nil], hresult⟩
  · intro creation hcreation created heffect
    obtain ⟨version, hchosen, rfl⟩ := h.payload_of_mem hcreation heffect
    exact ⟨⟨version, hchosen, rfl⟩, rfl, rfl, rfl⟩
  · intro look hlook id heffect
    exact h.created_of_look hlook heffect
  · intro creation hcreation created app heffect hanswer hid
    exact h.eq_of_nameless hcreation heffect hanswer hid
  · intro id
    constructor
    · intro hvanished
      obtain ⟨look, hlast, hmisses⟩ := h.vanished_iff.mp hvanished
      refine ⟨look, hlast, hmisses, fun hwait => ?_⟩
      obtain ⟨w, reached, hmem, hresult⟩ := h.settled_of_vanished hvanished hwait
      exact ⟨_, hmem, rfl, reached, hresult⟩
    · rintro ⟨look, hlast, hmisses, -⟩
      exact h.vanished_iff.mpr ⟨look, hlast, hmisses⟩

namespace Sample

def wanted : Spec := .basic "wordpress" "library" "wordpress" [.declared ⟨"c-1:p-1"⟩]

def lagging : Store :=
  (Store.empty.publish "library" "wordpress" ["7.3.8", "7.4.0"]).queueFailure "get multi-cluster app"
    (.notFound "no such app")

end Sample

open Sample in
theorem create_writes_once_when_missed :
    let s : Setting Store := ⟨Store.api, none, 2⟩
    let plan := create .standard { wanted with wait := false }
    let run := plan.run s ⟨lagging, 0⟩
    run.result = some (.error (.vanished ⟨"mcapp-1"⟩)) ∧ (writes run.calls).length ≤ 1 ∧
      ∃ look, (plan.course s ⟨lagging, 0⟩).getLast? = some (.call look) ∧ look.Misses ⟨"mcapp-1"⟩ := by
  intro s plan run
  have hvanished : run.result = some (.error (.vanished ⟨"mcapp-1"⟩)) := by decide +kernel
  obtain ⟨-, -, -, hwrites, -, -, -, hgone⟩ :=
    create_writes_once s .standard { wanted with wait := false } ⟨lagging, 0⟩
  obtain ⟨look, hlast, hmisses, -⟩ := (hgone ⟨"mcapp-1"⟩).mp hvanished
  exact ⟨hvanished, hwrites, look, hlast, hmisses⟩

end Lifecycle

end MultiCluster
