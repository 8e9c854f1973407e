import MultiCluster.Proofs.Update.Resolution

namespace MultiCluster

def Follows (rule : List Call → Effect → Prop) (calls : List Call) : Prop :=
  ∀ before call after, calls = before ++ call :: after → rule before call.effect

section Follows

variable {rule : List Call → Effect → Prop} {first second : List Call}

theorem follows_of_forall (h : ∀ call ∈ first, ∀ before, rule before call.effect) :
    Follows rule first := by
  rintro before call after rfl
  exact h call (List.mem_append_right _ List.mem_cons_self) before

theorem follows_singleton {call : Call} : Follows rule [call] ↔ rule [] call.effect := by
  constructor
  · exact fun h => h [] call [] rfl
  · intro h before other after hcalls
    obtain ⟨rfl, hcall⟩ := List.append_eq_singleton_iff.mp hcalls.symm |>.resolve_right (by simp)
    obtain ⟨rfl, -⟩ := List.cons.inj hcall
    exact h

theorem Follows.append (hfirst : Follows rule first)
    (hsecond : Follows (fun before => rule (first ++ before)) second) : Follows rule (first ++ second) := by
  intro before call after hcalls
  rcases List.append_eq_append_iff.mp hcalls with ⟨between, rfl, hrest⟩ | ⟨between, rfl, hrest⟩
  · exact hsecond between call after hrest
  · cases between with
    | nil => simpa using hsecond [] call after hrest.symm
    | cons other rest =>
      obtain ⟨rfl, -⟩ := List.cons.inj hrest
      exact hfirst before call rest rfl

end Follows

namespace Plan

variable {σ α β : Type} {s : Setting σ} {rule : List Call → Effect → Prop} {p : Plan α} {f : α → Plan β}

def Obeys (s : Setting σ) (rule : List Call → Effect → Prop) (p : Plan α) : Prop :=
  ∀ w, Follows rule (p.run s w).calls

theorem obeys_of_within {allowed : Effect → Prop} (hp : p.Within allowed)
    (h : ∀ before effect, allowed effect → rule before effect) : p.Obeys s rule := fun w =>
  follows_of_forall fun call hcall before => h before call.effect (hp.mem_calls s w call hcall)

theorem Obeys.bind (hmore : ∀ earlier before effect, rule before effect → rule (earlier ++ before) effect)
    (hp : p.Obeys s rule) (hf : ∀ a, (f a).Obeys s rule) : (p.bind f).Obeys s rule := by
  intro w
  rw [run_bind, andThen]
  cases (p.run s w).result with
  | none => exact hp w
  | some result =>
    cases result with
    | error e => exact hp w
    | ok a =>
      refine (hp w).append fun before call after hcalls => ?_
      exact hmore _ before call.effect (hf a _ before call after hcalls)

theorem Obeys.when {condition : Bool} {p : Plan Unit} (hp : p.Obeys s rule) :
    (Plan.when condition p).Obeys s rule := by
  cases condition with
  | true => exact hp
  | false => exact fun w => follows_of_forall fun call hcall => absurd hcall List.not_mem_nil

end Plan

namespace Lifecycle

open Plan

variable {σ : Type} {s : Setting σ} {settings : Settings} {prior : AppRecord} {desired : Spec}
  {version : String}

def completed (prior : AppRecord) (desired : Spec) : Spec :=
  { desired with version := desired.version.or prior.spec.version }

def submission (prior : AppRecord) (desired : Spec) (version : String) : Effect :=
  .updateApp prior.id
    (desired.update (Naming.templateVersionId desired.catalog desired.template version))

def Reasoned (prior : AppRecord) (desired : Spec) (before : List Call) (effect : Effect) : Prop :=
  ∀ id fields, effect = .updateApp id fields →
    ∃ version, effect = submission prior desired version ∧ Chosen (completed prior desired) before version

theorem reasoned_of_other {before : List Call} {effect : Effect}
    (h : ∀ id fields, effect ≠ .updateApp id fields) : Reasoned prior desired before effect :=
  fun id fields heffect => absurd heffect (h id fields)

theorem Chosen.mono {spec : Spec} {calls more : List Call} (h : Chosen spec calls version)
    (hmore : ∀ c ∈ calls, c ∈ more) : Chosen spec more version := by
  rcases h with hversion | ⟨hversion, look, hlook, hfound⟩
  · exact .inl hversion
  · exact .inr ⟨hversion, look, hmore look hlook, hfound⟩

theorem Reasoned.mono (earlier before : List Call) (effect : Effect)
    (h : Reasoned prior desired before effect) : Reasoned prior desired (earlier ++ before) effect := by
  intro id fields heffect
  obtain ⟨version, hsubmission, hchosen⟩ := h id fields heffect
  exact ⟨version, hsubmission, hchosen.mono fun c hc => List.mem_append_right earlier hc⟩

theorem obeys_of_within_other {α : Type} {p : Plan α}
    (hp : p.Within fun effect => ∀ id fields, effect ≠ .updateApp id fields) :
    p.Obeys s (Reasoned prior desired) :=
  obeys_of_within hp fun _ _ => reasoned_of_other

def submitFields (prior : AppRecord) (desired : Spec) (version : String) : Plan Unit :=
  (perform (submission prior desired version)).bind fun response =>
    (checked (response.toApp "update multi-cluster app")).bind fun _ => done (.ok ())

def resolve (spec : Spec) : Plan String := versionOrLatest spec.version spec.catalog spec.template

theorem updateFields_eq (prior : AppRecord) (desired : Spec) : updateFields prior desired =
    (resolve (completed prior desired)).bind (submitFields prior desired) :=
  rfl

theorem calls_submitFields (s : Setting σ) (prior : AppRecord) (desired : Spec) (version : String)
    (w : World σ) : ∃ call : Call, call.effect = submission prior desired version ∧
      ((submitFields prior desired version).run s w).calls = [call] := by
  rw [submitFields, perform_bind, run]
  generalize s.api.respond (submission prior desired version) w.remote = reply
  refine ⟨⟨w.now, submission prior desired version, some reply.answer⟩, rfl, ?_⟩
  cases reply.answer with
  | error e => rfl
  | ok response => cases response <;> rfl

theorem obeys_updateFields : (updateFields prior desired).Obeys s (Reasoned prior desired) := by
  have hlooks : (resolve (completed prior desired)).Obeys s (Reasoned prior desired) :=
    obeys_of_within_other (within_versionOrLatest (by simp))
  have hresolves : (resolve (completed prior desired)).Yields s (Resolves (completed prior desired)) :=
    yields_versionOrLatest
  intro w
  rw [updateFields_eq, run_bind, andThen]
  cases hresult : ((resolve (completed prior desired)).run s w).result with
  | none => exact hlooks w
  | some result =>
    cases result with
    | error e => exact hlooks w
    | ok version =>
      have hresolved := hresolves w
      rw [hresult] at hresolved
      obtain ⟨call, heffect, hcalls⟩ := calls_submitFields s prior desired version
        ((resolve (completed prior desired)).run s w).world
      simp only [hcalls]
      refine (hlooks w).append (follows_singleton.mpr fun id fields _ => ⟨version, heffect, ?_⟩)
      refine hresolved.chosen fun c hc => ?_
      rwa [List.append_nil, calls_run]

theorem obeys_applyMode (remote : App) (mode : UpdateMode) :
    (applyMode prior desired remote mode).Obeys s (Reasoned prior desired) := by
  cases mode with
  | rollback revision => exact obeys_of_within_other (within_act (by simp))
  | mutateTargets answersChanged =>
    rw [applyMode, mutateTargets_eq]
    refine Obeys.bind Reasoned.mono (obeys_of_within_other (within_act (by simp))).when fun _ => ?_
    refine Obeys.bind Reasoned.mono (obeys_of_within_other (within_act (by simp))).when fun _ => ?_
    exact obeys_updateFields.when
  | updateFields => exact obeys_updateFields

theorem obeys_update : (update settings prior desired).Obeys s (Reasoned prior desired) := by
  rw [update_eq]
  refine Obeys.bind Reasoned.mono (obeys_of_within_other (within_done _)) fun _ => ?_
  refine Obeys.bind Reasoned.mono (obeys_of_within_other (within_getApp (by simp))) fun remote => ?_
  refine Obeys.bind Reasoned.mono (obeys_applyMode remote _) fun _ => ?_
  exact obeys_of_within_other (within_conclude (by simp) (by simp))

def SubmitsPublished (desired : Spec) (calls : List Call) (fields : AppUpdate) : Prop :=
  ∃ version, fields.templateVersion =
      Naming.templateVersionId desired.catalog desired.template version ∧
    ∃ look ∈ calls, ∃ template : Template,
      look.effect = .getTemplate (Naming.templateId desired.catalog desired.template) ∧
        look.answer = some (.ok (.template template)) ∧ version ∈ template.versionLinks.keys

theorem update_submits_version (s : Setting σ) (settings : Settings) (prior : AppRecord) (desired : Spec)
    (w : World σ) :
    let run := (update settings prior desired).run s w
    ∀ before call after id fields, run.calls = before ++ call :: after →
      call.effect = .updateApp id fields →
        (∃ version, call.effect = submission prior desired version ∧
          Chosen (completed prior desired) before version) ∧
        (desired.version = none →
          (SubmitsPublished desired run.calls fields ↔ prior.spec.version = none)) := by
  intro run before call after id fields hcalls heffect
  have hobeys : (update settings prior desired).Obeys s (Reasoned prior desired) := obeys_update
  obtain ⟨version, hsubmission, hchosen⟩ := hobeys w before call after hcalls id fields heffect
  refine ⟨⟨version, hsubmission, hchosen⟩, fun hdesired => ⟨?_, fun hprior => ?_⟩⟩
  · rintro ⟨_, -, look, hlook, template, hlookup, -⟩
    exact ((within_update_of_unknown settings prior desired).mem_calls s w look hlook _ hlookup).2.1
  · have hunknown : (completed prior desired).version = none :=
      Option.or_eq_none_iff.mpr ⟨hdesired, hprior⟩
    obtain ⟨-, hfields⟩ := Effect.updateApp.inj (heffect.symm.trans hsubmission)
    rcases hchosen with hknown | ⟨-, look, hlook, template, hlookup, hanswer, -, hkey, -⟩
    · exact absurd (hunknown.symm.trans hknown) (by simp)
    · refine ⟨version, congrArg AppUpdate.templateVersion hfields, look, ?_, template, hlookup, hanswer, hkey⟩
      rw [hcalls]
      exact List.mem_append_left _ hlook

namespace Sample

def catalogStore : Store := store.publish "library" "mysql" ["1.6.9"]

def switched : Spec := { known.spec with template := "mysql", version := none }

end Sample

open Sample in
theorem update_submits_version_of_unversioned :
    let run := (update .standard unversioned switched).run (Store.setting none 1) ⟨catalogStore, 0⟩
    let submitted := switched.update (Naming.templateVersionId "library" "mysql" "1.6.9")
    switched.version = none ∧ unversioned.spec.version = none ∧
      (∃ call ∈ run.calls, call.effect = .updateApp known.id submitted) ∧
      SubmitsPublished switched run.calls submitted := by
  intro run submitted
  have hcall : ∃ call ∈ run.calls, call.effect = .updateApp known.id submitted := by decide +kernel
  obtain ⟨call, hmem, heffect⟩ := hcall
  obtain ⟨before, after, hcalls⟩ := List.append_of_mem hmem
  obtain ⟨-, hpublished⟩ := update_submits_version (Store.setting none 1) .standard unversioned switched
    ⟨catalogStore, 0⟩ before call after _ _ hcalls heffect
  exact ⟨rfl, rfl, ⟨call, hmem, heffect⟩, (hpublished rfl).mpr rfl⟩

-- The store has no such version, so the update leaves an app that cannot be read.
open Sample in
theorem version_carried_to_other_template :
    let run := (update .standard known switched).run (Store.setting none 1) ⟨catalogStore, 0⟩
    let carried := Naming.templateVersionId "library" "mysql" "7.3.8"
    switched.version = none ∧ switched.template ≠ known.spec.template ∧
      writes run.calls = [.updateApp known.id (switched.update carried)] ∧
      ¬ SubmitsPublished switched run.calls (switched.update carried) ∧
      run.result = some (.error (.api (Store.notFound "templateversions" carried.text))) := by
  intro run carried
  have hlooks : ∀ c ∈ run.calls, c.effect ≠ .getTemplate (Naming.templateId "library" "mysql") := by
    decide +kernel
  refine ⟨rfl, by decide +kernel, by decide +kernel, ?_, by decide +kernel⟩
  rintro ⟨-, -, look, hlook, -, hlookup, -⟩
  exact hlooks look hlook hlookup

end Lifecycle

end MultiCluster
