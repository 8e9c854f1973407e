import MultiCluster.Proofs.Lifecycle.Creation
import MultiCluster.Proofs.Plan.Calls
import MultiCluster.Proofs.Update.Stored

namespace MultiCluster

def Effect.IsLookup (effect : Effect) : Prop := ∃ id, effect = .getTemplate id

def Call.Unresolved (c : Call) : Prop :=
  c.effect.IsLookup ∧
    ∀ found version, c.answer = some (.ok (.template found)) → found.latest ≠ .ok version

theorem Call.unresolved_of_error {c : Call} {id : TemplateId} {e : ApiError}
    (heffect : c.effect = .getTemplate id) (hanswer : c.answer = some (.error e)) : c.Unresolved := by
  refine ⟨⟨id, heffect⟩, fun found version hfound => ?_⟩
  rw [hanswer] at hfound
  exact absurd hfound (by simp)

namespace Plan

variable {σ α β γ : Type} {s : Setting σ} {view : Effect → γ} {fields : γ} {word first second : List γ}
  {p : Plan α} {f : α → Plan β}

structure HaltedAt (view : Effect → γ) (fields : γ) (word : List γ) (run : PlanRun σ α) (look : Call) :
    Prop where
  last : run.calls.getLast? = some look
  failed : ∃ e, run.result = some (.error e)
  written : (writes run.calls).map view ++ [fields] = word

def Halts (s : Setting σ) (view : Effect → γ) (fields : γ) (p : Plan α) (word : List γ) : Prop :=
  ∀ w, ∀ look ∈ (p.run s w).calls, look.Unresolved → HaltedAt view fields word (p.run s w) look

theorem halts_of_within (hp : p.Within fun effect => ¬ effect.IsLookup) : p.Halts s view fields word := by
  intro w look hlook hunresolved
  exact absurd hunresolved.1 (hp.mem_calls s w look hlook)

theorem Halts.bind_of_within (hp : p.Halts s view fields word)
    (hf : ∀ a, (f a).Within fun effect => ¬ effect.IsLookup) : (p.bind f).Halts s view fields word := by
  intro w look hlook hunresolved
  rw [run_bind, andThen] at hlook ⊢
  cases hresult : (p.run s w).result with
  | none =>
    rw [hresult] at hlook
    obtain ⟨e, he⟩ := (hp w look hlook hunresolved).failed
    exact absurd (hresult.symm.trans he) (by simp)
  | some result =>
    cases result with
    | error e =>
      rw [hresult] at hlook
      obtain ⟨hlast, -, hwritten⟩ := hp w look hlook hunresolved
      exact ⟨hlast, ⟨e, rfl⟩, hwritten⟩
    | ok a =>
      rw [hresult] at hlook
      rcases List.mem_append.mp hlook with hbefore | hafter
      · obtain ⟨e, he⟩ := (hp w look hbefore hunresolved).failed
        exact absurd (hresult.symm.trans he) (by simp)
      · exact absurd hunresolved.1 ((hf a).mem_calls s _ look hafter)

theorem Halts.after (hp : p.Within fun effect => ¬ effect.IsLookup) (hfirst : p.Performs view first)
    (hf : ∀ a, (f a).Halts s view fields second) : (p.bind f).Halts s view fields (first ++ second) := by
  intro w look hlook hunresolved
  rw [run_bind, andThen] at hlook ⊢
  have hnot : look ∉ (p.run s w).calls := fun hmem => hp.mem_calls s w look hmem hunresolved.1
  cases hresult : (p.run s w).result with
  | none =>
    rw [hresult] at hlook
    exact absurd hlook hnot
  | some result =>
    cases result with
    | error e =>
      rw [hresult] at hlook
      exact absurd hlook hnot
    | ok a =>
      rw [hresult] at hlook
      have hlater := (List.mem_append.mp hlook).resolve_left hnot
      obtain ⟨hlast, hfailed, hwritten⟩ := hf a _ look hlater hunresolved
      refine ⟨?_, hfailed, ?_⟩
      · rw [List.getLast?_append_of_ne_nil _ (List.ne_nil_of_mem hlater)]
        exact hlast
      · rw [writes_append, List.map_append, (hfirst.writes_run s w).2 a hresult, List.append_assoc,
          hwritten]

theorem Halts.when {condition : Bool} {p : Plan Unit} (hp : p.Halts s view fields word) :
    (Plan.when condition p).Halts s view fields (if condition then word else []) := by
  cases condition with
  | true => exact hp
  | false => exact fun w look hlook => absurd hlook List.not_mem_nil

end Plan

namespace Lifecycle

open Plan

variable {σ γ : Type} {s : Setting σ} {settings : Settings} {view : Effect → γ} {fields : γ}
  {prior : AppRecord} {desired : Spec}

theorem not_isLookup {effect : Effect} (h : ∀ id, effect ≠ .getTemplate id) : ¬ effect.IsLookup := by
  rintro ⟨id, rfl⟩
  exact h id rfl

theorem halts_versionOrLatest (version : Option String) (catalog template : String) :
    (versionOrLatest version catalog template).Halts s view fields [fields] := by
  cases version with
  | some version => exact fun w look hlook => absurd hlook List.not_mem_nil
  | none =>
    intro w look hlook hunresolved
    rw [versionOrLatest, resolveLatest_eq] at hlook ⊢
    simp only [run] at hlook ⊢
    generalize s.api.respond (.getTemplate (Naming.templateId catalog template)) w.remote = reply
      at hlook ⊢
    cases hanswer : reply.answer with
    | error e =>
      rw [hanswer] at hlook
      obtain rfl := List.mem_singleton.mp hlook
      exact ⟨rfl, ⟨_, rfl⟩, rfl⟩
    | ok response =>
      rw [hanswer] at hlook
      cases response with
      | template found =>
        have hchecked : checked ((Response.template found).toTemplate "get template") =
            done (.ok found) := rfl
        simp only [hchecked, done_ok_bind] at hlook ⊢
        cases hlatest : found.latest with
        | error fault =>
          rw [hlatest] at hlook
          obtain rfl := List.mem_singleton.mp hlook
          exact ⟨rfl, ⟨_, rfl⟩, rfl⟩
        | ok version =>
          rw [hlatest] at hlook
          obtain rfl := List.mem_singleton.mp hlook
          exact absurd hlatest (hunresolved.2 found version rfl)
      | _ =>
        obtain rfl := List.mem_singleton.mp hlook
        exact ⟨rfl, ⟨_, rfl⟩, rfl⟩

theorem halts_updateFields : (updateFields prior desired).Halts s view fields [fields] := by
  refine (halts_versionOrLatest _ _ _).bind_of_within fun version => ?_
  exact within_perform (not_isLookup (by simp)) fun response => (within_done _).bind fun _ => within_done _

theorem halts_applyMode (remote : App) (mode : UpdateMode) :
    (applyMode prior desired remote mode).Halts s view fields
      (modeWord view fields prior.id desired remote mode) := by
  cases mode with
  | rollback revision => exact halts_of_within (within_act (not_isLookup (by simp)))
  | mutateTargets answersChanged =>
    rw [applyMode, mutateTargets_eq]
    refine Halts.after (within_when (within_act (not_isLookup (by simp)))) (performs_act rfl).when fun _ => ?_
    refine Halts.after (within_when (within_act (not_isLookup (by simp)))) (performs_act rfl).when fun _ => ?_
    exact halts_updateFields.when
  | updateFields => exact halts_updateFields

theorem halts_afterSnapshot (remote : App) :
    (afterSnapshot settings prior desired remote).Halts s view fields
      (modeWord view fields prior.id desired remote (.ofChanges (.between prior.spec desired))) := by
  refine (halts_applyMode remote _).bind_of_within fun _ => ?_
  exact within_conclude (not_isLookup (by simp)) fun version => not_isLookup (by simp)

theorem halts_create (spec : Spec) : (create settings spec).Halts s view fields [fields] := by
  rw [create_eq]
  rw [← List.nil_append [fields]]
  refine Halts.after (within_done _) (performs_ofExcept _) fun _ => ?_
  refine (halts_versionOrLatest _ _ _).bind_of_within fun version => ?_
  refine within_perform (not_isLookup (by simp)) fun response => (within_done _).bind fun created => ?_
  cases created.id with
  | none => exact within_done _
  | some id => exact within_conclude (not_isLookup (by simp)) fun version => not_isLookup (by simp)

section Asked

variable {allowed : Effect → Prop} (hlook : allowed (.getApp prior.id))
  (hversion : ∀ version, allowed (.getTemplateVersion version))
  (hwrite : ∀ effect : Effect, effect.isRead = false → allowed effect)
  (hlookup : desired.version = none → prior.spec.version = none →
    allowed (.getTemplate (Naming.templateId desired.catalog desired.template)))

include hwrite hlookup

theorem within_updateFields : (updateFields prior desired).Within allowed := by
  have hunknown (hnone : desired.version.or prior.spec.version = none) :
      allowed (.getTemplate (Naming.templateId desired.catalog desired.template)) := by
    obtain ⟨hdesired, hprior⟩ := Option.or_eq_none_iff.mp hnone
    exact hlookup hdesired hprior
  refine (within_versionOrLatest hunknown).bind fun version => ?_
  exact within_perform (hwrite _ rfl) fun response => (within_done _).bind fun _ => within_done _

theorem within_applyMode (remote : App) (mode : UpdateMode) :
    (applyMode prior desired remote mode).Within allowed := by
  have hfields := within_updateFields hwrite hlookup
  cases mode with
  | rollback revision => exact within_act (hwrite _ rfl)
  | mutateTargets answersChanged =>
    rw [applyMode, mutateTargets_eq]
    refine (within_when (within_act (hwrite _ rfl))).bind fun _ => ?_
    refine (within_when (within_act (hwrite _ rfl))).bind fun _ => ?_
    exact within_when hfields
  | updateFields => exact hfields

include hlook hversion

theorem within_update : (update settings prior desired).Within allowed := by
  rw [update_eq]
  refine Within.bind (within_done _) fun _ => ?_
  refine (within_getApp hlook).bind fun remote => ?_
  refine (within_applyMode hwrite hlookup remote _).bind fun _ => ?_
  exact within_conclude hlook hversion

end Asked

theorem within_update_of_unknown (settings : Settings) (prior : AppRecord) (desired : Spec) :
    (update settings prior desired).Within fun effect => ∀ id, effect = .getTemplate id →
      desired.version = none ∧ prior.spec.version = none ∧
        id = Naming.templateId desired.catalog desired.template := by
  refine within_update ?_ ?_ ?_ ?_
  · simp
  · simp
  · rintro _ hwrite id rfl
    exact absurd hwrite (by simp [Effect.isRead])
  · intro hdesired hprior id hid
    exact ⟨hdesired, hprior, (Effect.getTemplate.inj hid).symm⟩

def SeeksLate (changes : SpecChanges) (found desired : List Target) : Prop :=
  changes.revision = none ∧ changes.targetsChanged = true ∧ changes.answersChanged = true ∧
    Target.missing found desired ≠ []

variable {changes : SpecChanges} {found targets : List Target}

theorem updateWord_of_seeksLate (h : SeeksLate changes found targets) :
    ∃ rest, updateWord changes found targets = .removal (Target.missing found targets) :: rest := by
  obtain ⟨hrevision, htargets, -, hremove⟩ := h
  simp [updateWord, hrevision, htargets, hremove]

theorem updateWord_of_not_seeksLate (h : ¬ SeeksLate changes found targets)
    (hfields : .fields ∈ updateWord changes found targets) :
    updateWord changes found targets = [.fields] := by
  cases hrevision : changes.revision with
  | some revision => simp [updateWord, hrevision] at hfields
  | none =>
    by_cases htargets : changes.targetsChanged = true
    · by_cases hremove : Target.missing found targets = []
      · have hadd : Target.missing targets found = [] := by
          by_contra hadd
          simp [updateWord, hrevision, htargets, hremove, hadd] at hfields
        simp [updateWord, hrevision, htargets, hremove, hadd]
      · have hanswers : ¬ changes.answersChanged = true :=
          fun hanswers => h ⟨hrevision, htargets, hanswers, hremove⟩
        simp [updateWord, hrevision, htargets, hremove, hanswers] at hfields
    · simp [updateWord, hrevision, htargets]

theorem nothing_before_fields_iff {before : List Change}
    (hword : updateWord changes found targets = before ++ [.fields]) :
    before = [] ↔ ¬ SeeksLate changes found targets := by
  constructor
  · rintro rfl hlate
    obtain ⟨rest, hrest⟩ := updateWord_of_seeksLate hlate
    exact absurd (hword.symm.trans hrest) (by simp)
  · intro hnot
    have hfields : .fields ∈ updateWord changes found targets := by
      rw [hword]
      exact List.mem_append_right _ List.mem_cons_self
    have hall := hword.symm.trans (updateWord_of_not_seeksLate hnot hfields)
    exact List.append_left_eq_self.mp hall

theorem failed_resolution_ends_update (s : Setting σ) (settings : Settings) (w : World σ) :
    (∀ spec, let run := (create settings spec).run s w
      ∀ look ∈ run.calls, look.Unresolved → writes run.calls = []) ∧
    ∀ prior desired, let run := (update settings prior desired).run s w
      let changes := SpecChanges.between prior.spec desired
      let found := (firstApp? run.calls).elim [] App.targets
      ∀ look ∈ run.calls, look.Unresolved →
        look.effect = .getTemplate (Naming.templateId desired.catalog desired.template) ∧
        desired.version = none ∧ prior.spec.version = none ∧
        run.calls.getLast? = some look ∧ (∃ e, run.result = some (.error e)) ∧
        (writes run.calls).map Effect.change? ++ [some (prior.id, .fields)] =
          (updateWord changes found desired.targets).map (fun change => some (prior.id, change)) ∧
        (writes run.calls = [] ↔ ¬ SeeksLate changes found desired.targets) := by
  refine ⟨?_, ?_⟩
  · intro spec run look hlook hunresolved
    have hhalts : (create settings spec).Halts s Effect.change? none [none] := halts_create spec
    have hwritten := (hhalts w look hlook hunresolved).written
    have hnone : (writes run.calls).map Effect.change? = [] := List.append_left_eq_self.mp hwritten
    exact List.map_eq_nil_iff.mp hnone
  · intro prior desired run changes found look hlook hunresolved
    obtain ⟨id, hid⟩ := hunresolved.1
    obtain ⟨hdesired, hprior, rfl⟩ := (within_update_of_unknown settings prior desired).mem_calls s w look
      hlook id hid
    rcases run_update s settings prior desired w with ⟨e, hrun⟩ | ⟨remote, hreply, hrun⟩ | ⟨e, -, hrun⟩
    · simp only [run, hrun] at hlook
      exact absurd hlook List.not_mem_nil
    · have hfirst : firstApp? run.calls = some remote := by
        simp only [run, hrun, hreply]
        rfl
      have hhalts : (afterSnapshot settings prior desired remote).Halts s Effect.change?
          (some (prior.id, .fields)) _ := halts_afterSnapshot remote
      simp only [found, hfirst, Option.elim_some]
      simp only [run, hrun] at hlook ⊢
      have hlater := (List.mem_cons.mp hlook).resolve_left fun heq => by simp [heq] at hid
      obtain ⟨hlast, hfailed, hwritten⟩ := hhalts _ look hlater hunresolved
      rw [modeWord_change?] at hwritten
      rw [writes_cons_of_isRead _ rfl]
      refine ⟨hid, hdesired, hprior, ?_, hfailed, hwritten, ?_⟩
      · rw [List.getLast?_cons, hlast]
        rfl
      · obtain ⟨before, last, hword, hbefore, hone⟩ := List.map_eq_append_iff.mp hwritten.symm
        obtain ⟨change, rfl, hchange⟩ := List.map_eq_singleton_iff.mp hone
        obtain rfl : change = .fields := by simpa using hchange
        rw [← nothing_before_fields_iff hword, ← List.map_eq_nil_iff, ← hbefore, List.map_eq_nil_iff]
    · simp only [run, hrun, List.mem_singleton] at hlook
      simp [hlook] at hid

namespace Sample

def orphanStore : Store := Store.empty.putApp known.id wordpress

def unversioned : AppRecord := { known with spec := { known.spec with version := none } }

def answered : Spec := { unversioned.spec with answers := [answer] }

def replaced : Spec := { answered with targets := [.declared ⟨"c-1:p-2"⟩] }

def wordpressId : TemplateId := Naming.templateId "library" "wordpress"

end Sample

open Sample in
theorem failed_resolution_ends_update_of_answers :
    let run := (update .standard unversioned answered).run (Store.setting none 1) ⟨orphanStore, 0⟩
    (∃ look ∈ run.calls, look.effect = .getTemplate wordpressId ∧
      look.answer = some (.error (Store.notFound "templates" wordpressId.text))) ∧
      writes run.calls = [] ∧ run.result = some (.error (.resolution (.templateNotFound wordpressId))) := by
  intro run
  have hlook : ∃ look ∈ run.calls, look.effect = .getTemplate wordpressId ∧
      look.answer = some (.error (Store.notFound "templates" wordpressId.text)) := by decide +kernel
  obtain ⟨look, hmem, heffect, hanswer⟩ := hlook
  obtain ⟨-, -, -, -, -, -, hwrites⟩ := (failed_resolution_ends_update (Store.setting none 1) .standard
    ⟨orphanStore, 0⟩).2 unversioned answered look hmem (Call.unresolved_of_error heffect hanswer)
  have hsame : ¬ (SpecChanges.between unversioned.spec answered).targetsChanged = true := by decide +kernel
  exact ⟨⟨look, hmem, heffect, hanswer⟩, hwrites.mpr fun hlate => hsame hlate.2.1, by decide +kernel⟩

open Sample in
theorem targets_replaced_without_resolution :
    let run := (update .standard unversioned replaced).run (Store.setting none 1) ⟨orphanStore, 0⟩
    (∃ look ∈ run.calls, look.Unresolved) ∧ writes run.calls =
      [.removeProjects known.id ⟨[⟨"c-1:p-1"⟩], []⟩, .addProjects known.id ⟨[⟨"c-1:p-2"⟩], []⟩] := by
  intro run
  have hlook : ∃ look ∈ run.calls, look.effect = .getTemplate wordpressId ∧
      look.answer = some (.error (Store.notFound "templates" wordpressId.text)) := by decide +kernel
  obtain ⟨look, hmem, heffect, hanswer⟩ := hlook
  exact ⟨⟨look, hmem, Call.unresolved_of_error heffect hanswer⟩, by decide +kernel⟩

end Lifecycle

end MultiCluster
