import Mathlib.Data.Fintype.Card
import MultiCluster.Proofs.Update.Answers
import MultiCluster.Proofs.Update.Retry

namespace MultiCluster

namespace Target

variable {found declared : List Target}

def SameProjects (found declared : List Target) : Prop :=
  missing found declared = [] ∧ missing declared found = []

instance (found declared : List Target) : Decidable (SameProjects found declared) :=
  inferInstanceAs (Decidable (_ ∧ _))

theorem map_project_orderLike (found declared : List Target) :
    (orderLike found declared).map project =
      (declared.map project).filter (fun p => p ∈ found.map project) ++ missing found declared := by
  rw [orderLike, List.map_append]
  congr 1
  · induction declared with
    | nil => rfl
    | cons d rest ih =>
      rw [List.filterMap_cons, List.map_cons, List.filter_cons]
      cases hfind : found.find? fun t => t.project = d.project with
      | none =>
        have hout : d.project ∉ found.map project := by
          intro hmem
          obtain ⟨t, ht, heq⟩ := List.mem_map.mp hmem
          have hother := List.find?_eq_none.mp hfind t ht
          exact hother (decide_eq_true heq)
        rw [if_neg (by simpa using hout)]
        exact ih
      | some t =>
        have heq : t.project = d.project := by simpa using List.find?_some hfind
        have hin : d.project ∈ found.map project :=
          List.mem_map.mpr ⟨t, List.mem_of_find?_eq_some hfind, heq⟩
        rw [if_pos (decide_eq_true hin), List.map_cons, heq, ih]
  · rw [missing, List.filter_map]
    congr 1
    refine List.filter_congr fun t _ => ?_
    rw [Function.comp_apply, decide_not, Bool.not_inj_iff, Bool.eq_iff_iff, List.any_eq_true,
      decide_eq_true_iff, List.mem_map]
    simp only [decide_eq_true_eq]

theorem map_project_orderLike_eq_iff :
    (orderLike found declared).map project = declared.map project ↔ SameProjects found declared := by
  rw [map_project_orderLike]
  constructor
  · intro heq
    have hfound : missing found declared = [] := by
      refine List.eq_nil_iff_forall_not_mem.mpr fun p hp => (mem_missing.mp hp).2 ?_
      rw [← heq]
      exact List.mem_append_right _ hp
    rw [hfound, List.append_nil, List.filter_eq_self] at heq
    exact ⟨hfound, missing_eq_nil.mpr fun p hp => of_decide_eq_true (heq p hp)⟩
  · rintro ⟨hfound, hdeclared⟩
    rw [hfound, List.append_nil, List.filter_eq_self]
    exact fun p hp => decide_eq_true (missing_eq_nil.mp hdeclared p hp)

end Target

def App.withoutVersion (app : App) : App := { app with templateVersion := ⟨""⟩ }

def Effect.withoutVersion : Effect → Effect
  | .updateApp id update => .updateApp id { update with templateVersion := ⟨""⟩ }
  | effect => effect

theorem Effect.change?_withoutVersion (effect : Effect) :
    effect.withoutVersion.change? = effect.change? := by
  cases effect <;> rfl

namespace Store

theorem withoutVersion_applied (effect : Effect) (app : App) :
    (applied effect app).withoutVersion = applied effect.withoutVersion app.withoutVersion := by
  cases effect <;> rfl

theorem withoutVersion_replay (effects : List Effect) (app : App) :
    (replay effects app).withoutVersion =
      replay (effects.map Effect.withoutVersion) app.withoutVersion := by
  induction effects generalizing app with
  | nil => rfl
  | cons effect rest ih => rw [replay_cons, ih, withoutVersion_applied, List.map_cons, replay_cons]

end Store

namespace Lifecycle

open Plan

variable {desired : Spec} {app : App} {id : AppId}

inductive Part where
  | revision
  | projects
  | fields
  deriving DecidableEq

instance : Fintype Part :=
  ⟨{.revision, .projects, .fields}, fun part => by cases part <;> decide⟩

def Part.Done (desired : Spec) (app : App) : Part → Prop
  | revision => desired.revision = none ∨ app.revision = desired.revision
  | projects => Target.SameProjects app.targets desired.targets
  | fields => app.answers = desired.answers ∧ app.members = desired.members ∧
      app.roles = desired.roles ∧ app.revisionHistoryLimit = desired.revisionHistoryLimit ∧
      app.upgradeStrategy = desired.upgradeStrategy ∧ app.labels = desired.labels ∧
      app.annotations = desired.annotations

instance (desired : Spec) (app : App) : (part : Part) → Decidable (part.Done desired app)
  | .revision => inferInstanceAs (Decidable (_ ∨ _))
  | .projects => inferInstanceAs (Decidable (Target.SameProjects _ _))
  | .fields => inferInstanceAs (Decidable (_ ∧ _ ∧ _ ∧ _ ∧ _ ∧ _ ∧ _))

theorem Part.done_withoutVersion (part : Part) :
    part.Done desired app.withoutVersion ↔ part.Done desired app := by
  cases part <;> exact Iff.rfl

theorem Part.done_fields_updated (desired : Spec) (app : App) (version : TemplateVersionId) :
    Part.fields.Done desired (Store.updated app (desired.update version)) :=
  ⟨rfl, rfl, rfl, rfl, rfl, rfl, rfl⟩

def remaining (desired : Spec) (app : App) : Finset Part :=
  Finset.univ.filter fun part => ¬ part.Done desired app

theorem mem_remaining {part : Part} : part ∈ remaining desired app ↔ ¬ part.Done desired app := by
  rw [remaining, Finset.mem_filter, and_iff_right (Finset.mem_univ part)]

def modePart : UpdateMode → Part
  | .rollback _ => .revision
  | .mutateTargets _ => .projects
  | .updateFields => .fields

def afterMode (id : AppId) (desired : Spec) (mode : UpdateMode) (app : App) : App :=
  Store.replay (modeWord (fun effect => effect) (.updateApp id (desired.update ⟨""⟩)) id desired app
    mode) app

section Targets

variable {answersChanged : Bool}

theorem answers_input_missingFrom (source other : TargetSet) :
    (TargetDelta.input (TargetDelta.missingFrom source other false)).answers = [] := by
  rw [TargetDelta.input, TargetDelta.missingFrom, List.filterMap_map]
  exact List.filterMap_eq_nil_iff.mpr fun _ _ => rfl

section Projects

variable (app : App) (desired : Spec) (answersChanged : Bool) (id : AppId)

theorem mem_projects_removal (p : ProjectId) :
    p ∈ (Store.replay (if !(deltaOf app desired answersChanged).toRemove.isEmpty then
        [.removeProjects id (deltaOf app desired answersChanged).removalInput] else [])
        app).targets.map Target.project ↔
      p ∈ app.targets.map Target.project ∧ p ∉ Target.missing app.targets desired.targets := by
  split
  · rw [Store.replay_cons, Store.replay_nil, Store.mem_projects_removeProjects,
      removalInput_deltaOf]
  · rename_i hempty
    have hnone : (deltaOf app desired answersChanged).toRemove = [] := by simpa using hempty
    rw [toRemove_eq_nil.mp hnone, and_iff_left List.not_mem_nil, Store.replay_nil]

theorem mem_projects_addition (other : App) (p : ProjectId) :
    p ∈ (Store.replay (if !(deltaOf app desired answersChanged).toAdd.isEmpty then
        [.addProjects id (deltaOf app desired answersChanged).additionInput] else [])
        other).targets.map Target.project ↔
      p ∈ other.targets.map Target.project ∨ p ∈ Target.missing desired.targets app.targets := by
  split
  · rw [Store.replay_cons, Store.replay_nil, Store.mem_projects_addProjects, additionInput_deltaOf]
  · rename_i hempty
    have hnone : (deltaOf app desired answersChanged).toAdd = [] := by simpa using hempty
    rw [toAdd_eq_nil.mp hnone, or_iff_left List.not_mem_nil, Store.replay_nil]

theorem mem_projects_targetWord (update : AppUpdate) (p : ProjectId) :
    p ∈ (Store.replay (targetWord (fun effect => effect) (.updateApp id update) id
        (deltaOf app desired answersChanged) answersChanged) app).targets.map Target.project ↔
      p ∈ desired.targets.map Target.project := by
  have hfields (condition : Bool) (other : App) :
      (Store.replay (if condition then [.updateApp id update] else []) other).targets =
        other.targets := by
    cases condition <;> rfl
  rw [targetWord, Store.replay_append, Store.replay_append, hfields, mem_projects_addition,
    mem_projects_removal, Target.mem_missing, Target.mem_missing]
  by_cases hstored : p ∈ app.targets.map Target.project
  · simp only [hstored, true_and, not_not, not_true_eq_false, and_false, or_false]
  · simp only [hstored, false_and, not_false_eq_true, and_true, false_or]

theorem done_projects_of_mutateTargets :
    Part.projects.Done desired (afterMode id desired (.mutateTargets answersChanged) app) := by
  have hiff := mem_projects_targetWord app desired answersChanged id (desired.update ⟨""⟩)
  exact ⟨Target.missing_eq_nil.mpr fun p => (hiff p).mp,
    Target.missing_eq_nil.mpr fun p => (hiff p).mpr⟩

end Projects

theorem done_revision_of_mutateTargets (h : Part.revision.Done desired app) :
    Part.revision.Done desired (afterMode id desired (.mutateTargets answersChanged) app) := by
  refine Store.replay_preserves (Part.revision.Done desired ·) (fun effect heffect app happ => ?_) h
  rcases mem_targetWord heffect with rfl | rfl | rfl
  · exact happ
  · exact happ
  · exact happ

theorem done_fields_of_mutateTargets (h : Part.fields.Done desired app) :
    Part.fields.Done desired (afterMode id desired (.mutateTargets false) app) := by
  refine Store.replay_preserves (Part.fields.Done desired ·) (fun effect heffect other hother => ?_) h
  rcases mem_targetWord heffect with rfl | rfl | rfl
  · have hnone : (deltaOf app desired false).removalInput.answers = [] :=
      answers_input_missingFrom _ _
    have hkeeps : (Store.applied (.removeProjects id (deltaOf app desired false).removalInput)
        other).answers = other.answers := by
      simp only [Store.applied, hnone, List.contains_nil, Bool.not_false, List.filter_true]
    exact ⟨hkeeps.trans hother.1, hother.2⟩
  · have hnone : (deltaOf app desired false).additionInput.answers = [] :=
      answers_input_missingFrom _ _
    have hkeeps : (Store.applied (.addProjects id (deltaOf app desired false).additionInput)
        other).answers = other.answers := by
      rw [Store.applied, hnone]
      rfl
    exact ⟨hkeeps.trans hother.1, hother.2⟩
  · exact Part.done_fields_updated desired other _

end Targets

theorem newRevision_eq_none_iff (prior desired : Spec) :
    SpecChanges.newRevision prior desired = none ↔
      desired.revision = none ∨ prior.revision = desired.revision := by
  rw [Option.eq_none_iff_forall_ne_some]
  constructor
  · intro hnone
    cases hdesired : desired.revision with
    | none => exact .inl rfl
    | some revision =>
      refine .inr (Decidable.byContradiction fun hother => hnone revision ?_)
      exact SpecChanges.newRevision_eq_some_iff.mpr ⟨hdesired, hother⟩
  · intro hsame revision hnew
    obtain ⟨hdesired, hother⟩ := SpecChanges.newRevision_eq_some_iff.mp hnew
    rcases hsame with hnone | heq
    · rw [hnone] at hdesired
      exact absurd hdesired (by simp)
    · exact hother (heq.trans hdesired)

theorem revision_of_rollback {prior : Spec} {revision : RevisionId}
    (h : UpdateMode.ofChanges (.between prior desired) = .rollback revision) :
    desired.revision = some revision := by
  unfold UpdateMode.ofChanges at h
  split at h
  · rename_i other hnew
    obtain rfl := UpdateMode.rollback.inj h
    exact (SpecChanges.newRevision_eq_some_iff.mp hnew).1
  · split at h <;> exact absurd h (by simp)

-- A stale record can choose a mode for a part that is done.
theorem done_modePart {prior : Spec} :
    (modePart (.ofChanges (.between prior desired))).Done desired
      (afterMode id desired (.ofChanges (.between prior desired)) app) := by
  cases hmode : UpdateMode.ofChanges (.between prior desired) with
  | rollback revision => exact .inr (revision_of_rollback hmode).symm
  | mutateTargets answersChanged => exact done_projects_of_mutateTargets app desired answersChanged id
  | updateFields => exact Part.done_fields_updated desired app _

def modeOn (app : App) (id : AppId) (catalog : CatalogRef) (desired : Spec) : UpdateMode :=
  .ofChanges (.between (app.record id catalog (some desired)).spec desired)

section Record

variable (app : App) (id : AppId) (catalog : CatalogRef) (desired : Spec)

theorem modeOn_cases :
    ¬ Part.revision.Done desired app ∧
        (∃ revision, modeOn app id catalog desired = .rollback revision) ∨
      Part.revision.Done desired app ∧ ¬ Part.projects.Done desired app ∧
        modeOn app id catalog desired = .mutateTargets (app.answers ≠ desired.answers) ∨
      Part.revision.Done desired app ∧ Part.projects.Done desired app ∧
        modeOn app id catalog desired = .updateFields := by
  have hrevision := newRevision_eq_none_iff (app.record id catalog (some desired)).spec desired
  simp only [modeOn, UpdateMode.ofChanges, SpecChanges.between]
  cases hnew : SpecChanges.newRevision (app.record id catalog (some desired)).spec desired with
  | some revision =>
    refine .inl ⟨fun hdone => ?_, revision, rfl⟩
    rw [hrevision.mpr hdone] at hnew
    exact absurd hnew (by simp)
  | none =>
    have hdone : Part.revision.Done desired app := hrevision.mp hnew
    have hprojects : (app.record id catalog (some desired)).spec.targets.map Target.project =
        desired.targets.map Target.project ↔ Part.projects.Done desired app :=
      Target.map_project_orderLike_eq_iff
    simp only [ne_eq, hprojects]
    by_cases hplaced : Part.projects.Done desired app
    · simp only [hplaced, not_true_eq_false, decide_false]
      exact .inr (.inr ⟨hdone, trivial, rfl⟩)
    · simp only [hplaced]
      exact .inr (.inl ⟨hdone, not_false, rfl⟩)

theorem done_stays {part : Part} (h : part.Done desired app) :
    part.Done desired (afterMode id desired (modeOn app id catalog desired) app) := by
  rcases modeOn_cases app id catalog desired with
    ⟨hrevision, revision, hmode⟩ | ⟨_, _, hmode⟩ | ⟨_, _, hmode⟩
  all_goals rw [hmode]
  · cases part with
    | revision => exact absurd h hrevision
    | projects => exact h
    | fields => exact h
  · cases part with
    | revision => exact done_revision_of_mutateTargets h
    | projects => exact done_projects_of_mutateTargets app desired _ id
    | fields =>
      have hanswers : decide (app.answers ≠ desired.answers) = false :=
        decide_eq_false (not_not_intro h.1)
      rw [hanswers]
      exact done_fields_of_mutateTargets h
  · cases part with
    | revision => exact h
    | projects => exact h
    | fields => exact Part.done_fields_updated desired app _

theorem remaining_subset_of_modeOn :
    remaining desired (afterMode id desired (modeOn app id catalog desired) app) ⊆
      (remaining desired app).erase (modePart (modeOn app id catalog desired)) := by
  intro part hpart
  rw [mem_remaining] at hpart
  rw [Finset.mem_erase, mem_remaining]
  refine ⟨?_, fun hdone => hpart (done_stays app id catalog desired hdone)⟩
  rintro rfl
  exact hpart done_modePart

theorem modePart_mem_remaining :
    remaining desired app = ∅ ∨ modePart (modeOn app id catalog desired) ∈ remaining desired app := by
  rcases modeOn_cases app id catalog desired with
    ⟨hrevision, revision, hmode⟩ | ⟨_, hprojects, hmode⟩ | ⟨hrevision, hprojects, hmode⟩
  all_goals rw [hmode]
  · exact .inr (mem_remaining.mpr hrevision)
  · exact .inr (mem_remaining.mpr hprojects)
  · by_cases hfields : Part.fields.Done desired app
    · refine .inl (Finset.eq_empty_of_forall_notMem fun part hpart => mem_remaining.mp hpart ?_)
      cases part with
      | revision => exact hrevision
      | projects => exact hprojects
      | fields => exact hfields
    · exact .inr (mem_remaining.mpr hfields)

theorem card_remaining_of_modeOn :
    (remaining desired (afterMode id desired (modeOn app id catalog desired) app)).card ≤
      (remaining desired app).card - 1 := by
  have hsubset := remaining_subset_of_modeOn app id catalog desired
  rcases modePart_mem_remaining app id catalog desired with hnone | hmem
  · rw [hnone, Finset.erase_eq_of_notMem (Finset.notMem_empty _), Finset.subset_empty] at hsubset
    rw [hsubset, Finset.card_empty]
    exact Nat.zero_le _
  · rw [← Finset.card_erase_of_mem hmem]
    exact Finset.card_le_card hsubset

end Record

theorem card_remaining_of_stale (prior : Spec) :
    (remaining desired (afterMode id desired (.ofChanges (.between prior desired)) app)).card ≤ 2 := by
  have hdone : modePart (.ofChanges (.between prior desired)) ∉
      remaining desired (afterMode id desired (.ofChanges (.between prior desired)) app) :=
    fun hmem => mem_remaining.mp hmem done_modePart
  exact Nat.le_of_lt_succ (Finset.card_lt_univ_of_notMem hdone)

def Updates (desired : Spec) (prior : AppRecord) (before : Store) (record : AppRecord)
    (after : Store) : Prop :=
  ∃ (cancelAt : Option Nat) (limit : Nat) (settings : Settings) (now : Nat),
    let run := (update settings prior desired).run (Store.setting cancelAt limit) ⟨before, now⟩
    run.result = some (.ok record) ∧ run.world.remote = after

theorem modeWord_withoutVersion (update : AppUpdate) (mode : UpdateMode) :
    modeWord Effect.withoutVersion (.updateApp id update) id desired app mode =
      modeWord (fun effect => effect) (.updateApp id update) id desired app.withoutVersion mode := by
  cases mode <;> rfl

theorem Updates.stored {prior record : AppRecord} {before after : Store}
    (h : Updates desired prior before record after) :
    ∃ app final catalog, before.app? prior.id = some app ∧ after.app? prior.id = some final ∧
      record = final.record prior.id catalog (some desired) ∧
      final.withoutVersion = afterMode prior.id desired
        (.ofChanges (.between prior.spec desired)) app.withoutVersion := by
  obtain ⟨cancelAt, limit, settings, now, hok, rfl⟩ := h
  obtain ⟨remote, hreply, _⟩ := run_update_of_ok (Store.setting cancelAt limit) settings hok
  obtain ⟨app, _, hstored, _⟩ := Store.respond_getApp_ok hreply
  obtain ⟨final, catalog, hfinal, hrecord⟩ := update_returns settings hok
  refine ⟨app, final, catalog, hstored, hfinal, hrecord, ?_⟩
  obtain ⟨_, hall⟩ := viewed_writes_update cancelAt limit settings desired Effect.withoutVersion
    (.updateApp prior.id (desired.update ⟨""⟩)) (fun _ _ => rfl) hstored
  have hword := hall record hok
  rw [modeWord_withoutVersion] at hword
  have hreplay := Store.app?_run cancelAt limit (update settings prior desired) ⟨before, now⟩
    prior.id fun effect heffect => by
      have hmem := List.mem_map_of_mem (f := Effect.withoutVersion) heffect
      rw [hword] at hmem
      rw [← effect.change?_withoutVersion]
      exact change?_of_mem_modeWord hmem
  rw [hfinal, hstored, accepted_of_ok _ (strict_update settings prior desired) hok] at hreplay
  rw [Option.some.inj hreplay, Store.withoutVersion_replay, hword, afterMode]

theorem remaining_withoutVersion (desired : Spec) (app : App) :
    remaining desired app.withoutVersion = remaining desired app := by
  ext part
  rw [mem_remaining, mem_remaining, part.done_withoutVersion]

inductive UpdatesFrom (desired : Spec) (prior : AppRecord) (before : Store) :
    Nat → AppRecord → Store → Prop where
  | first {record : AppRecord} {after : Store} (h : Updates desired prior before record after) :
      UpdatesFrom desired prior before 0 record after
  | next {n : Nat} {record later : AppRecord} {store after : Store}
      (hbefore : UpdatesFrom desired prior before n record store)
      (h : Updates desired record store later after) :
      UpdatesFrom desired prior before (n + 1) later after

theorem UpdatesFrom.stored {n : Nat} {prior record : AppRecord} {before after : Store}
    (h : UpdatesFrom desired prior before n record after) :
    ∃ final catalog, after.app? prior.id = some final ∧
      record = final.record prior.id catalog (some desired) ∧
      (remaining desired final).card ≤ 2 - n := by
  -- Only the first record may be stale; each later one is of the app that the store then holds.
  induction h with
  | first hupdates =>
    obtain ⟨app, final, catalog, _, hfinal, hrecord, heffects⟩ := hupdates.stored
    refine ⟨final, catalog, hfinal, hrecord, ?_⟩
    rw [← remaining_withoutVersion, heffects]
    exact card_remaining_of_stale prior.spec
  | next _ hupdates ih =>
    obtain ⟨app, catalog, happ, rfl, hcount⟩ := ih
    obtain ⟨other, final, later, hother, hfinal, hrecord, heffects⟩ := hupdates.stored
    obtain rfl : app = other := Option.some.inj (happ.symm.trans hother)
    refine ⟨final, later, hfinal, hrecord, ?_⟩
    have hmode : UpdateMode.ofChanges
        (.between (app.record prior.id catalog (some desired)).spec desired) =
          modeOn app.withoutVersion prior.id catalog desired := rfl
    rw [← remaining_withoutVersion, heffects, hmode]
    have hstep := card_remaining_of_modeOn app.withoutVersion prior.id catalog desired
    rw [remaining_withoutVersion desired app] at hstep
    exact hstep.trans (Nat.sub_le_sub_right hcount 1)

theorem updates_converge (desired : Spec) (prior first second third : AppRecord)
    (s₀ s₁ s₂ s₃ : Store) (hfirst : Updates desired prior s₀ first s₁)
    (hsecond : Updates desired first s₁ second s₂) (hthird : Updates desired second s₂ third s₃) :
    third.spec.targets.map Target.project = desired.targets.map Target.project ∧
      third.spec.answers = desired.answers ∧ third.spec.members = desired.members ∧
      third.spec.roles = desired.roles ∧
      third.spec.revisionHistoryLimit = desired.revisionHistoryLimit ∧
      third.spec.upgradeStrategy = desired.upgradeStrategy ∧
      third.spec.labels = desired.labels ∧ third.spec.annotations = desired.annotations ∧
      ∀ revision, desired.revision = some revision → third.spec.revision = some revision := by
  have hall : UpdatesFrom desired prior s₀ 2 third s₃ :=
    ((UpdatesFrom.first hfirst).next hsecond).next hthird
  obtain ⟨final, catalog, _, rfl, hcount⟩ := hall.stored
  have hdone (part : Part) : part.Done desired final := by
    have hnone := Finset.card_eq_zero.mp (Nat.le_zero.mp hcount)
    exact Decidable.byContradiction fun hpart =>
      Finset.notMem_empty part (hnone ▸ mem_remaining.mpr hpart)
  obtain ⟨hanswers, hmembers, hroles, hlimit, hstrategy, hlabels, hannotations⟩ := hdone .fields
  refine ⟨Target.map_project_orderLike_eq_iff.mpr (hdone .projects), hanswers, hmembers, hroles,
    hlimit, hstrategy, hlabels, hannotations, fun revision hrevision => ?_⟩
  rcases hdone .revision with hnone | hsame
  · rw [hnone] at hrevision
    exact absurd hrevision (by simp)
  · exact hsame.trans hrevision

namespace Sample

def revised : Spec := { extended with revision := some ⟨"apprevision-2"⟩ }

def hoped : AppRecord := ⟨known.id, revised⟩

def answeredApp : App := { wordpress with answers := [answer] }

def rolledBackApp : App := { answeredApp with status := some ⟨revised.revision⟩ }

def revisedApp : App := { rolledBackApp with targets := extendedApp.targets }

def revisedRecord (app : App) : AppRecord := app.record known.id catalog (some revised)

end Sample

open Sample in
theorem updates_converge_from_stale_record :
    let run (prior : AppRecord) (s : Store) :=
      (update .standard prior revised).run (Store.setting none 1) ⟨s, 0⟩
    let first := run hoped store
    let second := run (revisedRecord answeredApp) first.world.remote
    let third := run (revisedRecord rolledBackApp) second.world.remote
    first.result = some (.ok (revisedRecord answeredApp)) ∧
      second.result = some (.ok (revisedRecord rolledBackApp)) ∧
      third.result = some (.ok (revisedRecord revisedApp)) ∧
      remaining revised wordpress = {.revision, .projects, .fields} ∧
      remaining revised answeredApp = {.revision, .projects} ∧
      remaining revised rolledBackApp = {.projects} ∧
      (revisedRecord revisedApp).spec.targets.map Target.project =
        revised.targets.map Target.project ∧
      (revisedRecord revisedApp).spec.answers = revised.answers := by
  intro run first second third
  have hfirst : first.result = some (.ok (revisedRecord answeredApp)) := by decide +kernel
  have hsecond : second.result = some (.ok (revisedRecord rolledBackApp)) := by decide +kernel
  have hthird : third.result = some (.ok (revisedRecord revisedApp)) := by decide +kernel
  obtain ⟨htargets, hanswers, _⟩ := updates_converge revised hoped (revisedRecord answeredApp)
    (revisedRecord rolledBackApp) (revisedRecord revisedApp) store first.world.remote
    second.world.remote third.world.remote ⟨none, 1, .standard, 0, hfirst, rfl⟩
    ⟨none, 1, .standard, 0, hsecond, rfl⟩ ⟨none, 1, .standard, 0, hthird, rfl⟩
  exact ⟨hfirst, hsecond, hthird, by decide +kernel, by decide +kernel, by decide +kernel, htargets,
    hanswers⟩

end Lifecycle

end MultiCluster
