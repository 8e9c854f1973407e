import Mathlib.Data.Finset.Prod
import Mathlib.Order.Bounds.Defs
import MultiCluster.Proofs.Update.Word

namespace MultiCluster

namespace TargetDelta

variable {source other current desired : TargetSet} {withAnswers answersChanged : Bool} {p : ProjectId}

def applied (d : TargetDelta) (targets : List Target) : List Target :=
  (targets.filter fun t => t.project ∉ d.removalInput.projects) ++ d.toAdd.map DeltaEntry.target

def Leads (current desired : List Target) (change : Finset ProjectId × Finset ProjectId) : Prop :=
  ((current.map Target.project).toFinset \ change.1) ∪ change.2 =
    (desired.map Target.project).toFinset

structure Carries (answers : List Answer) (withAnswers : Bool) (e : DeltaEntry) : Prop where
  isSome_iff : e.answer.isSome = true ↔
    withAnswers = true ∧ ∃ a ∈ answers, a.project = some e.target.project
  first : ∀ a, e.answer = some a → ∃ before after, answers = before ++ a :: after ∧
    a.project = some e.target.project ∧ ∀ b ∈ before, b.project ≠ some e.target.project

theorem targets_missingFrom (source other : TargetSet) (withAnswers : Bool) :
    (missingFrom source other withAnswers).map DeltaEntry.target =
      source.targets.filter fun t => t.project ∉ other.targets.map Target.project := by
  rw [map_target_missingFrom]
  refine List.filter_congr fun t _ => ?_
  rw [decide_not, Bool.not_inj_iff, Bool.eq_iff_iff, TargetSet.contains_iff, decide_eq_true_iff,
    List.mem_map]

theorem mem_projects_missingFrom : p ∈ (input (missingFrom source other withAnswers)).projects ↔
    p ∈ source.targets.map Target.project ∧ p ∉ other.targets.map Target.project := by
  rw [input_missingFrom_projects, Target.mem_missing]

theorem isEmpty_between_iff : (between current desired answersChanged).isEmpty = true ↔
    ∀ p, p ∈ current.targets.map Target.project ↔ p ∈ desired.targets.map Target.project := by
  rw [isEmpty, Bool.and_eq_true, List.isEmpty_iff, List.isEmpty_iff, between, missingFrom_eq_nil,
    missingFrom_eq_nil, Target.missing_eq_nil, Target.missing_eq_nil]
  constructor
  · rintro ⟨hadd, hremove⟩ p
    exact ⟨hremove p, hadd p⟩
  · intro h
    exact ⟨fun p => (h p).mpr, fun p => (h p).mp⟩

theorem disjoint_between (current desired : TargetSet) (answersChanged : Bool) :
    (between current desired answersChanged).removalInput.projects.Disjoint
      (between current desired answersChanged).additionInput.projects := by
  intro p hremoved hadded
  exact (mem_projects_missingFrom.mp hadded).2 (mem_projects_missingFrom.mp hremoved).1

theorem mem_projects_applied :
    p ∈ ((between current desired answersChanged).applied current.targets).map Target.project ↔
      p ∈ desired.targets.map Target.project := by
  have hadded : ((between current desired answersChanged).toAdd.map DeltaEntry.target).map
      Target.project = (between current desired answersChanged).additionInput.projects :=
    List.map_map
  rw [applied, List.map_append, List.mem_append, hadded, additionInput, between,
    mem_projects_missingFrom]
  constructor
  · rintro (hstayed | ⟨hcame, -⟩)
    · obtain ⟨t, ht, rfl⟩ := List.mem_map.mp hstayed
      obtain ⟨hcurrent, hkept⟩ := List.mem_filter.mp ht
      refine Decidable.byContradiction fun hout => of_decide_eq_true hkept ?_
      exact mem_projects_missingFrom.mpr ⟨List.mem_map_of_mem hcurrent, hout⟩
    · exact hcame
  · intro hdesired
    by_cases hcurrent : p ∈ current.targets.map Target.project
    · obtain ⟨t, ht, rfl⟩ := List.mem_map.mp hcurrent
      refine .inl (List.mem_map_of_mem (List.mem_filter.mpr ⟨ht, decide_eq_true fun hremoved => ?_⟩))
      exact (mem_projects_missingFrom.mp hremoved).2 hdesired
    · exact .inr ⟨hdesired, hcurrent⟩

-- A project of one list alone has to go or to come, so whatever leads from the one list to the other
-- takes it along.
theorem isLeast_between (current desired : TargetSet) (answersChanged : Bool) :
    IsLeast {change | Leads current.targets desired.targets change}
      ((between current desired answersChanged).removalInput.projects.toFinset,
        (between current desired answersChanged).additionInput.projects.toFinset) := by
  constructor
  · refine Finset.ext fun p => ?_
    simp only [Finset.mem_union, Finset.mem_sdiff, List.mem_toFinset, removalInput, additionInput,
      between, mem_projects_missingFrom]
    by_cases hcurrent : p ∈ current.targets.map Target.project <;> simp [hcurrent]
  · rintro ⟨gone, come⟩ hleads
    have hmem (p : ProjectId) : p ∈ current.targets.map Target.project ∧ p ∉ gone ∨ p ∈ come ↔
        p ∈ desired.targets.map Target.project := by
      have hsame := Finset.ext_iff.mp hleads p
      simpa only [Finset.mem_union, Finset.mem_sdiff, List.mem_toFinset] using hsame
    refine Prod.mk_le_mk.mpr ⟨fun p hp => ?_, fun p hp => ?_⟩
    · obtain ⟨hcurrent, hout⟩ := mem_projects_missingFrom.mp (List.mem_toFinset.mp hp)
      refine Decidable.byContradiction fun hstayed => hout ?_
      exact (hmem p).mp (.inl ⟨hcurrent, hstayed⟩)
    · obtain ⟨hdesired, hout⟩ := mem_projects_missingFrom.mp (List.mem_toFinset.mp hp)
      exact ((hmem p).mpr hdesired).resolve_left fun hstayed => hout hstayed.1

theorem carries_of_mem_missingFrom {e : DeltaEntry} (h : e ∈ missingFrom source other withAnswers) :
    Carries source.answers withAnswers e := by
  obtain ⟨t, -, rfl⟩ := List.mem_map.mp h
  cases withAnswers with
  | false => exact ⟨by simp, fun a ha => absurd ha (by simp)⟩
  | true =>
    constructor
    · simp only [↓reduceIte, TargetSet.answerFor, List.find?_isSome, Answer.isFor_iff, true_and]
    · intro a ha
      obtain ⟨hfor, before, after, hsplit, hbefore⟩ := List.find?_eq_some_iff_append.mp ha
      refine ⟨before, after, hsplit, Answer.isFor_iff.mp hfor, fun b hb hsame => ?_⟩
      have hother := hbefore b hb
      rw [Answer.isFor_iff.mpr hsame] at hother
      exact Bool.false_ne_true hother

theorem between_minimal (current desired : TargetSet) (answersChanged : Bool) :
    let d := between current desired answersChanged
    (d.toRemove.map DeltaEntry.target =
        current.targets.filter fun t => t.project ∉ desired.targets.map Target.project) ∧
    (d.toAdd.map DeltaEntry.target =
        desired.targets.filter fun t => t.project ∉ current.targets.map Target.project) ∧
    d.removalInput.projects.Disjoint d.additionInput.projects ∧
    (∀ p, p ∈ (d.applied current.targets).map Target.project ↔
      p ∈ desired.targets.map Target.project) ∧
    (∀ answers changed, (between ⟨d.applied current.targets, answers⟩ desired changed).isEmpty) ∧
    IsLeast {change | Leads current.targets desired.targets change}
      (d.removalInput.projects.toFinset, d.additionInput.projects.toFinset) ∧
    (∀ e ∈ d.toRemove, Carries current.answers answersChanged e) ∧
    (∀ e ∈ d.toAdd, Carries desired.answers answersChanged e) ∧
    between desired current answersChanged = { toAdd := d.toRemove, toRemove := d.toAdd } := by
  intro d
  exact ⟨targets_missingFrom _ _ _, targets_missingFrom _ _ _, disjoint_between _ _ _,
    fun p => mem_projects_applied, fun answers changed => isEmpty_between_iff.mpr fun p =>
      mem_projects_applied, isLeast_between _ _ _, fun e he => carries_of_mem_missingFrom he,
    fun e he => carries_of_mem_missingFrom he, between_swap _ _ _⟩

namespace Sample

def sized (project size : String) : Answer := .forProject ⟨project⟩ (.ofList [("size", size)])

def deployed : TargetSet where
  targets := [(Target.declared ⟨"c-1:p-1"⟩).withInstance ⟨"mcapp-wordpress-1"⟩,
    .declared ⟨"c-1:p-2"⟩, .declared ⟨"c-1:p-1"⟩]
  answers := [.global .empty, sized "c-1:p-1" "small", sized "c-1:p-1" "large"]

def wished : TargetSet where
  targets := [.declared ⟨"c-1:p-3"⟩, .declared ⟨"c-1:p-2"⟩]
  answers := [sized "c-1:p-2" "large"]

end Sample

open Sample in
theorem between_minimal_of_repeated_project :
    let d := between deployed wished true
    let entry : DeltaEntry := ⟨.declared ⟨"c-1:p-1"⟩, some (sized "c-1:p-1" "small")⟩
    entry ∈ d.toRemove ∧ Carries deployed.answers true entry ∧
      d.toAdd = [⟨.declared ⟨"c-1:p-3"⟩, none⟩] ∧
      IsLeast {change | Leads deployed.targets wished.targets change}
        ({⟨"c-1:p-1"⟩}, {⟨"c-1:p-3"⟩}) := by
  intro d entry
  have hentry : entry ∈ d.toRemove := by decide +kernel
  obtain ⟨-, -, -, -, -, hleast, hremoved, -, -⟩ := between_minimal deployed wished true
  exact ⟨hentry, hremoved entry hentry, by decide +kernel, hleast⟩

end TargetDelta

end MultiCluster
