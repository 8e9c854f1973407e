import MultiCluster.App
import MultiCluster.Target.Set

namespace MultiCluster

structure DeltaEntry where
  target : Target
  answer : Option Answer
  deriving DecidableEq, Repr

structure TargetDelta where
  toAdd : List DeltaEntry
  toRemove : List DeltaEntry
  deriving DecidableEq, Repr

namespace TargetDelta

def missingFrom (source other : TargetSet) (withAnswers : Bool) : List DeltaEntry :=
  (source.targets.filter fun t => !other.contains t.project).map fun t =>
    ⟨t, if withAnswers then source.answerFor t.project else none⟩

def between (current desired : TargetSet) (answersChanged : Bool) : TargetDelta where
  toAdd := missingFrom desired current answersChanged
  toRemove := missingFrom current desired answersChanged

def isEmpty (d : TargetDelta) : Bool := d.toAdd.isEmpty && d.toRemove.isEmpty

def input (entries : List DeltaEntry) : TargetsInput where
  projects := entries.map fun e => e.target.project
  answers := entries.filterMap DeltaEntry.answer

def additionInput (d : TargetDelta) : TargetsInput := input d.toAdd

def removalInput (d : TargetDelta) : TargetsInput := input d.toRemove

theorem map_target_missingFrom (source other : TargetSet) (withAnswers : Bool) :
    (missingFrom source other withAnswers).map DeltaEntry.target =
      source.targets.filter fun t => !other.contains t.project := by
  simp [missingFrom, Function.comp_def]

theorem projects_input_missingFrom (source other : TargetSet) (withAnswers : Bool) :
    (input (missingFrom source other withAnswers)).projects =
      (source.targets.map Target.project).filter fun p => !other.contains p := by
  simp [input, missingFrom, List.filter_map, Function.comp_def]

theorem between_swap (current desired : TargetSet) (answersChanged : Bool) :
    between desired current answersChanged =
      ⟨(between current desired answersChanged).toRemove,
        (between current desired answersChanged).toAdd⟩ := rfl

end TargetDelta

end MultiCluster
