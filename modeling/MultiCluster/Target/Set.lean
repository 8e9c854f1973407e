import MultiCluster.Target

namespace MultiCluster

inductive TargetSetError where
  | duplicateTarget (project : ProjectId)
  | duplicateAnswer (project : ProjectId)
  deriving DecidableEq, Repr

def TargetSetError.message : TargetSetError → String
  | .duplicateTarget project => "project " ++ project.text ++ " is targeted more than once"
  | .duplicateAnswer project => "project " ++ project.text ++ " has more than one answer"

structure TargetSet where
  targets : List Target
  answers : List Answer
  deriving DecidableEq, Repr

namespace TargetSet

def contains (s : TargetSet) (project : ProjectId) : Bool :=
  s.targets.any fun t => t.project = project

def answerFor (s : TargetSet) (project : ProjectId) : Option Answer :=
  s.answers.find? fun a => a.isFor project

def firstRepeat {α : Type} [DecidableEq α] (seen : List α) : List α → Option α
  | [] => none
  | x :: rest => if x ∈ seen then some x else firstRepeat (x :: seen) rest

def answeredProjects (s : TargetSet) : List ProjectId := s.answers.filterMap Answer.project

def validate (s : TargetSet) : Except TargetSetError Unit :=
  match firstRepeat [] (s.targets.map Target.project) with
  | some project => .error (.duplicateTarget project)
  | none => match firstRepeat [] s.answeredProjects with
    | some project => .error (.duplicateAnswer project)
    | none => .ok ()

theorem firstRepeat_eq_none_iff {α : Type} [DecidableEq α] {seen xs : List α} :
    firstRepeat seen xs = none ↔ xs.Nodup ∧ ∀ x ∈ xs, x ∉ seen := by
  induction xs generalizing seen with
  | nil => simp [firstRepeat]
  | cons x rest ih =>
    by_cases h : x ∈ seen
    · simp [firstRepeat, h]
    · simp only [firstRepeat, h, ↓reduceIte, ih, List.nodup_cons, List.mem_cons]
      grind

theorem contains_iff {s : TargetSet} {project : ProjectId} :
    s.contains project = true ↔ ∃ t ∈ s.targets, t.project = project := by
  simp [contains]

end TargetSet

namespace Target

def orderLike (found declared : List Target) : List Target :=
  (declared.filterMap fun d => found.find? fun t => t.project = d.project) ++
    found.filter fun t => !declared.any fun d => d.project = t.project

theorem mem_orderLike {found declared : List Target} {t : Target}
    (h : t ∈ orderLike found declared) : t ∈ found := by
  rcases List.mem_append.mp h with h | h
  · obtain ⟨d, _, hd⟩ := List.mem_filterMap.mp h
    exact List.mem_of_find?_eq_some hd
  · exact (List.mem_filter.mp h).1

end Target

end MultiCluster
