import Mathlib.Data.List.Forall2
import MultiCluster.Proofs.Store.Unfailing

namespace MultiCluster

namespace Target

def Keeps (before after : Target) : Prop :=
  after.project = before.project ∧ ∀ i, before.instanceId = some i → after.instanceId = some i

theorem keeps_self (t : Target) : t.Keeps t := ⟨rfl, fun _ h => h⟩

end Target

namespace Store

theorem forall₂_keeps_deployed (name : String) (id : AppId) (position : Nat) (targets : List Target) :
    List.Forall₂ Target.Keeps targets (deployed name id position targets) := by
  induction targets generalizing position with
  | nil => exact .nil
  | cons t rest ih =>
    refine .cons ⟨rfl, fun i hi => ?_⟩ (ih (position + 1))
    rw [hi]
    rfl

theorem instanceId_of_mem_deployed {name : String} {id : AppId} {position : Nat} {targets : List Target}
    {t : Target} (h : t ∈ deployed name id position targets) : t.instanceId ≠ none := by
  induction targets generalizing position with
  | nil => exact absurd h List.not_mem_nil
  | cons first rest ih =>
    rw [deployed, List.mem_cons] at h
    rcases h with rfl | hlater
    · exact Option.some_ne_none _
    · exact ih hlater

theorem deployed_append (name : String) (id : AppId) (position : Nat) (first second : List Target) :
    deployed name id position (first ++ second) =
      deployed name id position first ++ deployed name id (position + first.length) second := by
  induction first generalizing position with
  | nil => rfl
  | cons t rest ih =>
    rw [List.cons_append, deployed, ih, deployed, List.cons_append, List.length_cons,
      Nat.add_assoc, Nat.add_comm 1]

theorem addTargets_of_new {targets : List Target} {projects : List ProjectId} (hnodup : projects.Nodup)
    (hnew : ∀ p ∈ projects, p ∉ targets.map Target.project) :
    addTargets targets projects = targets ++ projects.map Target.declared := by
  induction projects generalizing targets with
  | nil => exact (List.append_nil targets).symm
  | cons p rest ih =>
    obtain ⟨hfirst, hrest⟩ := List.nodup_cons.mp hnodup
    have habsent : (targets.any fun t => t.project = p) = false := by
      refine List.any_eq_false.mpr fun t ht heq => ?_
      exact hnew p List.mem_cons_self (List.mem_map.mpr ⟨t, ht, of_decide_eq_true heq⟩)
    have hstep : addTargets targets (p :: rest) = addTargets (targets ++ [.declared p]) rest := by
      show addTargets (if targets.any fun t => t.project = p then targets
        else targets ++ [.declared p]) rest = _
      rw [habsent]
      rfl
    rw [hstep, ih hrest, List.append_assoc, List.singleton_append, List.map_cons]
    intro q hq hmem
    rw [List.map_append, List.map_singleton, List.mem_append, List.mem_singleton] at hmem
    rcases hmem with hstored | hsame
    · exact hnew q (List.mem_cons_of_mem p hq) hstored
    · obtain rfl : q = p := hsame
      exact hfirst hq

def created (s : Store) (app : App) : App :=
  { app with
    id := some s.nextId
    state := some State.active
    status := some ⟨some (firstRevision s.nextId)⟩
    targets := deployed app.name s.nextId 0 app.targets }

def afterCreation (s : Store) (app : App) : Store :=
  { s with
    lastNumber := s.lastNumber + 1
    apps := s.apps.insert s.nextId.text (s.created app)
    childApps := install s.childApps (childIds (s.created app).targets)
    queuedStates := s.queuedStates.insert s.nextId.text s.createStates }

theorem app?_afterCreation (s : Store) (app : App) :
    (s.afterCreation app).app? s.nextId = some (s.created app) := by
  rw [app?, afterCreation, Dict.find?_insert, if_pos rfl]

theorem queuedStates_afterCreation (s : Store) (app : App) :
    (s.afterCreation app).queuedStates.find? s.nextId.text = some s.createStates := by
  rw [afterCreation, Dict.find?_insert, if_pos rfl]

theorem createApp_eq (s : Store) (app : App) :
    s.createApp app = (.ok (.app (s.created app)), s.afterCreation app) := by
  have hfound := s.app?_afterCreation app
  unfold createApp
  dsimp only
  split
  · next stored hstored =>
    obtain rfl : s.created app = stored := Option.some.inj (hfound.symm.trans hstored)
    rfl
  · next hstored => exact absurd (hfound.symm.trans hstored) (by simp)

end Store

end MultiCluster
