import MultiCluster.Lifecycle.Operations
import MultiCluster.Proofs.Store.Ownership

namespace MultiCluster

def Round.fetches {σ ρ : Type} : Round σ ρ → List (Fetch ρ)
  | last run => run.fetches
  | more fetch _ _ _ => [fetch]

namespace Source

variable {σ ρ : Type} (s : Source σ ρ) (t : WaitTerms)

end Source

inductive Preparation where
  | publish (catalog template : String) (versions : List String)
  | queueStates (id : AppId) (states : List String)
  | queueCreateStates (states : List String)
  | queueFailure (operation : String) (error : ApiError)

inductive Event where
  | prepared (preparation : Preparation)
  | called (effect : Effect)

namespace Store

def prepare (s : Store) : Preparation → Store
  | .publish catalog template versions => s.publish catalog template versions
  | .queueStates id states => s.queueStates id states
  | .queueCreateStates states => { s with createStates := states }
  | .queueFailure operation error => s.queueFailure operation error

def afterEvent (s : Store) : Event → Store
  | .prepared preparation => s.prepare preparation
  | .called effect => (s.respond effect).2

def after (s : Store) (events : List Event) : Store := events.foldl afterEvent s

-- The events up to the call at which counting the apps overflows and the program panics.
def untilOverflow (s : Store) : List Event → List Event
  | [] => []
  | .prepared preparation :: rest => .prepared preparation :: (s.prepare preparation).untilOverflow rest
  | .called effect :: rest =>
    if s.overflows effect then [] else .called effect :: (s.respond effect).2.untilOverflow rest

def answered (s : Store) : List Event → List (Effect × Answered)
  | [] => []
  | .prepared preparation :: rest => (s.prepare preparation).answered rest
  | .called effect :: rest => (effect, (s.respond effect).1) :: (s.respond effect).2.answered rest

def createdId? : Effect × Answered → Option AppId
  | (.createApp _, .ok (.app app)) => app.id
  | _ => none

def droppedId? : Effect × Answered → Option AppId
  | (.deleteApp id, .ok .deleted) => some id
  | _ => none

variable {s : Store} {id : AppId} {app : App}

theorem Tidy.prepare (h : s.Tidy) (preparation : Preparation) : (s.prepare preparation).Tidy := by
  cases preparation <;> exact h.of_same rfl rfl rfl rfl rfl

theorem app?_prepare (preparation : Preparation) : (s.prepare preparation).app? id = s.app? id := by
  cases preparation <;> rfl

theorem lastNumber_prepare (preparation : Preparation) :
    (s.prepare preparation).lastNumber = s.lastNumber := by
  cases preparation <;> rfl

theorem lastNumber_respond {effect : Effect} (h : s.overflows effect = false) :
    s.lastNumber ≤ (s.respond effect).2.lastNumber := by
  rwa [overflows, decide_eq_false_iff_not, UInt32.not_lt] at h

theorem stored_of_change {effect : Effect} {target : AppId} {change : Change}
    (hchange : effect.change? = some (target, change))
    (hstored : (s.apply effect).2.app? id = some app) : ∃ before, s.app? id = some before := by
  by_cases hsame : target = id
  · subst hsame
    rw [app?_apply_change s hchange] at hstored
    split at hstored
    · obtain ⟨before, hbefore, -⟩ := Option.map_eq_some_iff.mp hstored
      exact ⟨before, hbefore⟩
    · exact ⟨app, hstored⟩
  · rw [app?_apply_of_ne s hchange hsame] at hstored
    exact ⟨app, hstored⟩

theorem Tidy.stored_respond (h : s.Tidy) {effect : Effect} (hnumber : s.overflows effect = false)
    (hstored : (s.respond effect).2.app? id = some app) :
    (∃ before, s.app? id = some before) ∨
      ¬ s.Numbered id ∧ createdId? (effect, (s.respond effect).1) = some id := by
  have hcount := lastNumber_respond hnumber
  rcases respond_cases s effect with ⟨e, left, heq⟩ | heq
  · rw [heq] at hstored
    exact .inl ⟨app, hstored⟩
  rw [heq] at hcount hstored ⊢
  cases effect with
  | createApp payload =>
    rw [Store.apply, createApp_eq] at hcount hstored ⊢
    by_cases hnew : s.nextId = id
    · exact .inr ⟨hnew ▸ not_numbered_nextId hcount, congrArg some hnew⟩
    · have hbefore : (s.afterCreation payload).app? id = s.app? id :=
        (app?_putApp s s.nextId id (s.created payload)).trans (if_neg hnew)
      exact .inl ⟨app, hbefore ▸ hstored⟩
  | deleteApp target =>
    rcases onApp_cases s target fun app => (.deleted, s.deleteApp target app) with heq | ⟨_, -, heq⟩
    · rw [Store.apply, heq] at hstored
      exact .inl ⟨app, hstored⟩
    · rw [Store.apply, heq, h.app?_deleteApp] at hstored
      split at hstored
      · exact absurd hstored (by simp)
      · exact .inl ⟨app, hstored⟩
  | updateApp target update => exact .inl (stored_of_change rfl hstored)
  | rollback target revision => exact .inl (stored_of_change rfl hstored)
  | addProjects target input => exact .inl (stored_of_change rfl hstored)
  | removeProjects target input => exact .inl (stored_of_change rfl hstored)
  | getApp target =>
    rw [app?, apps_apply_of_isRead s rfl] at hstored
    exact .inl ⟨app, hstored⟩
  | _ => exact .inl ⟨app, hstored⟩

theorem Tidy.dropped_respond (h : s.Tidy) (effect : Effect)
    (hdropped : droppedId? (effect, (s.respond effect).1) = some id) :
    s.Numbered id ∧ (s.respond effect).2.app? id = none := by
  cases effect with
  | deleteApp target =>
    rcases respond_cases s (.deleteApp target) with ⟨e, left, heq⟩ | heq
    · rw [heq] at hdropped
      exact absurd hdropped (by simp [droppedId?])
    rw [heq, Store.apply] at hdropped ⊢
    rcases onApp_cases s target fun app => (.deleted, s.deleteApp target app) with
      hmissing | ⟨app, hstored, hdeleted⟩
    · rw [hmissing] at hdropped
      exact absurd hdropped (by simp [droppedId?])
    · rw [hdeleted] at hdropped ⊢
      obtain rfl : target = id := Option.some.inj hdropped
      exact ⟨h.numbered target app hstored, by rw [h.app?_deleteApp, if_pos rfl]⟩
  | _ => exact absurd hdropped (by simp [droppedId?])

structure Accounts (calls : List (Effect × Answered)) (s : Store) : Prop where
  tidy : s.Tidy
  created : ∀ id app, s.app? id = some app → id ∈ calls.filterMap createdId?
  dropped : ∀ id ∈ calls.filterMap droppedId?, s.Numbered id ∧ s.app? id = none

namespace Accounts

variable {calls : List (Effect × Answered)}

theorem prepare (h : Accounts calls s) (preparation : Preparation) :
    Accounts calls (s.prepare preparation) where
  tidy := h.tidy.prepare preparation
  created id app hstored := h.created id app (app?_prepare preparation ▸ hstored)
  dropped id hid := by
    obtain ⟨hnumbered, hgone⟩ := h.dropped id hid
    exact ⟨hnumbered.mono (UInt32.le_of_eq (lastNumber_prepare preparation).symm),
      (app?_prepare preparation).trans hgone⟩

theorem respond (h : Accounts calls s) {effect : Effect} (hnumber : s.overflows effect = false) :
    Accounts (calls ++ [(effect, (s.respond effect).1)]) (s.respond effect).2 where
  tidy := h.tidy.respond hnumber
  created id app hstored := by
    rw [List.filterMap_append, List.mem_append]
    rcases h.tidy.stored_respond hnumber hstored with ⟨before, hbefore⟩ | ⟨-, hcreated⟩
    · exact .inl (h.created id before hbefore)
    · exact .inr (List.mem_filterMap.mpr ⟨_, List.mem_singleton_self _, hcreated⟩)
  dropped id hid := by
    rw [List.filterMap_append, List.mem_append] at hid
    have hmono : s.Numbered id → (s.respond effect).2.Numbered id :=
      fun hnumbered => hnumbered.mono (lastNumber_respond hnumber)
    rcases hid with hearlier | hnow
    · obtain ⟨hnumbered, hgone⟩ := h.dropped id hearlier
      refine ⟨hmono hnumbered, Option.eq_none_iff_forall_ne_some.mpr fun app hstored => ?_⟩
      rcases h.tidy.stored_respond hnumber hstored with ⟨before, hbefore⟩ | ⟨hnew, -⟩
      · exact absurd (hgone.symm.trans hbefore) (by simp)
      · exact hnew hnumbered
    · obtain ⟨_, hmem, hdropped⟩ := List.mem_filterMap.mp hnow
      obtain rfl := List.mem_singleton.mp hmem
      obtain ⟨hnumbered, hgone⟩ := h.tidy.dropped_respond effect hdropped
      exact ⟨hmono hnumbered, hgone⟩

theorem after (h : Accounts calls s) {events whole : List Event}
    (hevents : events <+: s.untilOverflow whole) :
    Accounts (calls ++ s.answered events) (s.after events) := by
  induction whole generalizing s calls events with
  | nil =>
    obtain rfl := List.prefix_nil.mp hevents
    rw [answered, List.append_nil]
    exact h
  | cons event rest ih =>
    cases events with
    | nil =>
      rw [answered, List.append_nil]
      exact h
    | cons first others =>
      cases event with
      | prepared preparation =>
        obtain ⟨rfl, hothers⟩ := List.cons_prefix_cons.mp hevents
        exact ih (h.prepare preparation) hothers
      | called effect =>
        rw [untilOverflow] at hevents
        split at hevents
        · exact absurd (List.prefix_nil.mp hevents) (List.cons_ne_nil _ _)
        · rename_i hnumber
          obtain ⟨rfl, hothers⟩ := List.cons_prefix_cons.mp hevents
          have hrest := ih (h.respond (Bool.eq_false_iff.mpr hnumber)) hothers
          rw [List.append_assoc] at hrest
          exact hrest

end Accounts

end Store

namespace Session

inductive Operation where
  | create (spec : Spec)
  | read (id : AppId) (declared : Option Spec)
  | update (prior : AppRecord) (desired : Spec)
  | delete (id : AppId)

inductive Step where
  | prepare (preparation : Preparation)
  | operate (settings : Settings) (cancelAt : Option Nat) (limit : Nat) (operation : Operation)

structure Trace where
  events : List Event
  world : World Store

def Trace.ofRun {α : Type} (run : PlanRun Store α) : Trace :=
  ⟨run.calls.map fun call => .called call.effect, run.world⟩

def Operation.run (settings : Settings) (setting : Setting Store) (w : World Store) : Operation → Trace
  | create spec => .ofRun ((Lifecycle.create settings spec).run setting w)
  | read id declared => .ofRun ((Lifecycle.read id declared).run setting w)
  | update prior desired => .ofRun ((Lifecycle.update settings prior desired).run setting w)
  | delete id => .ofRun ((Lifecycle.delete settings id).run setting w)

def Step.run (w : World Store) : Step → Trace
  | prepare preparation =>
    ⟨[.prepared preparation], { w with remote := w.remote.prepare preparation }⟩
  | operate settings cancelAt limit operation =>
    operation.run settings (Store.setting cancelAt limit) w

def run (w : World Store) : List Step → Trace
  | [] => ⟨[], w⟩
  | step :: rest =>
    let first := step.run w
    let others := run first.world rest
    ⟨first.events ++ others.events, others.world⟩

namespace Sample

def twins : Spec :=
  .basic "wordpress" "library" "wordpress"
    [(Target.declared ⟨"c-1:p-1"⟩).withInstance ⟨"shared"⟩,
      (Target.declared ⟨"c-2:p-1"⟩).withInstance ⟨"shared"⟩]

def swapped : Spec := { twins with targets := [.declared ⟨"c-1:p-1"⟩, .declared ⟨"c-3:p-3"⟩] }

def operate (operation : Operation) : Step := .operate .standard none 5 operation

-- The update is given up between what it removes and what it adds.
def steps : List Step :=
  [.prepare (.publish "library" "wordpress" ["7.3.8"]),
    .prepare (.queueCreateStates ["deploying"]),
    operate (.create twins),
    .prepare (.queueFailure "add projects" (.status 503 "try again")),
    operate (.update ⟨⟨"mcapp-1"⟩, twins⟩ swapped),
    operate (.create twins),
    operate (.delete ⟨"mcapp-1"⟩),
    operate (.delete ⟨"mcapp-2"⟩)]

end Sample

end Session

end MultiCluster
