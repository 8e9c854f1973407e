import Mathlib.Control.Monad.Basic
import MultiCluster.Api.Script
import MultiCluster.Api.Store
import MultiCluster.Proofs.Plan.Steps
import MultiCluster.Proofs.Plan.Turns

namespace MultiCluster

namespace Setting

variable {σ : Type} (s : Setting σ) (effect : Effect) (w : World σ)

def answer : Answered := (s.api.respond effect w.remote).answer

def after : World σ :=
  ⟨(s.api.respond effect w.remote).state, w.now + (s.api.respond effect w.remote).latency⟩

def made : Call := ⟨w.now, effect, some (s.answer effect w)⟩

end Setting

theorem Plan.run_call_eq {σ α : Type} (s : Setting σ) (effect : Effect) (next : Answered → Plan α)
    (w : World σ) : (call effect next).run s w =
      { (next (s.answer effect w)).run s (s.after effect w) with
        calls := s.made effect w :: ((next (s.answer effect w)).run s (s.after effect w)).calls } :=
  rfl

namespace Lifecycle

open Plan

variable {σ : Type} (s : Setting σ) (settings : Settings) (id : AppId) (w : World σ)

def removal (subject : Subject) : WaitRequest :=
  ⟨subject, .removed, settings.timeouts.delete, settings.poll⟩

def childRemovals (targets : List Target) : List WaitRequest :=
  targets.filterMap fun target => target.instanceId.map fun instanceId =>
    removal settings (.child target.project (.of target.project instanceId))

structure DeletionAccepted (app : App) : Prop where
  found : s.answer (.getApp id) w = .ok (.app app)
  accepted : (Effect.deleteApp id).accepts (s.answer (.deleteApp id) (s.after (.getApp id) w)) = true

def deleted : World σ := s.after (.deleteApp id) (s.after (.getApp id) w)

def appTurn : Turn σ := s.turn (removal settings (.app id)) (deleted s id w)

def childTurns (targets : List Target) : List (Turn σ) :=
  s.inTurn (childRemovals settings targets) (appTurn s settings id w).world

def confirmed (turns : List (Turn σ)) : Nat := turns.countP Turn.confirmed

def unconfirmed (turns : List (Turn σ)) : Nat := turns.countP (¬ ·.confirmed)

theorem confirmed_add_unconfirmed (turns : List (Turn σ)) :
    confirmed turns + unconfirmed turns = turns.length :=
  (List.length_eq_countP_add_countP Turn.confirmed).symm

-- A wait for a child app goes on for ever, without a deadline or on a clock that stands still.
def ChildHangs (targets : List Target) : Prop :=
  ∃ request ∈ childRemovals settings targets, ∃ begin,
    s.ComesTo (childRemovals settings targets) (appTurn s settings id w).world request begin ∧
    s.NeverEnds request begin ∧ (Clock.after? begin.now settings.timeouts.delete = none ∨
      ¬ settings.poll.Pauses ∧ s.StandsStill request begin)

theorem childRemovals_cons (target : Target) (rest : List Target) :
    childRemovals settings (target :: rest) = match target.instanceId with
      | none => childRemovals settings rest
      | some instanceId =>
        removal settings (.child target.project (.of target.project instanceId)) ::
          childRemovals settings rest := by
  cases h : target.instanceId <;> simp [childRemovals, h]

theorem removal_of_mem_childRemovals {targets : List Target} {request : WaitRequest}
    (h : request ∈ childRemovals settings targets) : ∃ subject, request = removal settings subject := by
  obtain ⟨target, _, hrequest⟩ := List.mem_filterMap.mp h
  obtain ⟨instanceId, _, rfl⟩ := Option.map_eq_some_iff.mp hrequest
  exact ⟨_, rfl⟩

theorem length_childRemovals (targets : List Target) :
    (childRemovals settings targets).length = targets.countP (·.instanceId.isSome) := by
  induction targets with
  | nil => rfl
  | cons target rest ih =>
    rw [childRemovals_cons, List.countP_cons, ← ih]
    cases target.instanceId <;> rfl

def tally : Except PollError String → Nat × Nat → Nat × Nat
  | .ok _, (confirmed, unconfirmed) => (confirmed + 1, unconfirmed)
  | .error _, (confirmed, unconfirmed) => (confirmed, unconfirmed + 1)

theorem awaitChildren_cons (target : Target) (rest : List Target) :
    awaitChildren settings (target :: rest) = match target.instanceId with
      | none => awaitChildren settings rest
      | some instanceId =>
        .await (removal settings (.child target.project (.of target.project instanceId))) fun result =>
          (awaitChildren settings rest).bind fun counts => .done (.ok (tally result counts)) := by
  rw [awaitChildren]
  cases target.instanceId with
  | none => rfl
  | some instanceId =>
    show Plan.await _ _ = Plan.await _ _
    congr 1
    funext result
    cases result <;> rfl

theorem tally_turn {request : WaitRequest} {w : World σ} {result : Except PollError String}
    (h : (s.wait request w).result = some result) (turns : List (Turn σ)) :
    tally result (confirmed turns, unconfirmed turns) =
      (confirmed (s.turn request w :: turns), unconfirmed (s.turn request w :: turns)) := by
  cases result <;> simp [tally, confirmed, unconfirmed, Turn.confirmed, Setting.turn, h]

def tallied (w : World σ) (turns : List (Turn σ)) : PlanRun σ (Nat × Nat) :=
  ⟨if turns.all Turn.ended then some (.ok (confirmed turns, unconfirmed turns)) else none,
    turns.flatMap Turn.calls, w.afterTurns turns⟩

theorem run_await_tally {p : Plan (Nat × Nat)} {requests : List WaitRequest}
    (hrest : ∀ w, p.run s w = tallied w (s.inTurn requests w)) (request : WaitRequest) :
    (Plan.await request fun result => p.bind fun counts => .done (.ok (tally result counts))).run s w =
      tallied w (s.inTurn (request :: requests) w) := by
  rw [Setting.inTurn_cons, run]
  cases hresult : (s.wait request w).result with
  | none =>
    have hended : (s.turn request w).ended = false := by simp [Turn.ended, Setting.turn, hresult]
    simp only [hended, Bool.false_eq_true, ↓reduceIte, tallied, List.all_cons, Bool.false_and,
      List.flatMap_cons, List.flatMap_nil, List.append_nil, World.afterTurns]
    rfl
  | some result =>
    have hended : (s.turn request w).ended = true := by simp [Turn.ended, Setting.turn, hresult]
    have hworld : (⟨(s.wait request w).state, (s.wait request w).endedAt⟩ : World σ) =
        (s.turn request w).world := rfl
    simp only [hended, ↓reduceIte, run_bind, hrest, andThen, tallied, List.all_cons, Bool.true_and,
      hworld]
    cases hall : (s.inTurn requests (s.turn request w).world).all Turn.ended with
    | false => rfl
    | true =>
      simp only [↓reduceIte, run, tally_turn s hresult, List.append_nil]
      rfl

theorem run_awaitChildren (targets : List Target) (w : World σ) :
    (awaitChildren settings targets).run s w =
      tallied w (s.inTurn (childRemovals settings targets) w) := by
  induction targets generalizing w with
  | nil => rfl
  | cons target rest ih =>
    rw [childRemovals_cons, awaitChildren_cons]
    cases target.instanceId with
    | none => exact ih w
    | some instanceId => exact run_await_tally s w ih _

def removeChildren (targets : List Target) : Plan DeleteOutcome :=
  (awaitChildren settings targets).bind fun counts =>
    settle settings.poll.settleDelay (done (.ok (.removed counts.1 counts.2)))

theorem delete_eq : delete settings id = call (.getApp id) fun
    | .ok response => (checked (response.toApp "get multi-cluster app")).bind fun app =>
      (perform (.deleteApp id)).bind fun response =>
        (checked (response.acknowledgedDeletion "delete multi-cluster app")).bind fun _ =>
          (converge settings id .removed settings.timeouts.delete "delete").bind fun _ =>
            removeChildren settings app.targets
    | .error e => if e.isAbsent then done (.ok .alreadyAbsent) else done (.error (.api e)) := by
  show (findApp id).bind _ = _
  rw [findApp_bind]
  rfl

variable {s settings id w} {app : App}

theorem acknowledgedDeletion_of_accepts {answer : Answered} (operation : String)
    (h : (Effect.deleteApp id).accepts answer = true) :
    ∃ response, answer = .ok response ∧ response.acknowledgedDeletion operation = .ok () := by
  cases answer with
  | error e => simp [Effect.accepts] at h
  | ok response =>
    refine ⟨response, rfl, ?_⟩
    cases response with
    | deleted => rfl
    | actionAccepted => rfl
    | _ => simp [Effect.accepts] at h

theorem run_delete (h : DeletionAccepted s id w app) :
    let rest := ((converge settings id .removed settings.timeouts.delete "delete").bind fun _ =>
      removeChildren settings app.targets).run s (deleted s id w)
    (delete settings id).run s w = { rest with
      calls :=
        s.made (.getApp id) w :: s.made (.deleteApp id) (s.after (.getApp id) w) :: rest.calls } := by
  obtain ⟨response, hanswer, hdeleted⟩ :=
    acknowledgedDeletion_of_accepts "delete multi-cluster app" h.accepted
  have happ : checked ((Response.app app).toApp "get multi-cluster app") = done (.ok app) := rfl
  have hchecked : checked (response.acknowledgedDeletion "delete multi-cluster app") = done (.ok ()) := by
    rw [hdeleted]
    rfl
  simp only [delete_eq, run_call_eq, h.found, happ, done_ok_bind, perform_bind, hanswer, hchecked]
  rfl

theorem converge_bind {α : Type} (operation : String) (f : Unit → Plan α) :
    (converge settings id .removed settings.timeouts.delete operation).bind f =
      await (removal settings (.app id)) fun
        | .ok _ => f ()
        | .error e => done (.error (.wait id operation e)) := by
  show await _ _ = await _ _
  congr 1
  funext result
  cases result <;> rfl

theorem run_converge_bind {α : Type} (operation : String) (f : Unit → Plan α) (w : World σ) :
    let turn := s.turn (removal settings (.app id)) w
    ((converge settings id .removed settings.timeouts.delete operation).bind f).run s w =
      match turn.run.result with
      | none => ⟨none, turn.calls, turn.world⟩
      | some (.error e) => ⟨some (.error (.wait id operation e)), turn.calls, turn.world⟩
      | some (.ok _) =>
        { (f ()).run s turn.world with calls := turn.calls ++ ((f ()).run s turn.world).calls } := by
  intro turn
  rw [converge_bind, run]
  cases hresult : (s.wait (removal settings (.app id)) w).result with
  | none =>
    simp only [turn, Setting.turn, hresult]
    rfl
  | some result =>
    cases result with
    | ok state =>
      simp only [turn, Setting.turn, hresult]
      rfl
    | error e =>
      simp only [turn, Setting.turn, hresult, run, List.append_nil]
      rfl

theorem run_removeChildren (targets : List Target) (w : World σ) :
    let turns := s.inTurn (childRemovals settings targets) w
    let last := w.afterTurns turns
    (removeChildren settings targets).run s w =
      ⟨if turns.all Turn.ended then some (.ok (.removed (confirmed turns) (unconfirmed turns))) else none,
        turns.flatMap Turn.calls,
        if turns.all Turn.ended then ⟨last.remote, s.settled settings.poll.settleDelay last.now⟩
        else last⟩ := by
  intro turns last
  rw [removeChildren, run_bind, run_awaitChildren, tallied, andThen]
  cases turns.all Turn.ended with
  | false => simp [turns, last]
  | true => simp [turns, last, run]

theorem run_delete_of_failed {e : PollError} (h : DeletionAccepted s id w app)
    (hfailed : (appTurn s settings id w).run.result = some (.error e)) :
    (delete settings id).run s w = ⟨some (.error (.wait id "delete" e)),
      s.made (.getApp id) w :: s.made (.deleteApp id) (s.after (.getApp id) w) ::
        (appTurn s settings id w).calls, (appTurn s settings id w).world⟩ := by
  have hfailed' : (s.turn (removal settings (.app id)) (deleted s id w)).run.result = some (.error e) :=
    hfailed
  simp only [run_delete h, run_converge_bind, hfailed']
  rfl

theorem run_delete_of_removed {state : String} (h : DeletionAccepted s id w app)
    (hgone : (appTurn s settings id w).run.result = some (.ok state)) :
    let parent := appTurn s settings id w
    let turns := childTurns s settings id w app.targets
    let last := parent.world.afterTurns turns
    (delete settings id).run s w =
      ⟨if turns.all Turn.ended then some (.ok (.removed (confirmed turns) (unconfirmed turns))) else none,
        s.made (.getApp id) w :: s.made (.deleteApp id) (s.after (.getApp id) w) ::
          (parent.calls ++ turns.flatMap Turn.calls),
        if turns.all Turn.ended then ⟨last.remote, s.settled settings.poll.settleDelay last.now⟩
        else last⟩ := by
  have hgone' : (s.turn (removal settings (.app id)) (deleted s id w)).run.result =
      some (.ok state) := hgone
  simp only [run_delete h, run_converge_bind, hgone', run_removeChildren]
  rfl

theorem settled_le (pause : Duration) {now instant : Nat} (hnow : now ≤ Clock.roundUp instant) :
    s.settled pause now ≤ Clock.roundUp instant + Clock.roundUp pause.nanos := by
  have hwake : Clock.wake now pause.nanos ≤ Clock.roundUp instant + Clock.roundUp pause.nanos := by
    refine Nat.le_trans (Clock.roundUp_add_le _ _) (Nat.add_le_add (Clock.roundUp_le_roundUp hnow) ?_)
    exact Clock.roundUp_mono (Nat.min_le_left _ _)
  cases hcancel : Clock.cancelledBy s.cancelAt (Clock.wake now pause.nanos) with
  | none =>
    simp only [Setting.settled, hcancel]
    exact hwake
  | some c =>
    have hle := (Clock.cancelledBy_eq_some_iff.mp hcancel).2
    simp only [Setting.settled, hcancel]
    omega

theorem confirmed_add_unconfirmed_childTurns {targets : List Target}
    (hended : (childTurns s settings id w targets).all Turn.ended = true) :
    confirmed (childTurns s settings id w targets) + unconfirmed (childTurns s settings id w targets) =
      targets.countP (·.instanceId.isSome) := by
  have hrequests : (childTurns s settings id w targets).map Turn.request =
      childRemovals settings targets := Setting.requests_inTurn hended
  rw [confirmed_add_unconfirmed, ← length_childRemovals settings, ← hrequests, List.length_map]

theorem now_childTurns_le {targets : List Target}
    (hinstant : ∀ effect state, (s.api.respond effect state).latency = 0)
    (hdeadline : ∀ turn ∈ appTurn s settings id w :: childTurns s settings id w targets,
      turn.deadline ≠ none) :
    ((appTurn s settings id w).world.afterTurns (childTurns s settings id w targets)).now ≤
      Clock.roundUp w.now + (1 + (childTurns s settings id w targets).length) *
        Clock.roundUp settings.timeouts.delete.nanos := by
  have hstart : (deleted s id w).now = w.now := by
    simp only [deleted, Setting.after, hinstant, Nat.add_zero]
  have hparent : Clock.roundUp (appTurn s settings id w).world.now ≤
      Clock.roundUp w.now + Clock.roundUp settings.timeouts.delete.nanos := by
    have hturn := Setting.now_turn_le hinstant (hdeadline _ List.mem_cons_self)
    rw [hstart] at hturn
    exact Nat.le_trans (Clock.roundUp_le_roundUp hturn) (Clock.roundUp_add_le _ _)
  have htimeout (request) (h : request ∈ childRemovals settings targets) :
      request.timeout.nanos = settings.timeouts.delete.nanos := by
    obtain ⟨subject, rfl⟩ := removal_of_mem_childRemovals settings h
    rfl
  have hchildren := Setting.now_afterTurns_le settings.timeouts.delete.nanos hinstant htimeout
    fun turn hturn => hdeadline turn (List.mem_cons_of_mem _ hturn)
  rw [Nat.add_mul, Nat.one_mul, ← Nat.add_assoc]
  exact Nat.le_trans hchildren (Nat.add_le_add_right hparent _)

theorem appTurn_allowing {state : String} {rounds : Nat}
    (hgone : (appTurn s settings id w).run.result = some (.ok state)) (hrounds : s.rounds ≤ rounds) :
    appTurn (s.allowing rounds) settings id w = appTurn s settings id w :=
  Setting.turn_of_ended hrounds (by rw [Turn.ended]; exact congrArg Option.isSome hgone)

theorem result_delete_allowing {state : String} {rounds : Nat} (h : DeletionAccepted s id w app)
    (hgone : (appTurn s settings id w).run.result = some (.ok state)) (hrounds : s.rounds ≤ rounds) :
    let turns := (s.allowing rounds).inTurn (childRemovals settings app.targets)
      (appTurn s settings id w).world
    ((delete settings id).run (s.allowing rounds) w).result =
      if turns.all Turn.ended then some (.ok (.removed (confirmed turns) (unconfirmed turns)))
      else none := by
  have happ := appTurn_allowing hgone hrounds
  have haccepted : DeletionAccepted (s.allowing rounds) id w app := ⟨h.found, h.accepted⟩
  rw [run_delete_of_removed haccepted (happ ▸ hgone), childTurns, happ]

theorem result_delete_of_open {state : String} {rounds : Nat} (h : DeletionAccepted s id w app)
    (hgone : (appTurn s settings id w).run.result = some (.ok state)) (hrounds : s.rounds ≤ rounds)
    (hopen : ((s.allowing rounds).inTurn (childRemovals settings app.targets)
      (appTurn s settings id w).world).all Turn.ended = false) :
    ((delete settings id).run (s.allowing rounds) w).result = none := by
  rw [result_delete_allowing h hgone hrounds, hopen, if_neg Bool.false_ne_true]

theorem delete_settles {state : String} (h : DeletionAccepted s id w app)
    (hgone : (appTurn s settings id w).run.result = some (.ok state)) :
    (∃ gone others, gone + others = app.targets.countP (·.instanceId.isSome) ∧
        ∃ n, ∀ rounds ≥ n,
          ((delete settings id).run (s.allowing rounds) w).result = some (.ok (.removed gone others))) ∨
      ChildHangs s settings id w app.targets ∧
        ∀ rounds ≥ s.rounds, ((delete settings id).run (s.allowing rounds) w).result = none := by
  rcases s.inTurn_settles (childRemovals settings app.targets) (appTurn s settings id w).world with
    ⟨turns, hall, n, hturns⟩ | ⟨⟨request, hrequest, begin, hcomes, hnever⟩, hopen⟩
  · have hcount : confirmed turns + unconfirmed turns = app.targets.countP (·.instanceId.isSome) := by
      rw [confirmed_add_unconfirmed, ← length_childRemovals settings]
      rw [← hturns n (Nat.le_refl n)] at hall ⊢
      rw [← List.length_map Turn.request, Setting.requests_inTurn hall]
    refine .inl ⟨_, _, hcount, max s.rounds n, fun rounds hrounds => ?_⟩
    rw [result_delete_allowing h hgone (Nat.le_trans (Nat.le_max_left _ _) hrounds),
      hturns rounds (Nat.le_trans (Nat.le_max_right _ _) hrounds), if_pos hall]
  · obtain ⟨subject, rfl⟩ := removal_of_mem_childRemovals settings hrequest
    exact .inr ⟨⟨_, hrequest, begin, hcomes, hnever, hnever.cause⟩, fun rounds hrounds =>
      result_delete_of_open h hgone hrounds (hopen rounds)⟩

theorem delete_waits_for_children {state : String} (h : DeletionAccepted s id w app)
    (hgone : (appTurn s settings id w).run.result = some (.ok state)) :
    let parent := appTurn s settings id w
    let turns := childTurns s settings id w app.targets
    let run := (delete settings id).run s w
    run.calls = s.made (.getApp id) w :: s.made (.deleteApp id) (s.after (.getApp id) w) ::
        (parent.calls ++ turns.flatMap Turn.calls) ∧
      run.result = (if turns.all Turn.ended then
        some (.ok (.removed (confirmed turns) (unconfirmed turns))) else none) ∧
      turns.map Turn.request <+: childRemovals settings app.targets ∧
      (turns.all Turn.ended = true → turns.map Turn.request = childRemovals settings app.targets ∧
        confirmed turns + unconfirmed turns = app.targets.countP (·.instanceId.isSome)) ∧
      ((∀ effect state, (s.api.respond effect state).latency = 0) →
        (∀ turn ∈ parent :: turns, turn.deadline ≠ none) →
        run.world.now ≤ Clock.roundUp w.now + (1 + confirmed turns + unconfirmed turns) *
          Clock.roundUp settings.timeouts.delete.nanos +
          Clock.roundUp settings.poll.settleDelay.nanos) ∧
      ((∃ gone others, gone + others = app.targets.countP (·.instanceId.isSome) ∧
          ∃ n, ∀ rounds ≥ n, ((delete settings id).run (s.allowing rounds) w).result =
            some (.ok (.removed gone others))) ∨
        ChildHangs s settings id w app.targets ∧
          ∀ rounds ≥ s.rounds, ((delete settings id).run (s.allowing rounds) w).result = none) := by
  intro parent turns run
  have hrun : run = _ := run_delete_of_removed h hgone
  refine ⟨by rw [hrun], by rw [hrun], Setting.requests_inTurn_prefix _ _, fun hall =>
    ⟨Setting.requests_inTurn hall, confirmed_add_unconfirmed_childTurns hall⟩,
    fun hinstant hdeadline => ?_, delete_settles h hgone⟩
  have hlast := now_childTurns_le hinstant hdeadline
  have hcounts : 1 + confirmed turns + unconfirmed turns = 1 + turns.length := by
    rw [Nat.add_assoc, confirmed_add_unconfirmed]
  have hwhole : Clock.roundUp w.now + (1 + turns.length) * Clock.roundUp settings.timeouts.delete.nanos =
      Clock.roundUp (w.now + (1 + turns.length) * Clock.roundUp settings.timeouts.delete.nanos) :=
    (Clock.roundUp_add_of_dvd (Nat.dvd_mul_left_of_dvd (Clock.dvd_roundUp _) _)).symm
  rw [hcounts, hrun, hwhole]
  rw [hwhole] at hlast
  simp only
  split
  · exact settled_le _ hlast
  · exact Nat.le_trans hlast (Nat.le_add_right _ _)

namespace Sample

def spread : App :=
  { Store.sampleApp with targets :=
    [(Target.declared ⟨"c-1:p-1"⟩).withInstance ⟨"wordpress-1"⟩, .declared ⟨"c-1:p-2"⟩,
      (Target.declared ⟨"c-1:p-3"⟩).withInstance ⟨"wordpress-3"⟩] }

def halfGone : Store :=
  { (Store.empty.putApp ⟨"mcapp-1"⟩ spread).insertChildApp
      ⟨.of ⟨"c-1:p-3"⟩ ⟨"wordpress-3"⟩, State.active⟩ with keepsChildren := true }

end Sample

theorem delete_waits_for_children_when_one_stays :
    let s : Setting Store := ⟨Store.api, none, 2⟩
    let w : World Store := ⟨Sample.halfGone, 0⟩
    let id : AppId := ⟨"mcapp-1"⟩
    DeletionAccepted s id w Sample.spread ∧
      (appTurn s .standard id w).run.result = some (.ok State.removed) ∧
      ((delete .standard id).run s w).result = some (.ok (.removed 1 1)) ∧
      ((delete .standard id).run s w).world.now ≤ 1805 * nanosPerSecond := by
  intro s w id
  have haccepted : DeletionAccepted s id w Sample.spread :=
    ⟨by decide +kernel, by decide +kernel⟩
  have hgone : (appTurn s .standard id w).run.result = some (.ok State.removed) := by decide +kernel
  obtain ⟨-, hresult, -, -, hbound, -⟩ := delete_waits_for_children haccepted hgone
  have hcounts : confirmed (childTurns s .standard id w Sample.spread.targets) = 1 ∧
      unconfirmed (childTurns s .standard id w Sample.spread.targets) = 1 := by decide +kernel
  have hended : (childTurns s .standard id w Sample.spread.targets).all Turn.ended = true := by
    decide +kernel
  have hdeadline : ∀ turn ∈ appTurn s .standard id w ::
      childTurns s .standard id w Sample.spread.targets, turn.deadline ≠ none := by decide +kernel
  rw [hcounts.1, hcounts.2, if_pos hended] at hresult
  have htime := hbound (fun _ _ => rfl) hdeadline
  rw [hcounts.1, hcounts.2] at htime
  exact ⟨haccepted, hgone, hresult, Nat.le_trans htime (by decide +kernel)⟩

namespace Sample

def absent : Answered := .error (.notFound "no such app")

def leaving (project : ProjectId) (instanceId : InstanceId) : Answered :=
  .ok (.childApp ⟨.of project instanceId, State.removing⟩)

def lingering : Script Answered :=
  ⟨[⟨.ok (.app spread), 0⟩, ⟨.ok .deleted, 0⟩, ⟨absent, 0⟩,
    ⟨leaving ⟨"c-1:p-1"⟩ ⟨"wordpress-1"⟩, 0⟩], true⟩

def endless : Settings :=
  { Settings.standard with timeouts := { Timeouts.standard with delete := .longest } }

def firstRemoval : WaitRequest := removal endless (.child ⟨"c-1:p-1"⟩ (.of ⟨"c-1:p-1"⟩ ⟨"wordpress-1"⟩))

def lingered : Script Answered := ⟨[⟨leaving ⟨"c-1:p-1"⟩ ⟨"wordpress-1"⟩, 0⟩], true⟩

theorem neverEnds_firstRemoval {w : World (Script Answered)} (hremote : w.remote = lingered)
    (hlate : Clock.after? w.now Duration.longest = none) (rounds : Nat) :
    ((⟨Script.api, none, rounds⟩ : Setting (Script Answered)).turn firstRemoval w).ended = false := by
  have hopen :
      ((⟨Script.api, none, rounds⟩ : Setting (Script Answered)).wait firstRemoval w).result = none := by
    obtain ⟨remote, now⟩ := w
    obtain rfl := hremote
    exact Source.rounds_of_no_deadline (s := firstRemoval.subject.source Script.api)
      (t := (⟨Script.api, none, rounds⟩ : Setting (Script Answered)).terms firstRemoval now) rfl hlate
      rfl (fun _ => ⟨⟨some State.removing, 0⟩, rfl⟩) rounds
  rw [Turn.ended, Setting.turn, hopen, Option.isSome_none]

def hasty : Settings where
  poll := { PollConfig.standard with settleDelay := .zero }
  timeouts := { Timeouts.standard with delete := .ofNanos 500000 }

end Sample

theorem delete_outlasts_its_timeouts :
    let s (rounds : Nat) : Setting (Script Answered) := ⟨Script.api, none, rounds⟩
    let w : World (Script Answered) := ⟨Sample.lingering, 0⟩
    let id : AppId := ⟨"mcapp-1"⟩
    (∀ rounds, DeletionAccepted (s rounds) id w Sample.spread) ∧
      (∀ rounds > 0, (appTurn (s rounds) Sample.endless id w).run.result = some (.ok State.removed) ∧
        ((delete Sample.endless id).run (s rounds) w).result = none) ∧
      (appTurn (s 2) Sample.hasty id w).run.result = some (.ok State.removed) ∧
      ((delete Sample.hasty id).run (s 2) w).result = some (.ok (.removed 0 2)) ∧
      ((delete Sample.hasty id).run (s 2) w).world.now = 2000000 ∧
      (1 + 0 + 2) * Sample.hasty.timeouts.delete.nanos + Sample.hasty.poll.settleDelay.nanos = 1500000 := by
  intro s w id
  have haccepted : DeletionAccepted (s 1) id w Sample.spread := ⟨by decide +kernel, by decide +kernel⟩
  have hgone : (appTurn (s 1) Sample.endless id w).run.result = some (.ok State.removed) := by
    decide +kernel
  refine ⟨fun _ => ⟨haccepted.found, haccepted.accepted⟩, fun rounds hrounds => ⟨?_, ?_⟩,
    by decide +kernel, by decide +kernel, by decide +kernel, by decide +kernel⟩
  · have happ : appTurn (s rounds) Sample.endless id w = _ := appTurn_allowing (s := s 1) hgone hrounds
    rw [happ, hgone]
  · refine result_delete_of_open (s := s 1) haccepted hgone hrounds ?_
    have hfirst : ((s rounds).turn Sample.firstRemoval (appTurn (s 1) Sample.endless id w).world).ended =
        false := Sample.neverEnds_firstRemoval (by decide +kernel) (by decide +kernel) rounds
    have hremovals : childRemovals Sample.endless Sample.spread.targets = Sample.firstRemoval ::
        (childRemovals Sample.endless Sample.spread.targets).tail := rfl
    rw [hremovals, Setting.inTurn_cons, List.all_cons, Bool.and_eq_false_iff]
    exact .inl hfirst

end Lifecycle

end MultiCluster
