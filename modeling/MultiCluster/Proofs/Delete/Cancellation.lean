import MultiCluster.Api.Script
import MultiCluster.Proofs.Delete.Children
import MultiCluster.Proofs.Polling.Cancellation

namespace MultiCluster

namespace Setting

variable {σ : Type}

def neverCancelled (s : Setting σ) : Setting σ := { s with cancelAt := none }

def cancelledAt (s : Setting σ) (c : Nat) : Setting σ := { s with cancelAt := some c }

variable {s : Setting σ} {c : Nat} {request : WaitRequest} {w : World σ}

theorem turn_cancelledAt_of_lt (h : (s.neverCancelled.turn request w).run.endedAt < c) :
    (s.cancelledAt c).turn request w = s.neverCancelled.turn request w :=
  congrArg (Turn.mk request w.now) (Source.wait_cancelledAt_of_lt (t := s.terms request w.now) h)

theorem turn_cancelledAt_of_le (hrounds : 0 < s.rounds)
    (h : c ≤ (s.neverCancelled.turn request w).run.endedAt) :
    ((s.cancelledAt c).turn request w).run.result = some (.error .cancelled) ∧
      ((s.cancelledAt c).turn request w).run.endedAt = max w.now c := by
  obtain ⟨hresult, hended, -⟩ :=
    Source.wait_cancelledAt_of_le (t := s.terms request w.now) hrounds h
  exact ⟨hresult, hended⟩

theorem turn_cancelledAt_late (hrounds : 0 < s.rounds) (hlate : c ≤ w.now) :
    (s.cancelledAt c).turn request w =
      ⟨request, w.now, ⟨some (.error .cancelled), [], w.remote, w.now⟩⟩ :=
  congrArg (Turn.mk request w.now)
    (Source.wait_cancelledAt_late (t := s.terms request w.now) hrounds hlate)

end Setting

namespace Lifecycle

open Setting

variable {σ : Type} {s : Setting σ} {c : Nat} {w : World σ}

def confirmedBefore (c : Nat) (turns : List (Turn σ)) : Nat :=
  turns.countP fun turn => turn.confirmed && turn.run.endedAt < c

theorem confirmedBefore_of_lt {turns : List (Turn σ)} (h : ∀ turn ∈ turns, turn.run.endedAt < c) :
    confirmedBefore c turns = confirmed turns :=
  List.countP_congr fun turn hturn => by simp [h turn hturn]

theorem confirmedBefore_of_le {turns : List (Turn σ)} (h : ∀ turn ∈ turns, c ≤ turn.run.endedAt) :
    confirmedBefore c turns = 0 :=
  List.countP_eq_zero.mpr fun turn hturn => by simp [h turn hturn]

theorem inTurn_cancelledAt_late (hrounds : 0 < s.rounds) (hlate : c ≤ w.now)
    (requests : List WaitRequest) :
    ((s.cancelledAt c).inTurn requests w).all Turn.ended = true ∧
      confirmed ((s.cancelledAt c).inTurn requests w) = 0 ∧
      w.afterTurns ((s.cancelledAt c).inTurn requests w) = w := by
  induction requests with
  | nil => exact ⟨rfl, rfl, rfl⟩
  | cons request rest ih =>
    rw [inTurn_cons, turn_cancelledAt_late hrounds hlate]
    exact ih

theorem inTurn_cancelledAt_of_lt {requests : List WaitRequest}
    (h : ∀ turn ∈ s.neverCancelled.inTurn requests w, turn.run.endedAt < c) :
    (s.cancelledAt c).inTurn requests w = s.neverCancelled.inTurn requests w := by
  induction requests generalizing w with
  | nil => rfl
  | cons request rest ih =>
    rw [inTurn_cons] at h
    rw [inTurn_cons, inTurn_cons, turn_cancelledAt_of_lt (h _ List.mem_cons_self)]
    split
    · rename_i hended
      rw [if_pos hended] at h
      rw [ih fun turn hturn => h turn (List.mem_cons_of_mem _ hturn)]
    · rfl

structure CutShort (c : Nat) (w : World σ) (whole cut : List (Turn σ)) : Prop where
  all_ended : cut.all Turn.ended = true
  confirmed_eq : confirmed cut = confirmedBefore c whole
  now_eq : (w.afterTurns cut).now = c
  le_now : c ≤ (w.afterTurns whole).now

theorem CutShort.cons {turn : Turn σ} {whole cut : List (Turn σ)} (hended : turn.ended = true)
    (hbefore : turn.run.endedAt < c) (h : CutShort c turn.world whole cut) :
    CutShort c w (turn :: whole) (turn :: cut) where
  all_ended := by rw [List.all_cons, hended, h.all_ended, Bool.and_self]
  confirmed_eq := by
    have hrest := h.confirmed_eq
    simp only [confirmed, confirmedBefore] at hrest
    simp only [confirmed, confirmedBefore, List.countP_cons, hrest, hbefore, decide_true, Bool.and_true]
  now_eq := h.now_eq
  le_now := h.le_now

theorem cutShort_of_le {request : WaitRequest} (hrounds : 0 < s.rounds) (hbefore : w.now < c)
    (h : c ≤ (s.neverCancelled.turn request w).run.endedAt) (rest : List WaitRequest) :
    CutShort c w (s.neverCancelled.inTurn (request :: rest) w)
      ((s.cancelledAt c).inTurn (request :: rest) w) := by
  obtain ⟨hresult, hended⟩ := turn_cancelledAt_of_le hrounds h
  have hclock : ((s.cancelledAt c).turn request w).world.now = c := by
    rw [Turn.world, hended, Nat.max_eq_right (Nat.le_of_lt hbefore)]
  have hover : ((s.cancelledAt c).turn request w).ended = true := by
    rw [Turn.ended, hresult, Option.isSome_some]
  have hopen : ((s.cancelledAt c).turn request w).confirmed = false := by
    rw [Turn.confirmed, hresult]
  obtain ⟨hall, hcount, hlast⟩ := inTurn_cancelledAt_late hrounds (Nat.le_of_eq hclock.symm) rest
  refine ⟨?_, ?_, ?_, Nat.le_trans h (first_le_afterTurns rest)⟩
  · rw [inTurn_cons, if_pos hover, List.all_cons, hover, hall, Bool.and_self]
  · rw [confirmedBefore_of_le fun turn hturn => Nat.le_trans h (first_le_inTurn hturn), inTurn_cons,
      if_pos hover, confirmed, List.countP_cons_of_neg (by simp [hopen])]
    exact hcount
  · rw [inTurn_cons, if_pos hover, World.afterTurns, hlast, hclock]

theorem inTurn_cancelledAt_of_le (hrounds : 0 < s.rounds) {requests : List WaitRequest}
    (hbefore : w.now < c) (h : ∃ turn ∈ s.neverCancelled.inTurn requests w, c ≤ turn.run.endedAt) :
    CutShort c w (s.neverCancelled.inTurn requests w) ((s.cancelledAt c).inTurn requests w) := by
  induction requests generalizing w with
  | nil => simp [inTurn] at h
  | cons request rest ih =>
    by_cases hfirst : (s.neverCancelled.turn request w).run.endedAt < c
    · obtain ⟨late, hlate, hle⟩ := h
      have hmem := (List.mem_cons.mp hlate).resolve_left fun heq =>
        absurd (heq ▸ hle) (Nat.not_le.mpr hfirst)
      split at hmem
      · rename_i hended
        rw [inTurn_cons, inTurn_cons, turn_cancelledAt_of_lt hfirst, if_pos hended, if_pos hended]
        exact (ih hfirst ⟨late, hmem, hle⟩).cons hended hfirst
      · exact absurd hmem List.not_mem_nil
    · exact cutShort_of_le hrounds hbefore (Nat.le_of_not_lt hfirst) rest

theorem inTurn_comes_to (s : Setting σ) (requests : List WaitRequest) {w : World σ} (hbefore : w.now < c) :
    (∃ n, ∀ rounds ≥ n, ∀ turn ∈ (s.allowing rounds).neverCancelled.inTurn requests w,
        turn.ended = true ∨ c ≤ turn.run.endedAt) ∨
      (∃ request ∈ requests, ¬ request.config.Pauses ∧
        ∃ begin, s.neverCancelled.ComesTo requests w request begin ∧ begin.now < c ∧
          s.neverCancelled.StandsStill request begin) ∧
        ∀ rounds, (((s.allowing rounds).cancelledAt c).inTurn requests w).all Turn.ended = false := by
  induction requests generalizing w with
  | nil => exact .inl ⟨0, fun _ _ _ hturn => absurd hturn List.not_mem_nil⟩
  | cons request rest ih =>
    by_cases hlate : ∃ n, c ≤ ((s.allowing n).neverCancelled.turn request w).run.endedAt
    · obtain ⟨n, hlate⟩ := hlate
      refine .inl ⟨n, fun rounds hrounds turn hturn => .inr (Nat.le_trans hlate ?_)⟩
      exact Nat.le_trans (endedAt_le_allowing (s := s.neverCancelled) hrounds) (first_le_inTurn hturn)
    have hfirst (rounds : Nat) : ((s.allowing rounds).neverCancelled.turn request w).run.endedAt < c :=
      Nat.lt_of_not_le fun hle => hlate ⟨rounds, hle⟩
    have hcut (rounds : Nat) : ((s.allowing rounds).cancelledAt c).turn request w =
        (s.allowing rounds).neverCancelled.turn request w := turn_cancelledAt_of_lt (hfirst rounds)
    by_cases hends : ∃ n, ((s.allowing n).neverCancelled.turn request w).ended = true
    · obtain ⟨n, hended⟩ := hends
      rcases ih (w := ((s.allowing n).neverCancelled.turn request w).world) (hfirst n) with
        ⟨m, hturns⟩ | ⟨⟨still, hmem, hrestless, begin, hcomes, hstill⟩, hopen⟩
      · refine .inl ⟨max n m, fun rounds hrounds turn hturn => ?_⟩
        have hsame : (s.allowing rounds).neverCancelled.turn request w =
            (s.allowing n).neverCancelled.turn request w :=
          turn_of_ended (s := s.neverCancelled) (Nat.le_trans (Nat.le_max_left n m) hrounds) hended
        rw [inTurn_cons, hsame] at hturn
        rcases List.mem_cons.mp hturn with rfl | hlater
        · exact .inl hended
        · rw [if_pos hended] at hlater
          exact hturns rounds (Nat.le_trans (Nat.le_max_right n m) hrounds) turn hlater
      · refine .inr ⟨⟨still, List.mem_cons_of_mem _ hmem, hrestless, begin,
          ComesTo.cons (s := s.neverCancelled) hended hcomes, hstill⟩, ?_⟩
        have hsame : ((s.cancelledAt c).allowing n).turn request w = _ := hcut n
        exact inTurn_open_of_rest (hsame.symm ▸ hended) (hsame.symm ▸ hopen)
    · have hnever (rounds : Nat) : ((s.allowing rounds).neverCancelled.turn request w).ended = false :=
        Bool.eq_false_iff.mpr fun hended => hends ⟨rounds, hended⟩
      obtain ⟨hrestless, hstill⟩ := standsStill_of_lt (s := s.neverCancelled)
        fun rounds _ => ⟨hnever rounds, hfirst rounds⟩
      refine .inr ⟨⟨request, List.mem_cons_self, hrestless, w, .head rest, hbefore, hstill⟩,
        fun rounds => ?_⟩
      rw [inTurn_cons, hcut, List.all_cons, hnever rounds, Bool.false_and]

theorem le_settled_neverCancelled (s : Setting σ) (pause : Duration) (now : Nat) :
    now ≤ s.neverCancelled.settled pause now :=
  Clock.le_wake now pause.nanos

theorem settled_cancelledAt {now : Nat} (hbefore : now ≤ c) (pause : Duration) :
    (s.cancelledAt c).settled pause now = min c (s.neverCancelled.settled pause now) := by
  have hwhole : s.neverCancelled.settled pause now = Clock.wake now pause.nanos := rfl
  rw [hwhole]
  rcases Nat.lt_or_ge (Clock.wake now pause.nanos) c with hwake | hwake
  · rw [Nat.min_eq_right (Nat.le_of_lt hwake)]
    simp only [settled, Setting.cancelledAt, Clock.cancelledBy_of_lt hwake]
  · rw [Nat.min_eq_left hwake]
    simp only [settled, Setting.cancelledAt, Clock.cancelledBy_of_le hwake]
    exact Nat.max_eq_right hbefore

variable {settings : Settings} {id : AppId} {app : App} {state : String}

theorem childTurns_cancelledAt (h : (appTurn s.neverCancelled settings id w).run.endedAt < c)
    (targets : List Target) : childTurns (s.cancelledAt c) settings id w targets =
      (s.cancelledAt c).inTurn (childRemovals settings targets)
        (appTurn s.neverCancelled settings id w).world := by
  have happ : appTurn (s.cancelledAt c) settings id w = appTurn s.neverCancelled settings id w :=
    turn_cancelledAt_of_lt h
  rw [childTurns, happ]

theorem startedAt_lt_of_mem_childTurns {turn : Turn σ} {call : Call} {targets : List Target}
    (hturn : turn ∈ childTurns (s.cancelledAt c) settings id w targets) (hcall : call ∈ turn.calls) :
    call.startedAt < c := by
  obtain ⟨-, begin, hbegin⟩ := mem_inTurn hturn
  rw [hbegin] at hcall
  exact startedAt_lt_of_mem_calls rfl hcall

theorem DeletionAccepted.cancelledAt (h : DeletionAccepted s id w app) (c : Nat) :
    DeletionAccepted (s.cancelledAt c) id w app :=
  ⟨h.found, h.accepted⟩

theorem DeletionAccepted.neverCancelled (h : DeletionAccepted s id w app) :
    DeletionAccepted s.neverCancelled id w app :=
  ⟨h.found, h.accepted⟩

theorem rounds_pos (hgone : (appTurn s.neverCancelled settings id w).run.result = some (.ok state)) :
    0 < s.rounds := by
  refine Nat.pos_of_ne_zero fun hzero => ?_
  have hnone : (appTurn s.neverCancelled settings id w).run.result = none := by
    simp only [appTurn, turn, Setting.wait, Source.wait, Setting.neverCancelled, hzero, Source.rounds]
  rw [hgone] at hnone
  exact Option.some_ne_none _ hnone

theorem appTurn_cancelledAt (hlate : (appTurn s.neverCancelled settings id w).run.endedAt < c) :
    appTurn (s.cancelledAt c) settings id w = appTurn s.neverCancelled settings id w :=
  turn_cancelledAt_of_lt hlate

theorem delete_cancelled_early (h : DeletionAccepted s id w app)
    (hgone : (appTurn s.neverCancelled settings id w).run.result = some (.ok state))
    (hearly : c ≤ (appTurn s.neverCancelled settings id w).run.endedAt) :
    let run := (delete settings id).run (s.cancelledAt c) w
    run.result = some (.error (.wait id "delete" .cancelled)) ∧
      ∀ call ∈ run.calls, ∀ project child, call.effect ≠ .getChildApp project child := by
  have hcut : (appTurn (s.cancelledAt c) settings id w).run.result = some (.error .cancelled) :=
    (turn_cancelledAt_of_le (rounds_pos hgone) hearly).1
  intro run
  have hrun : run = _ := run_delete_of_failed (h.cancelledAt c) hcut
  refine ⟨by rw [hrun], fun call hcall project child => ?_⟩
  rw [hrun] at hcall
  rcases List.mem_cons.mp hcall with rfl | hcall
  · exact Effect.noConfusion
  rcases List.mem_cons.mp hcall with rfl | hcall
  · exact Effect.noConfusion
  · rw [effect_of_mem_waitCalls hcall]
    exact Effect.noConfusion

theorem startedAt_lt_of_mem_calls_delete (h : DeletionAccepted s id w app)
    (hgone : (appTurn s.neverCancelled settings id w).run.result = some (.ok state))
    (hlate : (appTurn s.neverCancelled settings id w).run.endedAt < c) {call : Call}
    (hcall : call ∈ ((delete settings id).run (s.cancelledAt c) w).calls) : call.startedAt < c := by
  have hdeleted : (deleted s id w).now < c := Nat.lt_of_le_of_lt now_le_turn hlate
  have hafter : (s.after (.getApp id) w).now ≤ (deleted s id w).now := Nat.le_add_right _ _
  have hstart : w.now ≤ (s.after (.getApp id) w).now := Nat.le_add_right _ _
  rw [run_delete_of_removed (h.cancelledAt c) ((appTurn_cancelledAt hlate).symm ▸ hgone)] at hcall
  rcases List.mem_cons.mp hcall with rfl | hcall
  · exact Nat.lt_of_le_of_lt (Nat.le_trans hstart hafter) hdeleted
  rcases List.mem_cons.mp hcall with rfl | hcall
  · exact Nat.lt_of_le_of_lt hafter hdeleted
  rcases List.mem_append.mp hcall with hparent | hchild
  · exact startedAt_lt_of_mem_calls rfl hparent
  · obtain ⟨turn, hturn, hmem⟩ := List.mem_flatMap.mp hchild
    exact startedAt_lt_of_mem_childTurns hturn hmem

theorem afterTurns_le_now_delete (h : DeletionAccepted s id w app)
    (hgone : (appTurn s.neverCancelled settings id w).run.result = some (.ok state)) :
    ((appTurn s.neverCancelled settings id w).world.afterTurns
        (childTurns s.neverCancelled settings id w app.targets)).now ≤
      ((delete settings id).run s.neverCancelled w).world.now := by
  rw [run_delete_of_removed h.neverCancelled hgone]
  simp only
  split
  · exact le_settled_neverCancelled s _ _
  · exact Nat.le_refl _

structure CutAt (c : Nat) (s : Setting σ) (settings : Settings) (id : AppId) (w : World σ) (app : App) :
    Prop where
  counted : ∃ others, ((delete settings id).run (s.cancelledAt c) w).result = some (.ok (.removed
      (confirmedBefore c (childTurns s.neverCancelled settings id w app.targets)) others)) ∧
    confirmedBefore c (childTurns s.neverCancelled settings id w app.targets) + others =
      app.targets.countP (·.instanceId.isSome)
  now_eq : ((delete settings id).run (s.cancelledAt c) w).world.now =
    min c ((delete settings id).run s.neverCancelled w).world.now

theorem delete_cancelled_amid_children (h : DeletionAccepted s id w app)
    (hgone : (appTurn s.neverCancelled settings id w).run.result = some (.ok state))
    (hlate : (appTurn s.neverCancelled settings id w).run.endedAt < c)
    (hcut : ∃ turn ∈ childTurns s.neverCancelled settings id w app.targets, c ≤ turn.run.endedAt) :
    CutAt c s settings id w app := by
  have hrun : (delete settings id).run (s.cancelledAt c) w = _ :=
    run_delete_of_removed (h.cancelledAt c) ((appTurn_cancelledAt hlate).symm ▸ hgone)
  have hshort := inTurn_cancelledAt_of_le (rounds_pos hgone) hlate hcut
  rw [← childTurns_cancelledAt hlate] at hshort
  rw [if_pos hshort.all_ended, if_pos hshort.all_ended, appTurn_cancelledAt hlate] at hrun
  have hcount : confirmed (childTurns (s.cancelledAt c) settings id w app.targets) =
      confirmedBefore c (childTurns s.neverCancelled settings id w app.targets) := hshort.confirmed_eq
  have hend : c ≤ ((delete settings id).run s.neverCancelled w).world.now :=
    Nat.le_trans hshort.le_now (afterTurns_le_now_delete h hgone)
  refine ⟨⟨_, by rw [hrun, hcount], ?_⟩, ?_⟩
  · rw [← hcount]
    exact confirmed_add_unconfirmed_childTurns hshort.all_ended
  · rw [hrun, hshort.now_eq, settled_cancelledAt (Nat.le_refl c), Nat.min_eq_left hend]
    exact Nat.min_eq_left (le_settled_neverCancelled s _ _)

theorem delete_cancelled_after_children (h : DeletionAccepted s id w app)
    (hgone : (appTurn s.neverCancelled settings id w).run.result = some (.ok state))
    (hlate : (appTurn s.neverCancelled settings id w).run.endedAt < c)
    (hbefore : ∀ turn ∈ childTurns s.neverCancelled settings id w app.targets, turn.run.endedAt < c)
    (hended : (childTurns s.neverCancelled settings id w app.targets).all Turn.ended = true) :
    CutAt c s settings id w app := by
  have hrun : (delete settings id).run (s.cancelledAt c) w = _ :=
    run_delete_of_removed (h.cancelledAt c) ((appTurn_cancelledAt hlate).symm ▸ hgone)
  have hwhole : (delete settings id).run s.neverCancelled w = _ := run_delete_of_removed h.neverCancelled hgone
  have hsame : childTurns (s.cancelledAt c) settings id w app.targets =
      childTurns s.neverCancelled settings id w app.targets := by
    rw [childTurns_cancelledAt hlate]
    exact inTurn_cancelledAt_of_lt hbefore
  rw [hsame, appTurn_cancelledAt hlate, if_pos hended, if_pos hended] at hrun
  rw [if_pos hended, if_pos hended] at hwhole
  have hlast : ((appTurn s.neverCancelled settings id w).world.afterTurns
      (childTurns s.neverCancelled settings id w app.targets)).now < c :=
    World.now_afterTurns_lt hlate hbefore
  have hcount := confirmedBefore_of_lt hbefore
  refine ⟨⟨_, by rw [hrun, hcount], ?_⟩, ?_⟩
  · rw [hcount]
    exact confirmed_add_unconfirmed_childTurns hended
  · rw [hrun, hwhole]
    exact settled_cancelledAt (Nat.le_of_lt hlast) _

theorem cutAt_of_childTurns (h : DeletionAccepted s id w app)
    (hgone : (appTurn s.neverCancelled settings id w).run.result = some (.ok state))
    (hlate : (appTurn s.neverCancelled settings id w).run.endedAt < c)
    (hends : ∀ turn ∈ childTurns s.neverCancelled settings id w app.targets,
      turn.ended = true ∨ c ≤ turn.run.endedAt) : CutAt c s settings id w app := by
  by_cases hcut : ∃ turn ∈ childTurns s.neverCancelled settings id w app.targets, c ≤ turn.run.endedAt
  · exact delete_cancelled_amid_children h hgone hlate hcut
  · have hbefore (turn) (hturn : turn ∈ childTurns s.neverCancelled settings id w app.targets) :
        turn.run.endedAt < c := Nat.lt_of_not_le fun hle => hcut ⟨turn, hturn, hle⟩
    have hended : (childTurns s.neverCancelled settings id w app.targets).all Turn.ended = true :=
      List.all_eq_true.mpr fun turn hturn =>
        (hends turn hturn).resolve_right (Nat.not_le.mpr (hbefore turn hturn))
    exact delete_cancelled_after_children h hgone hlate hbefore hended

theorem delete_comes_to (h : DeletionAccepted s id w app)
    (hgone : (appTurn s.neverCancelled settings id w).run.result = some (.ok state))
    (hlate : (appTurn s.neverCancelled settings id w).run.endedAt < c) :
    (∃ n, ∀ rounds ≥ n, CutAt c (s.allowing rounds) settings id w app) ∨
      ¬ settings.poll.Pauses ∧
        (∃ request ∈ childRemovals settings app.targets, ∃ begin,
          s.neverCancelled.ComesTo (childRemovals settings app.targets)
            (appTurn s.neverCancelled settings id w).world request begin ∧
          begin.now < c ∧ s.neverCancelled.StandsStill request begin) ∧
        ∀ rounds ≥ s.rounds,
          ((delete settings id).run ((s.allowing rounds).cancelledAt c) w).result = none := by
  have happ (rounds : Nat) (hrounds : s.rounds ≤ rounds) :
      appTurn (s.allowing rounds).neverCancelled settings id w = appTurn s.neverCancelled settings id w :=
    appTurn_allowing (s := s.neverCancelled) hgone hrounds
  have hstart : (appTurn s.neverCancelled settings id w).world.now < c := hlate
  rcases inTurn_comes_to s (childRemovals settings app.targets) hstart with
    ⟨n, hturns⟩ | ⟨⟨request, hrequest, hrestless, begin, hcomes, hbegin, hstill⟩, hopen⟩
  · refine .inl ⟨max s.rounds n, fun rounds hrounds => ?_⟩
    have hsame := happ rounds (Nat.le_trans (Nat.le_max_left _ _) hrounds)
    refine cutAt_of_childTurns ⟨h.found, h.accepted⟩ (hsame ▸ hgone) (hsame ▸ hlate) ?_
    rw [childTurns, hsame]
    exact hturns rounds (Nat.le_trans (Nat.le_max_right _ _) hrounds)
  · obtain ⟨subject, rfl⟩ := removal_of_mem_childRemovals settings hrequest
    refine .inr ⟨hrestless, ⟨_, hrequest, begin, hcomes, hbegin, hstill⟩, fun rounds hrounds => ?_⟩
    have hcut : appTurn (s.cancelledAt c) settings id w = _ := appTurn_cancelledAt hlate
    refine result_delete_of_open (s := s.cancelledAt c) (h.cancelledAt c) (hcut ▸ hgone) hrounds ?_
    rw [hcut]
    exact hopen rounds

theorem delete_cancelled (c : Nat) (h : DeletionAccepted s id w app)
    (hgone : (appTurn s.neverCancelled settings id w).run.result = some (.ok state)) :
    let parent := appTurn s.neverCancelled settings id w
    let turns := childTurns s.neverCancelled settings id w app.targets
    let run := (delete settings id).run (s.cancelledAt c) w
    (c ≤ parent.run.endedAt →
      (∃ e, run.result = some (.error e) ∧ e = .wait id "delete" .cancelled ∧ e.isCancelled = true) ∧
        ∀ call ∈ run.calls, ∀ project child, call.effect ≠ .getChildApp project child) ∧
      (parent.run.endedAt < c →
        (∀ call ∈ run.calls, call.startedAt < c) ∧
          ((∀ turn ∈ turns, turn.ended = true ∨ c ≤ turn.run.endedAt) → CutAt c s settings id w app) ∧
          ((∃ n, ∀ rounds ≥ n, CutAt c (s.allowing rounds) settings id w app) ∨
            ¬ settings.poll.Pauses ∧
              (∃ request ∈ childRemovals settings app.targets, ∃ begin,
                s.neverCancelled.ComesTo (childRemovals settings app.targets) parent.world request begin ∧
                begin.now < c ∧ s.neverCancelled.StandsStill request begin) ∧
              ∀ rounds ≥ s.rounds,
                ((delete settings id).run ((s.allowing rounds).cancelledAt c) w).result = none)) := by
  refine ⟨fun hearly => ?_, fun hlate => ⟨fun call hcall => ?_, cutAt_of_childTurns h hgone hlate,
    delete_comes_to h hgone hlate⟩⟩
  · obtain ⟨hresult, hcalls⟩ := delete_cancelled_early h hgone hearly
    exact ⟨⟨_, hresult, rfl, rfl⟩, hcalls⟩
  · exact startedAt_lt_of_mem_calls_delete h hgone hlate hcall

namespace Sample

def departures : Script Answered :=
  ⟨[⟨.ok (.app spread), nanosPerSecond⟩, ⟨.ok .deleted, nanosPerSecond⟩, ⟨absent, 0⟩,
    ⟨leaving ⟨"c-1:p-1"⟩ ⟨"wordpress-1"⟩, 0⟩, ⟨absent, 0⟩,
    ⟨leaving ⟨"c-1:p-3"⟩ ⟨"wordpress-3"⟩, 0⟩], true⟩

end Sample

theorem delete_cancelled_amid_child_waits :
    let s : Setting (Script Answered) := ⟨Script.api, none, 4⟩
    let w : World (Script Answered) := ⟨Sample.departures, 0⟩
    let id : AppId := ⟨"mcapp-1"⟩
    let c := 5 * nanosPerSecond
    let run := (delete .standard id).run (s.cancelledAt c) w
    DeletionAccepted s id w Sample.spread ∧
      (appTurn s.neverCancelled .standard id w).run.result = some (.ok State.removed) ∧
      run.result = some (.ok (.removed 1 1)) ∧ (∀ call ∈ run.calls, call.startedAt < c) ∧
      run.world.now = min c ((delete .standard id).run s.neverCancelled w).world.now := by
  intro s w id c run
  have haccepted : DeletionAccepted s id w Sample.spread := ⟨by decide +kernel, by decide +kernel⟩
  have hgone : (appTurn s.neverCancelled .standard id w).run.result = some (.ok State.removed) := by
    decide +kernel
  obtain ⟨hcalls, hends, -⟩ := (delete_cancelled c haccepted hgone).2 (by decide +kernel)
  obtain ⟨⟨others, hresult, hsum⟩, hnow⟩ := hends (by decide +kernel)
  have hcount : confirmedBefore c
      (childTurns s.neverCancelled .standard id w Sample.spread.targets) = 1 := by decide +kernel
  have htargets : Sample.spread.targets.countP (·.instanceId.isSome) = 2 := rfl
  rw [hcount, htargets] at hsum
  obtain rfl : others = 1 := by omega
  rw [hcount] at hresult
  exact ⟨haccepted, hgone, hresult, hcalls, hnow⟩

namespace Sample

def restless : Settings := ⟨.restless, .standard⟩

def restlessRemoval : WaitRequest :=
  removal restless (.child ⟨"c-1:p-1"⟩ (.of ⟨"c-1:p-1"⟩ ⟨"wordpress-1"⟩))

theorem turn_restlessRemoval {w : World (Script Answered)} (hremote : w.remote = lingered)
    (hnow : w.now = 0) (rounds : Nat) :
    let turn := (⟨Script.api, none, rounds⟩ : Setting (Script Answered)).turn restlessRemoval w
    turn.ended = false ∧ turn.run.endedAt = 0 := by
  obtain ⟨remote, now⟩ := w
  obtain rfl := hremote
  obtain rfl := hnow
  intro turn
  have hzero : PollConfig.restless.nextInterval .zero = .zero := by decide +kernel
  have hdue : ¬ (⟨.removed, Timeouts.standard.delete, .restless, 0, none⟩ : WaitTerms).Due 0 := by
    decide +kernel
  rw [ended_eq_false_iff]
  exact Source.rounds_of_no_pauses (s := restlessRemoval.subject.source Script.api)
    (t := (⟨Script.api, none, rounds⟩ : Setting (Script Answered)).terms restlessRemoval 0) rfl hzero
    (Nat.dvd_zero _) hdue rfl rfl (fun _ => ⟨⟨some State.removing, 0⟩, rfl⟩) rounds

end Sample

theorem restless_delete_outlasts_cancellation :
    let s (rounds : Nat) : Setting (Script Answered) := ⟨Script.api, none, rounds⟩
    let w : World (Script Answered) := ⟨Sample.lingering, 0⟩
    let id : AppId := ⟨"mcapp-1"⟩
    let c := nanosPerSecond
    ∀ rounds > 0, DeletionAccepted (s rounds) id w Sample.spread ∧
      (appTurn (s rounds).neverCancelled Sample.restless id w).run.result = some (.ok State.removed) ∧
      (appTurn (s rounds).neverCancelled Sample.restless id w).run.endedAt < c ∧
      ((delete Sample.restless id).run ((s rounds).cancelledAt c) w).result = none := by
  intro s w id c rounds hrounds
  have haccepted : DeletionAccepted (s 1) id w Sample.spread := ⟨by decide +kernel, by decide +kernel⟩
  have hgone : (appTurn (s 1).neverCancelled Sample.restless id w).run.result =
      some (.ok State.removed) := by decide +kernel
  have hlate : (appTurn (s 1).neverCancelled Sample.restless id w).run.endedAt < c := by decide +kernel
  have happ : appTurn (s rounds).neverCancelled Sample.restless id w =
      appTurn (s 1).neverCancelled Sample.restless id w :=
    appTurn_allowing (s := (s 1).neverCancelled) hgone hrounds
  refine ⟨⟨haccepted.found, haccepted.accepted⟩, by rw [happ, hgone], by rw [happ]; exact hlate, ?_⟩
  have hcut : appTurn ((s 1).cancelledAt c) Sample.restless id w = _ := appTurn_cancelledAt hlate
  refine result_delete_of_open (s := (s 1).cancelledAt c) (haccepted.cancelledAt c) (hcut ▸ hgone) hrounds ?_
  obtain ⟨hopen, hended⟩ := Sample.turn_restlessRemoval
    (w := (appTurn (s 1).neverCancelled Sample.restless id w).world) (by decide +kernel)
    (by decide +kernel) rounds
  have hfirst : ((s rounds).cancelledAt c).turn Sample.restlessRemoval
      (appTurn (s 1).neverCancelled Sample.restless id w).world = _ :=
    turn_cancelledAt_of_lt (Nat.lt_of_le_of_lt (Nat.le_of_eq hended) (by decide))
  have hremovals : childRemovals Sample.restless Sample.spread.targets = Sample.restlessRemoval ::
      (childRemovals Sample.restless Sample.spread.targets).tail := rfl
  rw [hcut, hremovals, inTurn_cons, List.all_cons, Bool.and_eq_false_iff]
  exact .inl ((congrArg Turn.ended hfirst).trans hopen)

end Lifecycle

end MultiCluster
