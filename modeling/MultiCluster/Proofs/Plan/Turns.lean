import MultiCluster.Lifecycle.Plan
import MultiCluster.Proofs.Polling.Passage

namespace MultiCluster

structure Turn (σ : Type) where
  request : WaitRequest
  startedAt : Nat
  run : WaitRun σ Answered

namespace Turn

variable {σ : Type} (turn : Turn σ)

def ended : Bool := turn.run.result.isSome

def confirmed : Bool := turn.run.result matches some (.ok _)

def calls : List Call := Setting.waitCalls turn.request turn.run

def world : World σ := ⟨turn.run.state, turn.run.endedAt⟩

def deadline : Option Nat := Clock.after? turn.startedAt turn.request.timeout

end Turn

namespace Setting

variable {σ : Type} (s : Setting σ)

def terms (request : WaitRequest) (now : Nat) : WaitTerms :=
  ⟨request.states, request.timeout, request.config, now, s.cancelAt⟩

def turn (request : WaitRequest) (w : World σ) : Turn σ := ⟨request, w.now, s.wait request w⟩

def inTurn : List WaitRequest → World σ → List (Turn σ)
  | [], _ => []
  | request :: rest, w =>
    let turn := s.turn request w
    turn :: if turn.ended then inTurn rest turn.world else []

def allowing (rounds : Nat) : Setting σ := { s with rounds := rounds }

def StandsStill (request : WaitRequest) (w : World σ) : Prop :=
  (request.subject.source s.api).StandsStill (s.terms request w.now) w.remote

def NeverEnds (request : WaitRequest) (w : World σ) : Prop :=
  ∀ rounds, ((s.allowing rounds).turn request w).ended = false

def ComesTo (requests : List WaitRequest) (w : World σ) (request : WaitRequest) (begin : World σ) : Prop :=
  ∃ n, ∀ rounds ≥ n, (s.allowing rounds).turn request begin ∈ (s.allowing rounds).inTurn requests w

end Setting

def World.afterTurns {σ : Type} (w : World σ) : List (Turn σ) → World σ
  | [] => w
  | turn :: rest => turn.world.afterTurns rest

theorem World.now_afterTurns_lt {σ : Type} {w : World σ} {turns : List (Turn σ)} {c : Nat}
    (hfirst : w.now < c) (h : ∀ turn ∈ turns, turn.run.endedAt < c) : (w.afterTurns turns).now < c := by
  induction turns generalizing w with
  | nil => exact hfirst
  | cons turn rest ih =>
    exact ih (h turn List.mem_cons_self) fun later hlater => h later (List.mem_cons_of_mem _ hlater)

namespace Setting

variable {σ : Type} {s : Setting σ} {request : WaitRequest} {w : World σ}

theorem inTurn_cons (rest : List WaitRequest) : s.inTurn (request :: rest) w =
    s.turn request w :: if (s.turn request w).ended then s.inTurn rest (s.turn request w).world else [] :=
  rfl

theorem request_turn : (s.turn request w).request = request := rfl

theorem requests_inTurn_prefix (requests : List WaitRequest) (w : World σ) :
    (s.inTurn requests w).map Turn.request <+: requests := by
  induction requests generalizing w with
  | nil => exact List.nil_prefix
  | cons request rest ih =>
    rw [inTurn_cons, List.map_cons, request_turn]
    refine List.cons_prefix_cons.mpr ⟨rfl, ?_⟩
    split
    · exact ih _
    · exact List.nil_prefix

theorem requests_inTurn {requests : List WaitRequest}
    (h : (s.inTurn requests w).all Turn.ended = true) :
    (s.inTurn requests w).map Turn.request = requests := by
  induction requests generalizing w with
  | nil => rfl
  | cons request rest ih =>
    rw [inTurn_cons, List.all_cons, Bool.and_eq_true] at h
    obtain ⟨hended, hrest⟩ := h
    rw [if_pos hended] at hrest
    rw [inTurn_cons, if_pos hended, List.map_cons, request_turn, ih hrest]

theorem mem_inTurn {requests : List WaitRequest} {turn : Turn σ} (h : turn ∈ s.inTurn requests w) :
    turn.request ∈ requests ∧ ∃ begin, turn = s.turn turn.request begin := by
  induction requests generalizing w with
  | nil => exact absurd h List.not_mem_nil
  | cons request rest ih =>
    rw [inTurn_cons] at h
    rcases List.mem_cons.mp h with rfl | hlater
    · exact ⟨List.mem_cons_self, w, rfl⟩
    · split at hlater
      · obtain ⟨hmem, hbegin⟩ := ih hlater
        exact ⟨List.mem_cons_of_mem _ hmem, hbegin⟩
      · exact absurd hlater List.not_mem_nil

theorem now_le_turn : w.now ≤ (s.turn request w).world.now := Source.now_le_endedAt s.rounds

theorem now_le_inTurn {requests : List WaitRequest} {turn : Turn σ} (h : turn ∈ s.inTurn requests w) :
    w.now ≤ turn.world.now := by
  induction requests generalizing w with
  | nil => exact absurd h List.not_mem_nil
  | cons request rest ih =>
    rw [inTurn_cons] at h
    rcases List.mem_cons.mp h with rfl | hlater
    · exact now_le_turn
    · split at hlater
      · exact Nat.le_trans now_le_turn (ih hlater)
      · exact absurd hlater List.not_mem_nil

theorem first_le_inTurn {rest : List WaitRequest} {turn : Turn σ}
    (h : turn ∈ s.inTurn (request :: rest) w) : (s.turn request w).world.now ≤ turn.world.now := by
  rw [inTurn_cons] at h
  rcases List.mem_cons.mp h with rfl | hlater
  · exact Nat.le_refl _
  · split at hlater
    · exact now_le_inTurn hlater
    · exact absurd hlater List.not_mem_nil

theorem now_le_afterTurns (requests : List WaitRequest) :
    w.now ≤ (w.afterTurns (s.inTurn requests w)).now := by
  induction requests generalizing w with
  | nil => exact Nat.le_refl _
  | cons request rest ih =>
    rw [inTurn_cons, World.afterTurns]
    split
    · exact Nat.le_trans now_le_turn ih
    · exact now_le_turn

theorem first_le_afterTurns (rest : List WaitRequest) : (s.turn request w).world.now ≤
    (w.afterTurns (s.inTurn (request :: rest) w)).now := by
  rw [inTurn_cons, World.afterTurns]
  split
  · exact now_le_afterTurns rest
  · exact Nat.le_refl _

theorem startedAt_lt_of_mem_calls {call : Call} {c : Nat} (hc : s.cancelAt = some c)
    (h : call ∈ (s.turn request w).calls) : call.startedAt < c := by
  obtain ⟨fetch, hfetch, rfl⟩ := List.mem_map.mp h
  exact (Source.startedAt_of_mem_fetches (t := s.terms request w.now) hfetch).2 c hc

theorem turn_of_ended {first second : Nat} (hle : first ≤ second)
    (h : ((s.allowing first).turn request w).ended = true) :
    (s.allowing second).turn request w = (s.allowing first).turn request w :=
  congrArg (Turn.mk request w.now)
    (Source.wait_of_finished (t := s.terms request w.now) hle (Option.isSome_iff_ne_none.mp h))

theorem turn_eq_of_ended {first second : Nat} (hfirst : ((s.allowing first).turn request w).ended = true)
    (hsecond : ((s.allowing second).turn request w).ended = true) :
    (s.allowing second).turn request w = (s.allowing first).turn request w := by
  rcases Nat.le_total first second with hle | hle
  · exact turn_of_ended hle hfirst
  · exact (turn_of_ended hle hsecond).symm

theorem ComesTo.head (rest : List WaitRequest) : s.ComesTo (request :: rest) w request w :=
  ⟨0, fun _ _ => List.mem_cons_self⟩

theorem ComesTo.cons {first : WaitRequest} {rest : List WaitRequest} {begin : World σ} {n : Nat}
    (hended : ((s.allowing n).turn first w).ended = true)
    (h : s.ComesTo rest ((s.allowing n).turn first w).world request begin) :
    s.ComesTo (first :: rest) w request begin := by
  obtain ⟨m, hmem⟩ := h
  refine ⟨max n m, fun rounds hrounds => ?_⟩
  rw [inTurn_cons, turn_of_ended (Nat.le_trans (Nat.le_max_left n m) hrounds) hended, if_pos hended]
  exact List.mem_cons_of_mem _ (hmem rounds (Nat.le_trans (Nat.le_max_right n m) hrounds))

theorem inTurn_open_of_rest {first : WaitRequest} {rest : List WaitRequest} {n : Nat}
    (hended : ((s.allowing n).turn first w).ended = true)
    (h : ∀ rounds, ((s.allowing rounds).inTurn rest ((s.allowing n).turn first w).world).all
      Turn.ended = false) (rounds : Nat) :
    ((s.allowing rounds).inTurn (first :: rest) w).all Turn.ended = false := by
  rw [inTurn_cons, List.all_cons]
  cases hnow : ((s.allowing rounds).turn first w).ended with
  | false => rfl
  | true => rw [if_pos rfl, turn_eq_of_ended hended hnow, h rounds, Bool.and_false]

theorem ended_eq_false_iff : (s.turn request w).ended = false ↔ (s.wait request w).result = none := by
  rw [Turn.ended, Option.isSome_eq_false_iff, Option.isNone_iff_eq_none]
  rfl

theorem endedAt_le_allowing {first second : Nat} (hle : first ≤ second) :
    ((s.allowing first).turn request w).run.endedAt ≤ ((s.allowing second).turn request w).run.endedAt :=
  Source.endedAt_le_of_le (t := s.terms request w.now) hle

theorem standsStill_of_lt {c : Nat} (h : ∀ rounds > 0, ((s.allowing rounds).turn request w).ended = false ∧
    ((s.allowing rounds).turn request w).run.endedAt < c) :
    ¬ request.config.Pauses ∧ s.StandsStill request w := by
  have hstill : s.StandsStill request w := Source.standsStill_of_endedAt_lt fun rounds hrounds =>
    ⟨ended_eq_false_iff.mp (h rounds hrounds).1, (h rounds hrounds).2⟩
  exact ⟨fun hpauses => Source.not_standsStill (t := s.terms request w.now) hpauses hstill, hstill⟩

theorem NeverEnds.cause (h : s.NeverEnds request w) :
    Clock.after? w.now request.timeout = none ∨
      ¬ request.config.Pauses ∧ s.StandsStill request w := by
  cases hdeadline : Clock.after? w.now request.timeout with
  | none => exact .inl rfl
  | some deadline =>
    refine .inr (standsStill_of_lt (c := deadline) fun rounds hrounds => ⟨h rounds, ?_⟩)
    exact Source.endedAt_lt_deadline (t := s.terms request w.now) hdeadline
      (fun hzero => absurd hzero (Nat.ne_of_gt hrounds)) (ended_eq_false_iff.mp (h rounds))

theorem inTurn_settles (s : Setting σ) (requests : List WaitRequest) (w : World σ) :
    (∃ turns, turns.all Turn.ended = true ∧
        ∃ n, ∀ rounds ≥ n, (s.allowing rounds).inTurn requests w = turns) ∨
      (∃ request ∈ requests, ∃ begin, s.ComesTo requests w request begin ∧ s.NeverEnds request begin) ∧
        ∀ rounds, ((s.allowing rounds).inTurn requests w).all Turn.ended = false := by
  induction requests generalizing w with
  | nil => exact .inl ⟨[], rfl, 0, fun _ _ => rfl⟩
  | cons request rest ih =>
    by_cases hends : ∃ n, ((s.allowing n).turn request w).ended = true
    · obtain ⟨n, hended⟩ := hends
      rcases ih ((s.allowing n).turn request w).world with
        ⟨turns, hall, m, hturns⟩ | ⟨⟨late, hlate, begin, hcomes, hnever⟩, hopen⟩
      · refine .inl ⟨(s.allowing n).turn request w :: turns, ?_, max n m, fun rounds hrounds => ?_⟩
        · rw [List.all_cons, hended, hall, Bool.and_self]
        · rw [inTurn_cons, turn_of_ended (Nat.le_trans (Nat.le_max_left n m) hrounds) hended,
            if_pos hended, hturns rounds (Nat.le_trans (Nat.le_max_right n m) hrounds)]
      · exact .inr ⟨⟨late, List.mem_cons_of_mem _ hlate, begin, hcomes.cons hended, hnever⟩,
          inTurn_open_of_rest hended hopen⟩
    · have hnever : s.NeverEnds request w := fun rounds =>
        Bool.eq_false_iff.mpr fun hended => hends ⟨rounds, hended⟩
      refine .inr ⟨⟨request, List.mem_cons_self, w, .head rest, hnever⟩, fun rounds => ?_⟩
      rw [inTurn_cons, List.all_cons, hnever rounds, Bool.false_and]

theorem now_turn_le (hinstant : ∀ effect state, (s.api.respond effect state).latency = 0)
    (hdeadline : (s.turn request w).deadline ≠ none) :
    (s.turn request w).world.now ≤ Clock.roundUp (w.now + request.timeout.nanos) :=
  Source.endedAt_wait_le (s := request.subject.source s.api) (t := s.terms request w.now)
    (fun state => hinstant _ state) hdeadline

theorem now_afterTurns_le (timeout : Nat) {requests : List WaitRequest}
    (hinstant : ∀ effect state, (s.api.respond effect state).latency = 0)
    (htimeout : ∀ request ∈ requests, request.timeout.nanos = timeout)
    (hdeadline : ∀ turn ∈ s.inTurn requests w, turn.deadline ≠ none) :
    (w.afterTurns (s.inTurn requests w)).now ≤
      Clock.roundUp w.now + (s.inTurn requests w).length * Clock.roundUp timeout := by
  induction requests generalizing w with
  | nil => exact Nat.le_trans (Clock.le_roundUp _) (Nat.le_add_right _ _)
  | cons request rest ih =>
    rw [inTurn_cons] at hdeadline ⊢
    have hfirst : Clock.roundUp (s.turn request w).world.now ≤
        Clock.roundUp w.now + Clock.roundUp timeout := by
      have hturn := now_turn_le hinstant (hdeadline _ List.mem_cons_self)
      rw [htimeout request List.mem_cons_self] at hturn
      exact Nat.le_trans (Clock.roundUp_le_roundUp hturn) (Clock.roundUp_add_le _ _)
    rw [World.afterTurns, List.length_cons, Nat.succ_mul]
    split
    · rename_i hended
      rw [if_pos hended] at hdeadline
      have hrest := ih (w := (s.turn request w).world)
        (fun request hrequest => htimeout request (List.mem_cons_of_mem _ hrequest))
        fun turn hturn => hdeadline turn (List.mem_cons_of_mem _ hturn)
      omega
    · have hlast := Clock.le_roundUp (s.turn request w).world.now
      simp only [World.afterTurns, List.length_nil]
      omega

end Setting

end MultiCluster
