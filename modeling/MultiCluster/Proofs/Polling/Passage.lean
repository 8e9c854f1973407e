import Mathlib.Order.WellFounded
import MultiCluster.Proofs.Polling.Round

namespace MultiCluster

namespace Source

variable {σ ρ : Type} {s : Source σ ρ} {t : WaitTerms} {interval : Duration} {progress : Progress}
  {state : σ} {now : Nat}

theorem rounds_preserves (kept : σ → Prop)
    (hfetch : ∀ state, kept state → kept (s.fetch state).state) (left : Nat)
    (interval : Duration) (progress : Progress) (state : σ) (now : Nat) (hstate : kept state) :
    kept (s.rounds t left interval progress state now).state := by
  induction left generalizing interval progress state now with
  | zero => exact hstate
  | succ left ih =>
    have hkept (round : Round σ ρ) (hround : s.round t interval progress state now = round) :
        kept round.after := by
      rcases after_round hround with heq | heq
      · rwa [heq]
      · rw [heq]
        exact hfetch state hstate
    rw [rounds_succ]
    cases hround : s.round t interval progress state now with
    | last run => exact hkept _ hround
    | more fetch next after wakeAt => exact ih _ _ _ _ (hkept _ hround)

theorem now_le_endedAt (left : Nat) : now ≤ (s.rounds t left interval progress state now).endedAt := by
  induction left generalizing interval progress state now with
  | zero => exact Nat.le_refl _
  | succ left ih =>
    rw [rounds_succ]
    cases hround : s.round t interval progress state now with
    | last run => exact (round_last hround).2.1
    | more fetch next after wakeAt => exact Nat.le_trans (round_more hround).2.1 ih

theorem endedAt_round_le (left : Nat) : (s.round t interval progress state now).endedAt ≤
    (s.rounds t (left + 1) interval progress state now).endedAt := by
  rw [rounds_succ]
  cases s.round t interval progress state now with
  | last run => exact Nat.le_refl _
  | more fetch next after wakeAt => exact now_le_endedAt left

theorem startedAt_of_mem_fetches {left : Nat} {fetch : Fetch ρ}
    (h : fetch ∈ (s.rounds t left interval progress state now).fetches) :
    now ≤ fetch.startedAt ∧ ∀ c ∈ t.cancelAt, fetch.startedAt < c := by
  induction left generalizing interval progress state now with
  | zero => exact absurd h List.not_mem_nil
  | succ left ih =>
    rw [rounds_succ] at h
    cases hround : s.round t interval progress state now with
    | last run =>
      rw [hround] at h
      obtain ⟨rfl, hcancel⟩ := (round_last hround).2.2.1 fetch h
      exact ⟨Nat.le_refl _, hcancel⟩
    | more first next after wakeAt =>
      obtain ⟨⟨rfl, hcancel⟩, hwake, -⟩ := round_more hround
      rw [hround] at h
      rcases List.mem_cons.mp h with rfl | hlater
      · exact ⟨Nat.le_refl _, hcancel⟩
      · exact ⟨Nat.le_trans hwake (ih hlater).1, (ih hlater).2⟩

theorem endedAt_le_succ (left : Nat) : (s.rounds t left interval progress state now).endedAt ≤
    (s.rounds t (left + 1) interval progress state now).endedAt := by
  induction left generalizing interval progress state now with
  | zero => exact now_le_endedAt 1
  | succ left ih =>
    rw [rounds_succ, rounds_succ _ _ (left + 1)]
    cases s.round t interval progress state now with
    | last run => exact Nat.le_refl _
    | more fetch next after wakeAt => exact ih

theorem endedAt_lt_deadline {left deadline : Nat} (hdeadline : t.deadline = some deadline)
    (hfirst : left = 0 → now < deadline)
    (h : (s.rounds t left interval progress state now).result = none) :
    (s.rounds t left interval progress state now).endedAt < deadline := by
  induction left generalizing interval progress state now with
  | zero => exact hfirst rfl
  | succ left ih =>
    rw [rounds_succ] at h ⊢
    cases hround : s.round t interval progress state now with
    | last run =>
      rw [hround] at h
      exact absurd h (round_last hround).1
    | more fetch next after wakeAt =>
      rw [hround] at h
      exact ih (fun _ => (round_more hround).2.2.2 deadline hdeadline) h

theorem add_le_endedAt (hpauses : t.config.Pauses) (hpos : 0 < interval.nanos) {left : Nat}
    (h : (s.rounds t left interval progress state now).result = none) :
    now + left ≤ (s.rounds t left interval progress state now).endedAt := by
  induction left generalizing interval progress state now with
  | zero => exact Nat.le_refl _
  | succ left ih =>
    rw [rounds_succ] at h ⊢
    cases hround : s.round t interval progress state now with
    | last run =>
      rw [hround] at h
      exact absurd h (round_last hround).1
    | more fetch next after wakeAt =>
      rw [hround] at h
      have hmoved := (round_more hround).2.2.1 hpos
      have hrest := ih (hpauses.nextInterval_pos hpos) h
      simp only [WaitRun.after]
      omega

theorem round_of_pending {next : Progress} (hnever : t.cancelAt = none)
    (hsame : (s.fetch state).state = state)
    (hjudge : t.judge s.name progress (s.observe (s.fetch state).answer) = .pending next)
    (hdue : ¬ t.Due (now + (s.fetch state).latency))
    (hwake : ¬ t.Due (t.wakeAt (now + (s.fetch state).latency) interval)) :
    s.round t interval progress state now = .more ⟨now, some (s.fetch state).answer⟩ next state
      (t.wakeAt (now + (s.fetch state).latency) interval) := by
  simp only [round, onArrival, hnever, Clock.cancelledBy_none, hjudge, WaitTerms.pause_eq, hdue, hwake,
    ↓reduceIte, hsame]
  rfl

theorem rounds_of_no_deadline (hnever : t.cancelAt = none) (hdeadline : t.deadline = none)
    (hsame : (s.fetch state).state = state)
    (hpending : ∀ progress, ∃ next,
      t.judge s.name progress (s.observe (s.fetch state).answer) = .pending next) (left : Nat) :
    (s.rounds t left interval progress state now).result = none := by
  have hdue (instant : Nat) : ¬ t.Due instant := WaitTerms.not_due_iff.mpr (by simp [hdeadline])
  induction left generalizing interval progress now with
  | zero => rfl
  | succ left ih =>
    obtain ⟨next, hjudge⟩ := hpending progress
    rw [rounds_succ, round_of_pending hnever hsame hjudge (hdue _) (hdue _)]
    exact ih

theorem rounds_of_no_pauses (hnever : t.cancelAt = none) (hzero : t.config.nextInterval .zero = .zero)
    (hwhole : Clock.tick ∣ now) (hdue : ¬ t.Due now) (hinstant : (s.fetch state).latency = 0)
    (hsame : (s.fetch state).state = state)
    (hpending : ∀ progress, ∃ next,
      t.judge s.name progress (s.observe (s.fetch state).answer) = .pending next) (left : Nat) :
    (s.rounds t left .zero progress state now).result = none ∧
      (s.rounds t left .zero progress state now).endedAt = now := by
  have hwake : t.wakeAt now .zero = now := by
    have hcut : (t.deadline.elim Duration.zero.nanos fun deadline =>
        min Duration.zero.nanos (deadline - now)) = 0 := by
      cases t.deadline with
      | none => rfl
      | some deadline => exact Nat.zero_min _
    rw [WaitTerms.wakeAt, hcut, Clock.wake_of_dvd hwhole (Nat.dvd_zero _)]
    exact Nat.add_zero now
  induction left generalizing progress with
  | zero => exact ⟨rfl, rfl⟩
  | succ left ih =>
    obtain ⟨next, hjudge⟩ := hpending progress
    have harrival : now + (s.fetch state).latency = now := by rw [hinstant, Nat.add_zero]
    have hround : s.round t .zero progress state now =
        .more ⟨now, some (s.fetch state).answer⟩ next state
          (t.wakeAt (now + (s.fetch state).latency) .zero) :=
      round_of_pending hnever hsame hjudge (by rwa [harrival]) (by rwa [harrival, hwake])
    rw [rounds_succ, hround, harrival, hwake]
    simp only [hzero]
    exact ih

theorem endedAt_le_deadline (hinstant : ∀ state, (s.fetch state).latency = 0) {deadline : Nat}
    (hdeadline : t.deadline = some deadline) (hbefore : now ≤ deadline) (left : Nat) :
    (s.rounds t left interval progress state now).endedAt ≤ Clock.roundUp deadline := by
  induction left generalizing interval progress state now with
  | zero => exact Nat.le_trans hbefore (Clock.le_roundUp deadline)
  | succ left ih =>
    rw [rounds_succ]
    cases hround : s.round t interval progress state now with
    | last run => exact (round_last hround).2.2.2 (hinstant state) deadline hdeadline hbefore
    | more fetch next after wakeAt =>
      exact ih (Nat.le_of_lt ((round_more hround).2.2.2 deadline hdeadline))

variable {start : σ} {limit : Nat}

theorem add_le_endedAt_wait (hpauses : t.config.Pauses)
    (h : (s.wait t limit start).result = none) :
    t.startedAt + limit ≤ (s.wait t limit start).endedAt + 1 := by
  cases limit with
  | zero => exact Nat.le_succ _
  | succ limit =>
    rw [wait, rounds_succ] at h ⊢
    cases hround : s.round t t.config.delay .start start t.startedAt with
    | last run =>
      rw [hround] at h
      exact absurd h (round_last hround).1
    | more fetch next after wakeAt =>
      rw [hround] at h
      have hfirst := (round_more hround).2.1
      have hrest := add_le_endedAt hpauses hpauses h
      simp only [WaitRun.after]
      omega

theorem endedAt_wait_le (hinstant : ∀ state, (s.fetch state).latency = 0)
    (hdeadline : t.deadline ≠ none) :
    (s.wait t limit start).endedAt ≤ Clock.roundUp (t.startedAt + t.timeout.nanos) := by
  obtain ⟨deadline, hdeadline⟩ := Option.ne_none_iff_exists'.mp hdeadline
  have hexact : deadline = t.startedAt + t.timeout.nanos := Clock.eq_of_after?_eq_some hdeadline
  rw [← hexact]
  exact endedAt_le_deadline hinstant hdeadline (by omega) limit

theorem endedAt_le_of_le {first second : Nat} (h : first ≤ second) :
    (s.wait t first start).endedAt ≤ (s.wait t second start).endedAt := by
  induction h with
  | refl => exact Nat.le_refl _
  | step _ ih => exact Nat.le_trans ih (endedAt_le_succ _)

def StandsStill (s : Source σ ρ) (t : WaitTerms) (start : σ) : Prop :=
  ∃ n, ∀ m ≥ n, (s.wait t m start).result = none ∧
    (s.wait t m start).endedAt = (s.wait t n start).endedAt

theorem not_standsStill (hpauses : t.config.Pauses) : ¬ s.StandsStill t start := by
  rintro ⟨n, hstill⟩
  have hfirst := hstill (n + (s.wait t n start).endedAt + 2) (by omega)
  have hmoved := add_le_endedAt_wait hpauses hfirst.1
  omega

-- A clock that never goes back and stays before an instant moves only so often.
theorem standsStill_of_endedAt_lt {start : σ}
    (h : ∀ limit > 0, (s.wait t limit start).result = none ∧ (s.wait t limit start).endedAt < c) :
    s.StandsStill t start := by
  let left (limit : Nat) := c - (s.wait t (limit + 1) start).endedAt
  obtain ⟨n, hleast⟩ : ∃ n, ∀ m, left n ≤ left m :=
    ⟨Function.argmin left, fun m => Function.argmin_le left m⟩
  refine ⟨n + 1, fun m hm => ⟨(h m (by omega)).1, ?_⟩⟩
  have hlast := hleast (m - 1)
  have hback : m - 1 + 1 = m := by omega
  have hbound := (h m (by omega)).2
  have hforward : (s.wait t (n + 1) start).endedAt ≤ (s.wait t m start).endedAt := endedAt_le_of_le hm
  simp only [left, hback] at hlast
  omega

end Source

end MultiCluster
