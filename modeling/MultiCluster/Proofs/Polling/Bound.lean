import Mathlib.Algebra.Order.Floor.Div
import MultiCluster.Proofs.Polling.Passage
import MultiCluster.Proofs.Polling.Timetable

namespace MultiCluster

theorem one_add_ceilDiv_le {left least pause : Nat} (hleast : 0 < least) (hleft : 0 < left)
    (hpause : least ≤ pause) : 1 + (left - pause) ⌈/⌉ least ≤ left ⌈/⌉ least := by
  have hall : left ≤ least * (left ⌈/⌉ least) := (ceilDiv_le_iff_le_mul hleast).mp le_rfl
  obtain ⟨others, hothers⟩ : ∃ others, left ⌈/⌉ least = others + 1 := by
    refine Nat.exists_eq_succ_of_ne_zero fun hzero => ?_
    rw [hzero] at hall
    omega
  rw [hothers, Nat.mul_succ] at hall
  have hrest : (left - pause) ⌈/⌉ least ≤ others := (ceilDiv_le_iff_le_mul hleast).mpr (by omega)
  omega

namespace Clock

theorem paused_pos {nanos : Nat} (h : 0 < nanos) : 0 < paused nanos := by
  simp only [paused, longestPause, nanosPerSecond]
  omega

theorem paused_mono {a b : Nat} (h : a ≤ b) : paused a ≤ paused b := by
  simp only [paused]
  omega

end Clock

theorem WaitTerms.paused_le_of_pause_next {t : WaitTerms} {object : String} {p : Progress} {now wakeAt : Nat}
    {interval : Duration} (h : t.pause object p now interval = .next wakeAt) :
    now + Clock.paused interval.nanos ≤ wakeAt := by
  rw [pause_eq] at h
  split at h
  · exact absurd h (by simp)
  split at h
  · exact absurd h (by simp)
  split at h
  · exact absurd h (by simp)
  rename_i hbefore
  obtain rfl := Pause.next.inj h
  rw [not_due_iff] at hbefore
  refine Nat.le_trans ?_ (Clock.add_paused_le_wake _ _)
  unfold WaitTerms.wakeAt at hbefore
  cases hdeadline : t.deadline with
  | none => exact Nat.le_refl _
  | some deadline =>
    have hlast := hbefore deadline hdeadline
    have hslept := Clock.add_paused_le_wake now (min interval.nanos (deadline - now))
    simp only [hdeadline, Option.elim_some, Clock.paused] at hlast hslept ⊢
    omega

namespace Source

variable {σ ρ : Type} {s : Source σ ρ} {t : WaitTerms} {interval : Duration} {progress : Progress}
  {state : σ} {now : Nat}

theorem length_fetches_last {run : WaitRun σ ρ} (h : s.round t interval progress state now = .last run) :
    run.fetches.length ≤ 1 := by
  simp only [round] at h
  split at h
  · obtain rfl := Round.last.inj h
    exact Nat.zero_le 1
  split at h
  · obtain rfl := Round.last.inj h
    exact Nat.le_refl 1
  rename_i harrival
  rw [Clock.cancelledBy_eq_none_iff] at harrival
  rw [(onArrival_last harrival h).2.2.1]
  exact Nat.le_refl 1

theorem paused_le_of_more {fetch : Fetch ρ} {next : Progress} {after : σ} {wakeAt : Nat}
    (h : s.round t interval progress state now = .more fetch next after wakeAt) :
    now + Clock.paused interval.nanos ≤ wakeAt := by
  obtain ⟨-, -, -, -, hpause⟩ := round_more_cases h
  have hslept := WaitTerms.paused_le_of_pause_next hpause
  omega

-- Each round but the last uses up an interval of the time left.
theorem length_fetches_rounds_le (hleast : 0 < t.config.minInterval.nanos) {deadline : Nat}
    (hdeadline : t.deadline = some deadline) (left : Nat) :
    (s.rounds t left interval progress state now).fetches.length ≤
      1 + (deadline - (now + Clock.paused interval.nanos)) ⌈/⌉
        Clock.paused t.config.minInterval.nanos := by
  induction left generalizing interval progress state now with
  | zero => exact Nat.zero_le _
  | succ left ih =>
    rw [rounds_succ]
    cases hround : s.round t interval progress state now with
    | last run => exact Nat.le_trans (length_fetches_last hround) (Nat.le_add_right 1 _)
    | more fetch next after wakeAt =>
      have hpaused := paused_le_of_more hround
      have hbefore : wakeAt < deadline := (round_more hround).2.2.2 deadline hdeadline
      have hnext : Clock.paused t.config.minInterval.nanos ≤
          Clock.paused (t.config.nextInterval interval).nanos :=
        Clock.paused_mono (t.config.minInterval_le_nextInterval interval)
      have hrest : (s.rounds t left (t.config.nextInterval interval) next after wakeAt).fetches.length ≤
          (deadline - wakeAt) ⌈/⌉ Clock.paused t.config.minInterval.nanos := by
        refine Nat.le_trans ih ?_
        rw [← Nat.sub_sub]
        exact one_add_ceilDiv_le (Clock.paused_pos hleast) (by omega) hnext
      have hmono : (deadline - wakeAt) ⌈/⌉ Clock.paused t.config.minInterval.nanos ≤
          (deadline - (now + Clock.paused interval.nanos)) ⌈/⌉ Clock.paused t.config.minInterval.nanos :=
        (gc_mul_ceilDiv (Clock.paused_pos hleast)).monotone_l (Nat.sub_le_sub_left hpaused deadline)
      simp only [WaitRun.after, List.length_cons]
      omega

theorem length_fetches_of_open {left : Nat}
    (h : (s.rounds t left interval progress state now).result = none) :
    (s.rounds t left interval progress state now).fetches.length = left := by
  induction left generalizing interval progress state now with
  | zero => rfl
  | succ left ih =>
    rw [rounds_succ] at h ⊢
    cases hround : s.round t interval progress state now with
    | last run =>
      rw [hround] at h
      exact absurd h (round_last hround).1
    | more fetch next after wakeAt =>
      rw [hround] at h
      exact congrArg (· + 1) (ih h)

theorem wait_bounded (s : Source σ ρ) (t : WaitTerms) (start : σ)
    (hleast : 0 < t.config.minInterval.nanos) (hdeadline : t.deadline ≠ none) :
    let most := 1 + (t.timeout.nanos - Clock.paused t.config.delay.nanos) ⌈/⌉
      Clock.paused t.config.minInterval.nanos
    ∃ run, run.result ≠ none ∧ run.fetches.length ≤ most ∧
      ∀ limit > most, s.wait t limit start = run := by
  intro most
  obtain ⟨deadline, hdeadline⟩ := Option.ne_none_iff_exists'.mp hdeadline
  have hexact : deadline = t.startedAt + t.timeout.nanos := Clock.eq_of_after?_eq_some hdeadline
  have hlength (limit : Nat) : (s.wait t limit start).fetches.length ≤ most := by
    have hbound : (s.wait t limit start).fetches.length ≤ _ :=
      length_fetches_rounds_le hleast hdeadline limit
    rwa [hexact, Nat.add_sub_add_left] at hbound
  have hfinished : (s.wait t (most + 1) start).result ≠ none := by
    intro hopen
    have hall : (s.wait t (most + 1) start).fetches.length = most + 1 := length_fetches_of_open hopen
    have hsome := hlength (most + 1)
    omega
  exact ⟨s.wait t (most + 1) start, hfinished, hlength _, fun limit hlimit =>
    wait_of_finished hlimit hfinished⟩

theorem wait_bounded_while_starting :
    let s := Script.source "app"
    let t := WaitTerms.forActive (.ofSeconds 5) (.ofSeconds 1)
    let start : Script (Except ApiError Observation) := ⟨[⟨.ok (.status "starting"), 0⟩], true⟩
    0 < t.config.minInterval.nanos ∧ t.deadline ≠ none ∧
      1 + (t.timeout.nanos - Clock.paused t.config.delay.nanos) ⌈/⌉
        Clock.paused t.config.minInterval.nanos = 3 ∧
      ∃ run, run.result = some (.error (.timeout "app" (some "starting") t.timeout)) ∧
        run.fetches.length = 3 ∧ ∀ limit > 3, s.wait t limit start = run := by
  intro s t start
  have hmost : 1 + (t.timeout.nanos - Clock.paused t.config.delay.nanos) ⌈/⌉
      Clock.paused t.config.minInterval.nanos = 3 := by decide +kernel
  obtain ⟨run, -, -, hrun⟩ := wait_bounded s t start (by decide +kernel) (by decide +kernel)
  rw [hmost] at hrun
  have hresult : (s.wait t 4 start).result =
      some (.error (.timeout "app" (some "starting") t.timeout)) := by decide +kernel
  have hlength : (s.wait t 4 start).fetches.length = 3 := by decide +kernel
  rw [hrun 4 (by omega)] at hresult hlength
  exact ⟨by decide +kernel, by decide +kernel, hmost, run, hresult, hlength, hrun⟩

-- The first pause should reach the deadline, but it ends a second before, and there is time for a look.
theorem long_delay_leaves_time :
    let s := Script.source "app"
    let t := WaitTerms.forActive (.ofSeconds 946080001) (.ofSeconds 946080001)
    let start : Script (Except ApiError Observation) := ⟨[⟨.ok (.status "starting"), 0⟩], true⟩
    0 < t.config.minInterval.nanos ∧ t.deadline ≠ none ∧
      1 + (t.timeout.nanos - t.config.delay.nanos) ⌈/⌉ t.config.minInterval.nanos = 1 ∧
      (s.wait t 3 start).result = some (.error (.timeout "app" (some "starting") t.timeout)) ∧
      (s.wait t 3 start).fetches.map Fetch.startedAt = [0, 946080000 * nanosPerSecond] := by
  decide +kernel

end Source

end MultiCluster
