import MultiCluster.Proofs.Polling.Passage
import MultiCluster.Proofs.Polling.Timetable

namespace MultiCluster

namespace WaitTerms

variable {t : WaitTerms} {object : String} {p next : Progress} {observed : Except ApiError Observation}

def Overflows (t : WaitTerms) (p : Progress) (observed : Except ApiError Observation) : Prop :=
  observed = .ok .gone ∧ t.states.acceptsRemoval = false ∧ UInt32.size ≤ p.misses.toNat + 1

theorem GoesOn.cases (h : t.GoesOn p observed next) :
    (∃ state, observed = .ok (.status state) ∧ next = ⟨some state, 0⟩) ∨
      observed = .ok .gone ∧ next = { p with misses := p.misses + 1 } ∧
        p.misses + 1 ≤ t.config.notFoundChecks := by
  cases h with
  | missed hstays hchecks => exact .inr ⟨rfl, rfl, hchecks⟩
  | waiting htarget hpending => exact .inl ⟨_, rfl, rfl⟩

theorem Ends.checks_eq {missed : String} {checks : UInt32}
    (h : t.Ends object p observed (.error (.notFound missed checks))) :
    observed = .ok .gone ∧ checks = p.misses + 1 := by
  cases h with
  | missed => exact ⟨rfl, rfl⟩

end WaitTerms

namespace Source

variable {σ ρ : Type} {s : Source σ ρ} {t : WaitTerms} {interval : Duration} {progress : Progress}
  {start state : σ} {now n : Nat}

theorem checks_of_round {run : WaitRun σ ρ} {missed : String} {checks : UInt32}
    (h : s.round t interval progress state now = .last run)
    (hmissed : run.result = some (.error (.notFound missed checks))) :
    s.observe (s.fetch state).answer = .ok .gone ∧ checks = progress.misses + 1 := by
  rcases round_last_cases h hmissed with hcancelled | ⟨_, htime⟩ | ⟨-, hends⟩
  · exact absurd hcancelled (by simp)
  · exact absurd htime (by simp [WaitTerms.timedOut])
  · exact hends.checks_eq

inductive Reaches (s : Source σ ρ) (t : WaitTerms) (start : σ) :
    Nat → Duration → Progress → σ → Nat → Prop
  | start : Reaches s t start 0 t.config.delay .start start t.startedAt
  | more {n : Nat} {interval : Duration} {progress : Progress} {state : σ} {now : Nat}
    {fetch : Fetch ρ} {next : Progress} {after : σ} {wakeAt : Nat}
    (before : Reaches s t start n interval progress state now)
    (hround : s.round t interval progress state now = .more fetch next after wakeAt) :
    Reaches s t start (n + 1) (t.config.nextInterval interval) next after wakeAt

theorem Reaches.result_wait (h : s.Reaches t start n interval progress state now) (left : Nat) :
    (s.wait t (n + left) start).result = (s.rounds t left interval progress state now).result := by
  induction h generalizing left with
  | start => rw [Nat.zero_add]; rfl
  | @more n _ _ _ _ _ _ _ _ before hround ih =>
    rw [Nat.add_assoc, Nat.add_comm 1 left, ih, rounds_succ, hround]
    rfl

theorem Reaches.eq_progressAt (h : s.Reaches t start n interval progress state now) :
    state = s.stateAt start n ∧ progress = s.progressAt start n := by
  induction h with
  | start => exact ⟨rfl, rfl⟩
  | @more n _ _ _ _ _ _ _ _ _ hround ih =>
    obtain ⟨rfl, rfl⟩ := ih
    obtain ⟨-, -, rfl, hgoesOn, -⟩ := round_more_cases hround
    refine ⟨rfl, ?_⟩
    rcases hgoesOn.cases with ⟨state, hstatus, rfl⟩ | ⟨hgone, rfl, -⟩
    · exact (progressAt_of_status hstatus).symm
    · exact (progressAt_of_gone hgone).symm

theorem Reaches.misses_eq (h : s.Reaches t start n interval progress state now) :
    progress.misses.toNat = s.goneBefore start n % UInt32.size := by
  rw [h.eq_progressAt.2]
  exact UInt32.toNat_ofNat' ..

theorem goneBefore_succ_of_gone (h : s.observedAt start n = .ok .gone) :
    s.goneBefore start (n + 1) = s.goneBefore start n + 1 := by
  rw [goneBefore, goneAt, h]
  rfl

theorem goneBefore_succ_of_status {seen : String} (h : s.observedAt start n = .ok (.status seen)) :
    s.goneBefore start (n + 1) = 0 := by
  rw [goneBefore, goneAt, h]
  rfl

-- The count is compared right after each step, so below its greatest value no step goes unnoticed.
theorem Reaches.goneBefore_le (hchecks : t.config.notFoundChecks.toNat + 1 < UInt32.size)
    (h : s.Reaches t start n interval progress state now) :
    s.goneBefore start n ≤ t.config.notFoundChecks.toNat := by
  induction h with
  | start => exact Nat.zero_le _
  | @more n _ _ _ _ _ _ _ _ before hround ih =>
    have hmisses := before.misses_eq
    obtain ⟨rfl, -⟩ := before.eq_progressAt
    obtain ⟨-, -, -, hgoesOn, -⟩ := round_more_cases hround
    rcases hgoesOn.cases with ⟨seen, hstatus, -⟩ | ⟨hgone, -, hle⟩
    · rw [goneBefore_succ_of_status hstatus]
      exact Nat.zero_le _
    · rw [goneBefore_succ_of_gone hgone]
      rw [UInt32.le_iff_toNat_le, UInt32.toNat_add, hmisses] at hle
      simp only [UInt32.size, UInt32.toNat_one] at hchecks hle
      omega

theorem misses_counted (s : Source σ ρ) (t : WaitTerms) (start : σ)
    (h : s.Reaches t start n interval progress state now) :
    progress.misses.toNat = s.goneBefore start n % UInt32.size ∧
      (t.config.notFoundChecks.toNat + 1 < UInt32.size →
        progress.misses.toNat = s.goneBefore start n ∧
        ∀ run missed checks, s.round t interval progress state now = .last run →
          run.result = some (.error (.notFound missed checks)) →
          checks.toNat = s.goneBefore start (n + 1)) ∧
      (t.Overflows progress (s.observedAt start n) ↔
        t.config.notFoundChecks.toNat + 1 = UInt32.size ∧ t.states.acceptsRemoval = false ∧
        s.observedAt start n = .ok .gone ∧ UInt32.size ∣ s.goneBefore start n + 1) := by
  have hmisses := h.misses_eq
  have hexact (hchecks : t.config.notFoundChecks.toNat + 1 < UInt32.size) :
      progress.misses.toNat = s.goneBefore start n ∧ s.goneBefore start n + 1 < UInt32.size := by
    have hle := h.goneBefore_le hchecks
    have hsmall : s.goneBefore start n + 1 < UInt32.size := by omega
    exact ⟨hmisses.trans (Nat.mod_eq_of_lt (Nat.lt_of_succ_lt hsmall)), hsmall⟩
  refine ⟨hmisses, fun hchecks => ⟨(hexact hchecks).1, fun run missed checks hround hresult => ?_⟩, ?_⟩
  · obtain ⟨heq, hsmall⟩ := hexact hchecks
    obtain ⟨hgone, rfl⟩ := checks_of_round hround hresult
    obtain ⟨rfl, -⟩ := h.eq_progressAt
    rw [goneBefore_succ_of_gone hgone, UInt32.toNat_add, heq, UInt32.toNat_one]
    exact Nat.mod_eq_of_lt hsmall
  · have hbelow : t.config.notFoundChecks.toNat < UInt32.size := t.config.notFoundChecks.toNat_lt
    have hwraps : UInt32.size ≤ progress.misses.toNat + 1 ↔ UInt32.size ∣ s.goneBefore start n + 1 := by
      rw [hmisses]
      simp only [UInt32.size]
      omega
    constructor
    · rintro ⟨hgone, hstays, hfull⟩
      refine ⟨?_, hstays, hgone, hwraps.mp hfull⟩
      by_contra hchecks
      obtain ⟨heq, hsmall⟩ := hexact (by omega)
      omega
    · rintro ⟨-, hstays, hgone, hdvd⟩
      exact ⟨hgone, hstays, hwraps.mpr hdvd⟩

def absence : Script (Except ApiError Observation) := ⟨[⟨.ok .gone, 0⟩], true⟩

end Source

def Duration.millisecond : Duration := .ofNanos 1000000

namespace WaitTerms

def eachMillisecond (timeout : Duration) (checks : UInt32) : WaitTerms where
  states := .active
  timeout := timeout
  config := ⟨.millisecond, .millisecond, .millisecond, checks, .zero⟩
  startedAt := 0
  cancelAt := none

end WaitTerms

namespace Source

theorem goneBefore_absence (object : String) (n : Nat) :
    (Script.source object).stateAt absence n = absence ∧
      (Script.source object).goneBefore absence n = n := by
  induction n with
  | zero => exact ⟨rfl, rfl⟩
  | succ n ih =>
    have hgone : (Script.source object).observedAt absence n = .ok .gone := by
      rw [observedAt, replyAt, ih.1]
      rfl
    refine ⟨?_, ?_⟩
    · rw [stateAt, ih.1]
      rfl
    · rw [goneBefore_succ_of_gone hgone, ih.2]

theorem round_absence (object : String) {timeout : Duration} {checks misses : UInt32} {now : Nat}
    (htolerated : misses + 1 ≤ checks) (hlimit : timeout.nanos < Clock.limit)
    (hnow : Clock.tick ∣ now) (hbefore : now + 1000000 < timeout.nanos) :
    (Script.source object).round (.eachMillisecond timeout checks) .millisecond ⟨none, misses⟩
        absence now =
      .more ⟨now, some (.ok .gone)⟩ ⟨none, misses + 1⟩ absence (now + 1000000) := by
  have hjudge : (WaitTerms.eachMillisecond timeout checks).judge object ⟨none, misses⟩ (.ok .gone) =
      .pending ⟨none, misses + 1⟩ := if_neg (UInt32.not_lt.mpr htolerated)
  have hdeadline : (WaitTerms.eachMillisecond timeout checks).deadline = some timeout.nanos := by
    rw [WaitTerms.deadline, Clock.after?_of_lt (by simpa [WaitTerms.eachMillisecond] using hlimit)]
    exact congrArg some (Nat.zero_add _)
  have hpause : (WaitTerms.eachMillisecond timeout checks).pause object ⟨none, misses + 1⟩ now
      .millisecond = .next (now + 1000000) := by
    have hwake : Clock.wake now (min Duration.millisecond.nanos (timeout.nanos - now)) =
        now + 1000000 := by
      have hwhole : min Duration.millisecond.nanos (timeout.nanos - now) = 1000000 := by
        have hmillisecond : Duration.millisecond.nanos = 1000000 := rfl
        omega
      rw [hwhole]
      exact Clock.wake_of_dvd hnow (Nat.dvd_refl Clock.tick)
    rw [WaitTerms.pause, hdeadline]
    simp only [hwake]
    rw [if_neg (by omega), if_neg (by omega)]
    rfl
  have hfetch : (Script.source object).fetch absence = ⟨.ok .gone, 0, absence⟩ := rfl
  have hnever : (WaitTerms.eachMillisecond timeout checks).cancelAt = none := rfl
  rw [round, onArrival, hnever, hfetch]
  simp only [Clock.cancelledBy_none, Nat.add_zero]
  rw [show (Script.source object).observe (.ok .gone) = .ok .gone from rfl,
    show (Script.source object).name = object from rfl, hjudge]
  simp only [hpause]
  rfl

theorem nextInterval_millisecond (timeout : Duration) (checks : UInt32) :
    (WaitTerms.eachMillisecond timeout checks).config.nextInterval .millisecond = .millisecond := by
  rfl

theorem reaches_absence (object : String) {timeout : Duration} {checks : UInt32} {n : Nat}
    (hlimit : timeout.nanos < Clock.limit) (hbefore : n * 1000000 < timeout.nanos)
    (htolerated : checks.toNat = 4294967295 ∨ n ≤ checks.toNat) :
    (Script.source object).Reaches (.eachMillisecond timeout checks) absence n .millisecond
      ⟨none, UInt32.ofNat n⟩ absence (n * 1000000) := by
  induction n with
  | zero =>
    rw [Nat.zero_mul]
    exact .start
  | succ n ih =>
    have hnext : n * 1000000 + 1000000 < timeout.nanos := by omega
    have hreached := ih (Nat.lt_of_le_of_lt (Nat.le_add_right _ _) hnext)
      (htolerated.imp id Nat.le_of_succ_le)
    have hcounted : UInt32.ofNat n + 1 ≤ checks := by
      rw [UInt32.le_iff_toNat_le, ← UInt32.ofNat_one, ← UInt32.ofNat_add, UInt32.toNat_ofNat']
      omega
    have hmore := hreached.more (round_absence object hcounted hlimit (Nat.dvd_mul_left _ _) hnext)
    rwa [nextInterval_millisecond, ← UInt32.ofNat_one, ← UInt32.ofNat_add, ← Nat.succ_mul] at hmore

theorem misses_counted_up_to_greatest :
    let t := WaitTerms.eachMillisecond (.ofNanos (4294967297 * 1000000)) 4294967294
    let s := Script.source "o"
    s.Reaches t absence 4294967294 .millisecond ⟨none, 4294967294⟩ absence (4294967294 * 1000000) ∧
      t.config.notFoundChecks.toNat + 1 < UInt32.size ∧
      (4294967294 : UInt32).toNat = s.goneBefore absence 4294967294 ∧
      ¬ t.Overflows ⟨none, 4294967294⟩ (s.observedAt absence 4294967294) := by
  intro t s
  have hchecks : t.config.notFoundChecks.toNat + 1 < UInt32.size := by decide +kernel
  have hreaches : s.Reaches t absence 4294967294 .millisecond ⟨none, UInt32.ofNat 4294967294⟩ absence
      (4294967294 * 1000000) :=
    reaches_absence "o" (by decide +kernel) (by decide +kernel) (.inr (by decide +kernel))
  obtain ⟨-, hcounted, hoverflows⟩ := misses_counted s t absence hreaches
  exact ⟨hreaches, hchecks, (hcounted hchecks).1,
    fun h => absurd (hoverflows.mp h).1 (by decide +kernel)⟩

theorem tolerated_absence_overflows :
    let t := WaitTerms.eachMillisecond (.ofNanos (4294967297 * 1000000)) 4294967295
    let s := Script.source "o"
    s.Reaches t absence 4294967295 .millisecond ⟨none, 4294967295⟩ absence (4294967295 * 1000000) ∧
      t.Overflows ⟨none, 4294967295⟩ (s.observedAt absence 4294967295) ∧
      s.Reaches t absence 4294967296 .millisecond ⟨none, 0⟩ absence (4294967296 * 1000000) ∧
      s.goneBefore absence 4294967296 = 4294967296 ∧
      (s.wait t 4294967297 absence).result = some (.error (.timeout "o" none t.timeout)) := by
  intro t s
  have hreaches (n : Nat) (hn : n * 1000000 < 4294967297 * 1000000) :
      s.Reaches t absence n .millisecond ⟨none, UInt32.ofNat n⟩ absence (n * 1000000) :=
    reaches_absence "o" (by decide +kernel) hn (.inl rfl)
  have hwrapped := hreaches 4294967296 (by decide +kernel)
  refine ⟨hreaches _ (by decide +kernel), ?_, hwrapped, (goneBefore_absence "o" _).2, ?_⟩
  · refine ⟨?_, by decide +kernel, by decide +kernel⟩
    rw [observedAt, replyAt, (goneBefore_absence "o" _).1]
    rfl
  · rw [hwrapped.result_wait 1]
    decide +kernel

end Source

end MultiCluster
