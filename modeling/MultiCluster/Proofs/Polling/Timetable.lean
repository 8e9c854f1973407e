import Mathlib.Control.Monad.Basic
import MultiCluster.Api.Script
import MultiCluster.Proofs.Polling.Round

namespace MultiCluster

namespace PollConfig

def interval (c : PollConfig) (n : Nat) : Duration := (c.intervals (n + 1)).getD n .zero

theorem getElem?_intervalsFrom_succ (c : PollConfig) (d : Duration) {n count : Nat}
    (h : n + 1 < count) : (c.intervalsFrom d count)[n + 1]? =
      ((c.intervalsFrom d count)[n]?).map c.nextInterval := by
  induction n generalizing d count with
  | zero =>
    obtain ⟨count, rfl⟩ : ∃ m, count = m + 2 := ⟨count - 2, by omega⟩
    rfl
  | succ n ih =>
    obtain ⟨count, rfl⟩ : ∃ m, count = m + 1 := ⟨count - 1, by omega⟩
    exact ih (c.nextInterval d) (by omega)

theorem getElem?_intervalsFrom_of_lt (c : PollConfig) (d : Duration) {n first second : Nat}
    (hfirst : n < first) (hsecond : n < second) :
    (c.intervalsFrom d first)[n]? = (c.intervalsFrom d second)[n]? := by
  induction n generalizing d first second with
  | zero =>
    obtain ⟨first, rfl⟩ : ∃ m, first = m + 1 := ⟨first - 1, by omega⟩
    obtain ⟨second, rfl⟩ : ∃ m, second = m + 1 := ⟨second - 1, by omega⟩
    rfl
  | succ n ih =>
    obtain ⟨first, rfl⟩ : ∃ m, first = m + 1 := ⟨first - 1, by omega⟩
    obtain ⟨second, rfl⟩ : ∃ m, second = m + 1 := ⟨second - 1, by omega⟩
    exact ih (c.nextInterval d) (by omega) (by omega)

theorem getElem?_intervals (c : PollConfig) {n count : Nat} (h : n < count) :
    (c.intervals count)[n]? = some (c.interval n) := by
  have hlength : n < (c.intervalsFrom c.delay (n + 1)).length := by
    rw [length_intervalsFrom]
    omega
  rw [intervals, c.getElem?_intervalsFrom_of_lt c.delay h (Nat.lt_succ_self n), interval, intervals,
    List.getD_eq_getElem?_getD, List.getElem?_eq_getElem hlength]
  rfl

theorem tick_dvd_nextInterval {c : PollConfig} {d : Duration} (hmin : Clock.tick ∣ c.minInterval.nanos)
    (hmax : Clock.tick ∣ c.maxInterval.nanos) (hd : Clock.tick ∣ d.nanos) :
    Clock.tick ∣ (c.nextInterval d).nanos := by
  have hceiling : Clock.tick ∣ max c.minInterval.nanos c.maxInterval.nanos := by
    rcases Nat.le_total c.minInterval.nanos c.maxInterval.nanos with hle | hle
    · rwa [Nat.max_eq_right hle]
    · rwa [Nat.max_eq_left hle]
  have hleast := c.minInterval.nanos_le
  have hgreatest := c.maxInterval.nanos_le
  rw [nanos_nextInterval, Duration.maxNanos]
  -- Doubling stops at a length that is no whole millisecond, but no upper bound lies beyond it.
  rcases Nat.lt_or_ge (2 * d.nanos) (max c.minInterval.nanos c.maxInterval.nanos) with hlt | hge
  · rw [Nat.min_eq_left (show 2 * d.nanos ≤ 18446744073709551615999999999 by omega)]
    rcases Nat.le_total (2 * d.nanos) c.minInterval.nanos with hle | hle
    · rwa [Nat.max_eq_right hle, Nat.min_eq_left (Nat.le_max_left ..)]
    · rw [Nat.max_eq_left hle, Nat.min_eq_left (Nat.le_of_lt hlt)]
      exact Nat.dvd_mul_left_of_dvd hd 2
  · rwa [Nat.min_eq_right (by omega)]

theorem interval_succ (c : PollConfig) (n : Nat) :
    c.interval (n + 1) = c.nextInterval (c.interval n) := by
  have hnext := c.getElem?_intervalsFrom_succ c.delay (show n + 1 < n + 2 by omega)
  rw [← intervals, c.getElem?_intervals (by omega), c.getElem?_intervals (by omega)] at hnext
  exact Option.some.inj hnext

theorem tick_dvd_interval {c : PollConfig} (hdelay : Clock.tick ∣ c.delay.nanos)
    (hmin : Clock.tick ∣ c.minInterval.nanos) (hmax : Clock.tick ∣ c.maxInterval.nanos) (n : Nat) :
    Clock.tick ∣ (c.interval n).nanos := by
  induction n with
  | zero => exact hdelay
  | succ n ih =>
    rw [interval_succ]
    exact tick_dvd_nextInterval hmin hmax ih

end PollConfig

namespace Source

variable {σ ρ : Type} (s : Source σ ρ) (t : WaitTerms) (start : σ)

def stateAt : Nat → σ
  | 0 => start
  | n + 1 => (s.fetch (stateAt n)).state

def replyAt (n : Nat) : Reply σ ρ := s.fetch (s.stateAt start n)

def observedAt (n : Nat) : Except ApiError Observation := s.observe (s.replyAt start n).answer

def statusAt (n : Nat) : Option String :=
  match s.observedAt start n with
  | .ok (.status state) => some state
  | _ => none

def goneAt (n : Nat) : Bool :=
  match s.observedAt start n with
  | .ok .gone => true
  | _ => false

def beginsAt : Nat → Nat
  | 0 => t.startedAt
  | n + 1 => Clock.wake (beginsAt n + (s.replyAt start n).latency) (t.config.interval n).nanos

def arrivesAt (n : Nat) : Nat := s.beginsAt t start n + (s.replyAt start n).latency

def lastStatusAt (n : Nat) : Option String :=
  ((List.range (n + 1)).filterMap (s.statusAt start)).getLast?

def GoneSince (checks n : Nat) : Prop :=
  checks ≤ n ∧ ∀ back ≤ checks, s.goneAt start (n - back) = true

instance (checks n : Nat) : Decidable (s.GoneSince start checks n) :=
  inferInstanceAs (Decidable (_ ∧ _))

def timeoutAt (n : Nat) : Option (Except PollError String × Nat) :=
  match t.deadline with
  | none => none
  | some deadline =>
    let timeout := .error (.timeout s.name (s.lastStatusAt start n) t.timeout)
    if deadline ≤ s.arrivesAt t start n then some (timeout, s.arrivesAt t start n)
    else if deadline ≤ s.beginsAt t start (n + 1) then some (timeout, Clock.roundUp deadline)
    else none

def endAt (n : Nat) : Option (Except PollError String) :=
  match s.observedAt start n with
  | .error e => some (.error (.fetch e))
  | .ok (.status state) =>
    if state ∈ t.states.target then some (.ok state)
    else if t.states.pending ≠ [] ∧ state ∉ t.states.pending then
      some (.error (.unexpectedState s.name state (t.states.pending ++ t.states.target)))
    else none
  | .ok .gone =>
    if State.removed ∈ t.states.target then some (.ok State.removed)
    else if s.GoneSince start t.config.notFoundChecks.toNat n then
      some (.error (.notFound s.name (t.config.notFoundChecks + 1)))
    else none

def outcomeAt (n : Nat) : Option (Except PollError String × Nat) :=
  match s.endAt t start n with
  | some result => some (result, s.arrivesAt t start n)
  | none => s.timeoutAt t start n

def fetchAt (n : Nat) : Fetch ρ := ⟨s.beginsAt t start n, some (s.replyAt start n).answer⟩

structure InMillis : Prop where
  startedAt : Clock.tick ∣ t.startedAt
  deadline : ∀ deadline ∈ t.deadline, Clock.tick ∣ deadline
  latency (n : Nat) : Clock.tick ∣ (s.replyAt start n).latency
  interval (n : Nat) : Clock.tick ∣ (t.config.interval n).nanos

def goneBefore : Nat → Nat
  | 0 => 0
  | n + 1 => if s.goneAt start n then goneBefore n + 1 else 0

def progressAt (n : Nat) : Progress :=
  ⟨((List.range n).filterMap (s.statusAt start)).getLast?, UInt32.ofNat (s.goneBefore start n)⟩

variable {s t start} {n : Nat}

namespace InMillis

theorem beginsAt (h : s.InMillis t start) (n : Nat) : Clock.tick ∣ s.beginsAt t start n := by
  cases n with
  | zero => exact h.startedAt
  | succ n => exact Clock.dvd_roundUp _

theorem beginsAt_succ (h : s.InMillis t start) (n : Nat) : s.beginsAt t start (n + 1) =
    s.arrivesAt t start n + min (t.config.interval n).nanos Clock.longestPause :=
  Clock.wake_of_dvd (Nat.dvd_add (h.beginsAt n) (h.latency n)) (h.interval n)

theorem timeoutAt (h : s.InMillis t start) {deadline : Nat} (hdeadline : t.deadline = some deadline)
    (n : Nat) : s.timeoutAt t start n =
      if deadline ≤ s.arrivesAt t start n ∨ deadline ≤ s.beginsAt t start (n + 1) then
        some (.error (.timeout s.name (s.lastStatusAt start n) t.timeout),
          max (s.arrivesAt t start n) deadline)
      else none := by
  simp only [Source.timeoutAt, hdeadline, Clock.roundUp_of_dvd (h.deadline deadline hdeadline)]
  by_cases hlate : deadline ≤ s.arrivesAt t start n
  · simp only [hlate, ↓reduceIte, true_or, Nat.max_eq_left]
  · simp only [hlate, ↓reduceIte, false_or, Nat.max_eq_right (Nat.le_of_not_le hlate)]

end InMillis

theorem goneSince_zero : s.GoneSince start 0 n ↔ s.goneAt start n = true := by
  constructor
  · intro h
    exact h.2 0 (Nat.le_refl 0)
  · intro h
    refine ⟨Nat.zero_le n, fun back hback => ?_⟩
    obtain rfl := Nat.le_zero.mp hback
    exact h

theorem goneSince_succ {checks : Nat} : s.GoneSince start (checks + 1) (n + 1) ↔
    s.goneAt start (n + 1) = true ∧ s.GoneSince start checks n := by
  constructor
  · rintro ⟨hle, hall⟩
    refine ⟨hall 0 (Nat.zero_le _), by omega, fun back hback => ?_⟩
    have hshift := hall (back + 1) (by omega)
    rwa [Nat.add_sub_add_right] at hshift
  · rintro ⟨hlast, hle, hall⟩
    refine ⟨by omega, fun back hback => ?_⟩
    cases back with
    | zero => exact hlast
    | succ back =>
      rw [Nat.add_sub_add_right]
      exact hall back (by omega)

theorem goneSince_iff {checks : Nat} :
    s.GoneSince start checks n ↔ checks < s.goneBefore start (n + 1) := by
  induction n generalizing checks with
  | zero =>
    cases checks with
    | zero =>
      rw [goneSince_zero]
      cases h : s.goneAt start 0 <;> simp [goneBefore, h]
    | succ checks =>
      have hnot : ¬ s.GoneSince start (checks + 1) 0 := fun h => absurd h.1 (by omega)
      cases h : s.goneAt start 0 <;> simp [goneBefore, h, hnot]
  | succ n ih =>
    cases checks with
    | zero =>
      rw [goneSince_zero, goneBefore]
      cases h : s.goneAt start (n + 1) <;> simp
    | succ checks =>
      have hstep : s.goneBefore start (n + 1 + 1) =
          if s.goneAt start (n + 1) then s.goneBefore start (n + 1) + 1 else 0 := rfl
      rw [goneSince_succ, ih, hstep]
      cases h : s.goneAt start (n + 1) <;> simp

theorem lastStatus_progressAt_succ :
    (s.progressAt start (n + 1)).lastStatus = s.lastStatusAt start n := rfl

theorem progressAt_of_status {state : String} (h : s.observedAt start n = .ok (.status state)) :
    s.progressAt start (n + 1) = ⟨some state, 0⟩ := by
  have hstatus : s.statusAt start n = some state := by rw [statusAt, h]
  have hgone : s.goneAt start n = false := by rw [goneAt, h]
  simp [progressAt, List.range_succ, hstatus, goneBefore, hgone]

theorem progressAt_of_gone (h : s.observedAt start n = .ok .gone) :
    s.progressAt start (n + 1) =
      { s.progressAt start n with misses := (s.progressAt start n).misses + 1 } := by
  have hstatus : s.statusAt start n = none := by rw [statusAt, h]
  have hgone : s.goneAt start n = true := by rw [goneAt, h]
  simp [progressAt, List.range_succ, hstatus, goneBefore, hgone]

theorem judge_progressAt (hchecks : t.config.notFoundChecks < 4294967295)
    (hgone : s.goneBefore start n ≤ t.config.notFoundChecks.toNat) :
    t.judge s.name (s.progressAt start n) (s.observedAt start n) =
      match s.endAt t start n with
      | some result => .ended result
      | none => .pending (s.progressAt start (n + 1)) := by
  cases hobserved : s.observedAt start n with
  | error e => simp only [WaitTerms.judge, endAt, hobserved]
  | ok observation =>
    cases observation with
    | status state =>
      simp only [WaitTerms.judge, WaitTerms.judgeObservation, endAt, hobserved,
        progressAt_of_status hobserved]
      by_cases htarget : state ∈ t.states.target
      · simp only [htarget, StateSpec.isTarget, List.contains_eq_mem, decide_true, ↓reduceIte]
      · by_cases hpending : t.states.pending ≠ [] ∧ state ∉ t.states.pending
        · simp [htarget, StateSpec.isTarget, StateSpec.isPending, hpending]
        · have hstays : t.states.isPending state = true := by
            rw [Decidable.not_and_iff_not_or_not, Decidable.not_not, Decidable.not_not] at hpending
            simpa [StateSpec.isPending] using hpending
          simp [htarget, StateSpec.isTarget, hstays, hpending]
    | gone =>
      simp only [WaitTerms.judge, WaitTerms.judgeObservation, endAt, hobserved,
        progressAt_of_gone hobserved]
      have hlast : s.goneAt start n = true := by rw [goneAt, hobserved]
      have hnext : s.goneBefore start (n + 1) = s.goneBefore start n + 1 := by
        rw [goneBefore, if_pos hlast]
      have hsince : s.GoneSince start t.config.notFoundChecks.toNat n ↔
          s.goneBefore start n = t.config.notFoundChecks.toNat := by
        rw [goneSince_iff, hnext]
        omega
      have hover : t.config.notFoundChecks < (s.progressAt start n).misses + 1 ↔
          s.goneBefore start n = t.config.notFoundChecks.toNat := by
        have hlimit : t.config.notFoundChecks.toNat < 4294967295 := UInt32.lt_iff_toNat_lt.mp hchecks
        rw [UInt32.lt_iff_toNat_lt, UInt32.toNat_add, progressAt, UInt32.toNat_ofNat']
        simp only [UInt32.reduceToNat]
        omega
      have hmisses (heq : s.goneBefore start n = t.config.notFoundChecks.toNat) :
          (s.progressAt start n).misses = t.config.notFoundChecks := by
        rw [progressAt, heq, UInt32.ofNat_toNat]
      by_cases hremoval : State.removed ∈ t.states.target
      · simp only [StateSpec.acceptsRemoval, List.contains_eq_mem, hremoval, decide_true, ↓reduceIte]
      · by_cases hall : s.goneBefore start n = t.config.notFoundChecks.toNat
        · have hfull := hover.mpr hall
          rw [hmisses hall] at hfull
          simp [StateSpec.acceptsRemoval, hremoval, hsince, hall, hmisses hall, hfull]
        · simp [StateSpec.acceptsRemoval, hremoval, hover, hsince, hall]

theorem pause_progressAt (s : Source σ ρ) (start : σ) (n : Nat) (hnever : t.cancelAt = none) :
    t.pause s.name (s.progressAt start (n + 1)) (s.arrivesAt t start n) (t.config.interval n) =
      match s.timeoutAt t start n with
      | some (result, endedAt) => .over result endedAt
      | none => .next (s.beginsAt t start (n + 1)) := by
  have hbegins : s.beginsAt t start (n + 1) =
      Clock.wake (s.arrivesAt t start n) (t.config.interval n).nanos := rfl
  unfold WaitTerms.pause timeoutAt
  cases t.deadline with
  | none => simp only [hnever, Clock.cancelledBy_none, hbegins]
  | some deadline =>
    simp only [hnever, Clock.cancelledBy_none, WaitTerms.timedOut, lastStatus_progressAt_succ, hbegins]
    by_cases hlate : deadline ≤ s.arrivesAt t start n
    · simp only [hlate, ↓reduceIte]
    · have hwake := Clock.wake_min_sub (t.config.interval n).nanos (Nat.lt_of_not_le hlate)
      by_cases hnext : deadline ≤ Clock.wake (s.arrivesAt t start n) (t.config.interval n).nanos
      · rw [if_pos hnext] at hwake
        simp only [hlate, hnext, hwake, Clock.le_roundUp deadline, ↓reduceIte]
      · rw [if_neg hnext] at hwake
        simp only [hlate, hnext, hwake, ↓reduceIte]

theorem rounds_step (hnever : t.cancelAt = none) (hchecks : t.config.notFoundChecks < 4294967295)
    (hgone : s.goneBefore start n ≤ t.config.notFoundChecks.toNat) (left : Nat) :
    s.rounds t (left + 1) (t.config.interval n) (s.progressAt start n) (s.stateAt start n)
        (s.beginsAt t start n) =
      match s.outcomeAt t start n with
      | some (result, endedAt) =>
        ⟨some result, [s.fetchAt t start n], s.stateAt start (n + 1), endedAt⟩
      | none =>
        let run := s.rounds t left (t.config.interval (n + 1)) (s.progressAt start (n + 1))
          (s.stateAt start (n + 1)) (s.beginsAt t start (n + 1))
        { run with fetches := s.fetchAt t start n :: run.fetches } := by
  have hjudge := judge_progressAt hchecks hgone
  have hpause := pause_progressAt s start n hnever
  simp only [observedAt, replyAt] at hjudge
  simp only [arrivesAt, replyAt] at hpause
  simp only [rounds, hnever, Clock.cancelledBy_none, hjudge, outcomeAt]
  cases s.endAt t start n with
  | some result => rfl
  | none =>
    simp only [hpause]
    cases s.timeoutAt t start n with
    | some timeout => rfl
    | none =>
      rw [t.config.interval_succ]
      rfl

theorem goneBefore_le (h : ∀ k < n, s.outcomeAt t start k = none) :
    s.goneBefore start n ≤ t.config.notFoundChecks.toNat := by
  cases n with
  | zero => exact Nat.zero_le _
  | succ n =>
    have hend : s.endAt t start n = none := by
      have hnone := h n (Nat.lt_succ_self n)
      unfold outcomeAt at hnone
      split at hnone
      · exact absurd hnone (by simp)
      · assumption
    cases hlast : s.goneAt start n with
    | false => simp [goneBefore, hlast]
    | true =>
      have hobserved : s.observedAt start n = .ok .gone := by
        unfold goneAt at hlast
        split at hlast
        · assumption
        · exact absurd hlast Bool.false_ne_true
      have hnot : ¬ s.GoneSince start t.config.notFoundChecks.toNat n := by
        intro hsince
        simp only [endAt, hobserved, hsince, ↓reduceIte] at hend
        split at hend <;> exact absurd hend (by simp)
      rw [goneSince_iff] at hnot
      omega

theorem wait_add (hnever : t.cancelAt = none) (hchecks : t.config.notFoundChecks < 4294967295)
    (left : Nat) (h : ∀ k < n, s.outcomeAt t start k = none) :
    s.wait t (n + left) start =
      let run := s.rounds t left (t.config.interval n) (s.progressAt start n) (s.stateAt start n)
        (s.beginsAt t start n)
      { run with fetches := (List.range n).map (s.fetchAt t start) ++ run.fetches } := by
  induction n generalizing left with
  | zero => rw [Nat.zero_add]; rfl
  | succ n ih =>
    have hbefore : ∀ k < n, s.outcomeAt t start k = none := fun k hk => h k (by omega)
    have hstep := rounds_step hnever hchecks (goneBefore_le hbefore) left
    rw [h n (Nat.lt_succ_self n)] at hstep
    rw [Nat.add_right_comm, Nat.add_assoc, ih (left + 1) hbefore, hstep]
    simp only [List.range_succ, List.map_append, List.map_cons, List.map_nil, List.append_assoc,
      List.singleton_append]

theorem wait_follows_timetable (s : Source σ ρ) (t : WaitTerms) (start : σ) (limit : Nat)
    (hnever : t.cancelAt = none) (hchecks : t.config.notFoundChecks < 4294967295) :
    let run := s.wait t limit start
    (∀ n < limit, ∀ result endedAt, (∀ k < n, s.outcomeAt t start k = none) →
      s.outcomeAt t start n = some (result, endedAt) →
      run.result = some result ∧ run.endedAt = endedAt ∧ run.state = s.stateAt start (n + 1) ∧
        run.fetches = (List.range (n + 1)).map (s.fetchAt t start)) ∧
      ((∀ k < limit, s.outcomeAt t start k = none) →
        run.result = none ∧ run.fetches = (List.range limit).map (s.fetchAt t start)) ∧
      (s.InMillis t start → ∀ n,
        s.beginsAt t start (n + 1) =
          s.arrivesAt t start n + min (t.config.interval n).nanos Clock.longestPause ∧
        ∀ deadline ∈ t.deadline, s.timeoutAt t start n =
          if deadline ≤ s.arrivesAt t start n ∨ deadline ≤ s.beginsAt t start (n + 1) then
            some (.error (.timeout s.name (s.lastStatusAt start n) t.timeout),
              max (s.arrivesAt t start n) deadline)
          else none) := by
  refine ⟨fun n hn result endedAt hbefore houtcome => ?_, fun hnone => ?_, fun hmillis n =>
    ⟨hmillis.beginsAt_succ n, fun deadline hdeadline => hmillis.timeoutAt hdeadline n⟩⟩
  · obtain ⟨left, rfl⟩ : ∃ left, limit = n + (left + 1) := ⟨limit - n - 1, by omega⟩
    have hstep := rounds_step hnever hchecks (goneBefore_le hbefore) left
    rw [houtcome] at hstep
    rw [wait_add hnever hchecks (left + 1) hbefore, hstep]
    refine ⟨rfl, rfl, rfl, ?_⟩
    rw [List.range_succ, List.map_append]
    rfl
  · have hall := wait_add hnever hchecks 0 hnone
    rw [Nat.add_zero] at hall
    rw [hall]
    exact ⟨rfl, List.append_nil _⟩

end Source

namespace Script

variable {t : WaitTerms} {start : Script (Except ApiError Observation)}

theorem inMillis (name : String) (hstarted : Clock.tick ∣ t.startedAt)
    (hdeadline : ∀ deadline ∈ t.deadline, Clock.tick ∣ deadline)
    (hlatency : ∀ entry ∈ start.entries, Clock.tick ∣ entry.latency)
    (hdelay : Clock.tick ∣ t.config.delay.nanos) (hmin : Clock.tick ∣ t.config.minInterval.nanos)
    (hmax : Clock.tick ∣ t.config.maxInterval.nanos) : (source name).InMillis t start := by
  have hentries (n : Nat) : ∀ entry ∈ ((source name).stateAt start n).entries,
      Clock.tick ∣ entry.latency := by
    induction n with
    | zero => exact hlatency
    | succ n ih => exact fun entry hentry => ih entry (mem_of_mem_take hentry)
  refine ⟨hstarted, hdeadline, fun n => ?_, PollConfig.tick_dvd_interval hdelay hmin hmax⟩
  exact latency_take (hentries n) (Nat.dvd_zero _)

end Script

namespace WaitTerms

def forActive (timeout delay : Duration) : WaitTerms :=
  ⟨.active, timeout, { PollConfig.standard with delay := delay }, 0, none⟩

end WaitTerms

namespace Source

theorem wait_follows_timetable_to_active :
    let s := Script.source "app"
    let t := WaitTerms.forActive (.ofSeconds 60) (.ofSeconds 1)
    let start : Script (Except ApiError Observation) :=
      ⟨[⟨.ok (.status "starting"), nanosPerSecond⟩, ⟨.ok .gone, 0⟩, ⟨.ok (.status "active"), 0⟩],
        false⟩
    t.cancelAt = none ∧ t.config.notFoundChecks < 4294967295 ∧ s.InMillis t start ∧
      (∀ k < 2, s.outcomeAt t start k = none) ∧
      s.outcomeAt t start 2 = some (.ok "active", 5 * nanosPerSecond) ∧
      (s.wait t 10 start).result = some (.ok "active") ∧
      (s.wait t 10 start).fetches.map Fetch.startedAt =
        [0, 2 * nanosPerSecond, 5 * nanosPerSecond] ∧
      s.beginsAt t start 2 =
        s.arrivesAt t start 1 + min (t.config.interval 1).nanos Clock.longestPause := by
  intro s t start
  have hmillis : s.InMillis t start := Script.inMillis "app" (by decide +kernel) (by decide +kernel)
    (by decide +kernel) (by decide +kernel) (by decide +kernel) (by decide +kernel)
  have hbefore : ∀ k < 2, s.outcomeAt t start k = none := by decide +kernel
  have houtcome : s.outcomeAt t start 2 = some (.ok "active", 5 * nanosPerSecond) := by
    decide +kernel
  obtain ⟨hends, -, htimes⟩ := wait_follows_timetable s t start 10 rfl (by decide +kernel)
  obtain ⟨hresult, -, -, hfetches⟩ := hends 2 (by omega) _ _ hbefore houtcome
  refine ⟨rfl, by decide +kernel, hmillis, hbefore, houtcome, hresult, ?_, (htimes hmillis 1).1⟩
  rw [hfetches]
  decide +kernel

theorem long_interval_is_cut :
    let s := Script.source "app"
    let t := WaitTerms.forActive .longest (.ofSeconds 946080001)
    let start : Script (Except ApiError Observation) :=
      ⟨[⟨.ok (.status "starting"), 0⟩, ⟨.ok (.status "active"), 0⟩], false⟩
    t.cancelAt = none ∧ t.config.notFoundChecks < 4294967295 ∧ s.InMillis t start ∧ t.deadline = none ∧
      (s.wait t 2 start).result = some (.ok "active") ∧
      (s.wait t 2 start).fetches.map Fetch.startedAt = [0, 946080000 * nanosPerSecond] ∧
      (s.wait t 2 start).fetches.map Fetch.startedAt ≠
        [0, s.arrivesAt t start 0 + (t.config.interval 0).nanos] := by
  refine ⟨rfl, by decide +kernel, Script.inMillis "app" ?_ ?_ ?_ ?_ ?_ ?_, ?_⟩
  all_goals decide +kernel

end Source

end MultiCluster
