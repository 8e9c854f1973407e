import Mathlib.Algebra.Order.Ring.Nat
import Mathlib.Order.Monotone.Basic
import MultiCluster.Proofs.Polling.Timetable

namespace MultiCluster

def Duration.clamp? (d low high : Duration) : Option Duration :=
  if low ≤ high then some (min (max d low) high) else none

namespace PollConfig

variable (c : PollConfig)

theorem nanos_ceiling : c.ceiling.nanos = max c.minInterval.nanos c.maxInterval.nanos :=
  Duration.nanos_max _ _

theorem minInterval_le_ceiling : c.minInterval ≤ c.ceiling := by
  rw [Duration.le_def, nanos_ceiling]
  exact Nat.le_max_left _ _

theorem clamp?_double (previous : Duration) :
    previous.double.clamp? c.minInterval c.ceiling = some (c.nextInterval previous) :=
  if_pos c.minInterval_le_ceiling

-- The ceiling is a duration too, so it is reached before the longest one is.
theorem nanos_nextInterval_exact (previous : Duration) : (c.nextInterval previous).nanos =
    min c.ceiling.nanos (max (2 * previous.nanos) c.minInterval.nanos) := by
  have hceiling : c.ceiling.nanos ≤ Duration.maxNanos := c.ceiling.nanos_le
  simp only [nextInterval, Duration.nanos_min, Duration.nanos_max, Duration.nanos_double]
  omega

def backoff : Nat → Nat
  | 0 => c.delay.nanos
  | k + 1 => min (max c.minInterval.nanos c.maxInterval.nanos)
      (2 ^ k * max (2 * c.delay.nanos) c.minInterval.nanos)

theorem nanos_interval (k : Nat) : (c.interval k).nanos = c.backoff k := by
  induction k with
  | zero => rfl
  | succ k ih =>
    rw [interval_succ, nanos_nextInterval_exact, ih, nanos_ceiling]
    cases k with
    | zero => simp [backoff]
    | succ k =>
      have hgrown : max (2 * c.delay.nanos) c.minInterval.nanos ≤
          2 ^ k * max (2 * c.delay.nanos) c.minInterval.nanos :=
        Nat.le_mul_of_pos_left _ (Nat.two_pow_pos k)
      simp only [backoff, Nat.pow_succ', Nat.mul_assoc]
      omega

theorem backoff_succ_mono {j k : Nat} (h : j ≤ k) : c.backoff (j + 1) ≤ c.backoff (k + 1) := by
  refine monotone_nat_of_le_succ (f := fun k => c.backoff (k + 1)) (fun k => ?_) h
  simp only [backoff, Nat.pow_succ', Nat.mul_assoc]
  omega

theorem intervals_eq (count : Nat) : c.intervals count = (List.range count).map c.interval := by
  refine List.ext_getElem? fun n => ?_
  rw [List.getElem?_map]
  by_cases h : n < count
  · rw [c.getElem?_intervals h, List.getElem?_range h, Option.map_some]
  · rw [List.getElem?_eq_none (by rw [intervals, length_intervalsFrom]; omega),
      List.getElem?_eq_none (by simpa using h), Option.map_none]

theorem tail_intervals (count : Nat) :
    (c.intervals count).tail = (List.range (count - 1)).map fun k => c.interval (k + 1) := by
  cases count with
  | zero => rfl
  | succ count =>
    rw [intervals_eq, List.range_succ_eq_map, List.map_cons, List.tail_cons, List.map_map]
    rfl

theorem intervals_back_off (c : PollConfig) (count : Nat) :
    (∀ previous, previous.double.clamp? c.minInterval c.ceiling = some (c.nextInterval previous)) ∧
      (c.intervals count).length = count ∧
      (c.intervals count).map Duration.nanos = (List.range count).map c.backoff ∧
      (c.intervals count).tail.Pairwise (· ≤ ·) ∧
      ∀ d ∈ (c.intervals count).tail, c.minInterval ≤ d ∧ d ≤ c.ceiling := by
  refine ⟨c.clamp?_double, length_intervalsFrom c c.delay count, ?_, ?_, ?_⟩
  · rw [intervals_eq, List.map_map]
    exact List.map_congr_left fun k _ => c.nanos_interval k
  · rw [tail_intervals, List.pairwise_map]
    refine List.pairwise_lt_range.imp fun hlt => ?_
    rw [Duration.le_def, nanos_interval, nanos_interval]
    exact c.backoff_succ_mono (Nat.le_of_lt hlt)
  · rw [tail_intervals, List.forall_mem_map]
    intro k _
    rw [interval_succ]
    exact ⟨c.minInterval_le_nextInterval _, c.nextInterval_le_ceiling _⟩

theorem intervals_back_off_from_longest :
    let c : PollConfig :=
      { standard with delay := .longest, minInterval := .ofSeconds 3, maxInterval := .ofSeconds 1 }
    Duration.ofSeconds 3 ∈ (c.intervals 3).tail ∧ c.minInterval ≤ .ofSeconds 3 ∧
      .ofSeconds 3 ≤ c.ceiling ∧
      (c.intervals 3).map Duration.nanos =
        [Duration.maxNanos, 3 * nanosPerSecond, 3 * nanosPerSecond] := by
  intro c
  obtain ⟨-, -, hnanos, -, hbounds⟩ := intervals_back_off c 3
  have hmem : Duration.ofSeconds 3 ∈ (c.intervals 3).tail := by decide +kernel
  exact ⟨hmem, (hbounds _ hmem).1, (hbounds _ hmem).2, hnanos.trans (by decide +kernel)⟩

end PollConfig

end MultiCluster
