import MultiCluster.Duration

namespace MultiCluster.Clock

-- Instants are nanoseconds since the clock began; this one no signed count of seconds in 64 bits reaches.
def limit : Nat := 9223372036854775808 * nanosPerSecond

-- Thirty years; nothing pauses for longer at once.
def longestPause : Nat := 946080000 * nanosPerSecond

-- A millisecond: timers go off at whole ones only, and never early.
def tick : Nat := 1000000

def after? (now : Nat) (d : Duration) : Option Nat :=
  if now + d.nanos < limit then some (now + d.nanos) else none

def paused (nanos : Nat) : Nat := min nanos longestPause

def roundUp (instant : Nat) : Nat := instant + (tick - instant % tick) % tick

def wake (now nanos : Nat) : Nat := roundUp (now + paused nanos)

def cancelledBy (cancelAt : Option Nat) (now : Nat) : Option Nat := cancelAt.filter (· ≤ now)

theorem after?_of_lt {now : Nat} {d : Duration} (h : now + d.nanos < limit) :
    after? now d = some (now + d.nanos) := by
  simp [after?, h]

theorem eq_of_after?_eq_some {now instant : Nat} {d : Duration}
    (h : after? now d = some instant) : instant = now + d.nanos := by
  simp only [after?, Option.ite_none_right_eq_some, Option.some.injEq] at h
  exact h.2.symm

theorem le_roundUp (instant : Nat) : instant ≤ roundUp instant := Nat.le_add_right ..

theorem roundUp_mono {a b : Nat} (h : a ≤ b) : roundUp a ≤ roundUp b := by
  simp only [roundUp, tick]
  omega

theorem roundUp_of_dvd {instant : Nat} (h : tick ∣ instant) : roundUp instant = instant := by
  simp only [roundUp, tick] at h ⊢
  omega

theorem dvd_roundUp (instant : Nat) : tick ∣ roundUp instant := by
  simp only [roundUp, tick]
  omega

theorem roundUp_le_roundUp {a b : Nat} (h : a ≤ roundUp b) : roundUp a ≤ roundUp b := by
  rw [← roundUp_of_dvd (dvd_roundUp b)]
  exact roundUp_mono h

theorem roundUp_add_of_dvd {instant nanos : Nat} (h : tick ∣ nanos) :
    roundUp (instant + nanos) = roundUp instant + nanos := by
  simp only [roundUp, tick] at h ⊢
  omega

theorem roundUp_add_le (instant nanos : Nat) :
    roundUp (instant + nanos) ≤ roundUp instant + roundUp nanos := by
  simp only [roundUp, tick]
  omega

theorem add_paused_le_wake (now nanos : Nat) : now + paused nanos ≤ wake now nanos := le_roundUp _

theorem le_wake (now nanos : Nat) : now ≤ wake now nanos :=
  Nat.le_trans (Nat.le_add_right ..) (add_paused_le_wake now nanos)

theorem lt_wake (now : Nat) {nanos : Nat} (h : 0 < nanos) : now < wake now nanos := by
  refine Nat.lt_of_lt_of_le (Nat.lt_add_of_pos_right ?_) (add_paused_le_wake now nanos)
  exact Nat.lt_min.mpr ⟨h, by decide⟩

theorem dvd_longestPause : tick ∣ longestPause := by decide

theorem wake_of_dvd {now nanos : Nat} (hnow : tick ∣ now) (hnanos : tick ∣ nanos) :
    wake now nanos = now + paused nanos := by
  refine roundUp_of_dvd (Nat.dvd_add hnow ?_)
  rw [paused]
  rcases Nat.le_total nanos longestPause with hle | hle
  · rwa [Nat.min_eq_left hle]
  · rw [Nat.min_eq_right hle]
    exact dvd_longestPause

theorem wake_min_sub {now instant : Nat} (nanos : Nat) (h : now < instant) :
    wake now (min nanos (instant - now)) =
      if instant ≤ wake now nanos then roundUp instant else wake now nanos := by
  rcases Nat.le_total instant (now + paused nanos) with hreach | hshort
  · have hwhole : now + paused (min nanos (instant - now)) = instant := by
      simp only [paused] at hreach ⊢
      omega
    rw [wake, hwhole, if_pos (Nat.le_trans hreach (add_paused_le_wake now nanos))]
  · have hsame : paused (min nanos (instant - now)) = paused nanos := by
      simp only [paused] at hshort ⊢
      omega
    rw [wake, hsame]
    split
    · rename_i hle
      exact Nat.le_antisymm (roundUp_mono hshort) (roundUp_le_roundUp hle)
    · rfl

theorem cancelledBy_none (now : Nat) : cancelledBy none now = none := rfl

theorem cancelledBy_eq_some_iff {cancelAt : Option Nat} {now c : Nat} :
    cancelledBy cancelAt now = some c ↔ cancelAt = some c ∧ c ≤ now := by
  simp [cancelledBy, Option.filter_eq_some_iff]

theorem cancelledBy_eq_none_iff {cancelAt : Option Nat} {now : Nat} :
    cancelledBy cancelAt now = none ↔ ∀ c ∈ cancelAt, now < c := by
  simp [cancelledBy, Option.filter_eq_none_iff]

theorem cancelledBy_of_lt {c now : Nat} (h : now < c) : cancelledBy (some c) now = none := by
  simp [cancelledBy_eq_none_iff, h]

theorem cancelledBy_of_le {c now : Nat} (h : c ≤ now) : cancelledBy (some c) now = some c := by
  simp [cancelledBy_eq_some_iff, h]

end MultiCluster.Clock
