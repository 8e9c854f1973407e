namespace MultiCluster

def nanosPerSecond : Nat := 1000000000

structure Duration where
  nanos : Nat
  nanos_le : nanos ≤ 18446744073709551615999999999
  deriving DecidableEq, Repr

namespace Duration

def maxNanos : Nat := 18446744073709551615999999999

def ofNanos (n : Nat) : Duration := ⟨min n maxNanos, Nat.min_le_right ..⟩

def ofSeconds (n : Nat) : Duration := ofNanos (n * nanosPerSecond)

def longest : Duration := ⟨maxNanos, Nat.le_refl _⟩

def zero : Duration := ⟨0, Nat.zero_le _⟩

instance : Inhabited Duration := ⟨zero⟩

instance : LE Duration := ⟨fun a b => a.nanos ≤ b.nanos⟩

instance : LT Duration := ⟨fun a b => a.nanos < b.nanos⟩

instance (a b : Duration) : Decidable (a ≤ b) := inferInstanceAs (Decidable (a.nanos ≤ b.nanos))

instance (a b : Duration) : Decidable (a < b) := inferInstanceAs (Decidable (a.nanos < b.nanos))

instance : Max Duration := maxOfLe

instance : Min Duration := minOfLe

def double (d : Duration) : Duration := ofNanos (2 * d.nanos)

def seconds (d : Duration) : Nat := d.nanos / nanosPerSecond

def subsecNanos (d : Duration) : Nat := d.nanos % nanosPerSecond

theorem le_def {a b : Duration} : a ≤ b ↔ a.nanos ≤ b.nanos := Iff.rfl

@[simp] theorem nanos_ofNanos (n : Nat) : (ofNanos n).nanos = min n maxNanos := rfl

theorem nanos_double (d : Duration) : d.double.nanos = min (2 * d.nanos) maxNanos := rfl

theorem nanos_max (a b : Duration) : (max a b).nanos = max a.nanos b.nanos := by
  show (if a ≤ b then b else a).nanos = max a.nanos b.nanos
  simp only [le_def]
  split <;> omega

theorem nanos_min (a b : Duration) : (min a b).nanos = min a.nanos b.nanos := by
  show (if a ≤ b then a else b).nanos = min a.nanos b.nanos
  simp only [le_def]
  split <;> omega

theorem seconds_add_subsecNanos (d : Duration) :
    d.seconds * nanosPerSecond + d.subsecNanos = d.nanos :=
  Nat.div_add_mod' ..

def fractionDigits (places fraction : Nat) : List Char :=
  let digits := Nat.toDigits 10 fraction
  let padded := List.replicate (places - digits.length) '0' ++ digits
  ((padded.reverse).dropWhile (· = '0')).reverse

def withUnit (whole places fraction : Nat) (unit : String) : String :=
  toString whole ++
    (if fraction = 0 then "" else "." ++ String.ofList (fractionDigits places fraction)) ++ unit

def text (d : Duration) : String :=
  let nanos := d.subsecNanos
  if 0 < d.seconds then withUnit d.seconds 9 nanos "s"
  else if 1000000 ≤ nanos then withUnit (nanos / 1000000) 6 (nanos % 1000000) "ms"
  else if 1000 ≤ nanos then withUnit (nanos / 1000) 3 (nanos % 1000) "µs"
  else withUnit nanos 0 0 "ns"

end Duration

end MultiCluster
