namespace MultiCluster

structure Binary64 where
  significand : Nat
  exponent : Int
  deriving DecidableEq, Repr

namespace Binary64

def precision : Nat := 53

def minExponent : Int := -1074

def maxExponent : Int := 971

def zero : Binary64 := ⟨0, minExponent⟩

def isZero (x : Binary64) : Bool := x.significand = 0

def nearest (num den : Nat) : Nat :=
  let q := num / den
  let r := num % den
  if den < 2 * r ∨ (2 * r = den ∧ q % 2 = 1) then q + 1 else q

def scaled (num den : Nat) (exponent : Int) : Nat × Nat :=
  let step := Nat.pow 2 exponent.natAbs
  if exponent < 0 then (num * step, den) else (num, den * step)

def exponentOf (num den : Nat) : Int :=
  let guess : Int := (num.log2 : Int) - (den.log2 : Int) - (precision - 1 : Nat)
  let (n, d) := scaled num den guess
  let exact := if n / d < Nat.pow 2 (precision - 1) then guess - 1 else guess
  max exact minExponent

def round (num den : Nat) : Option Binary64 :=
  if num = 0 then some zero
  else
    let exponent := exponentOf num den
    let (n, d) := scaled num den exponent
    let significand := nearest n d
    let rounded : Binary64 :=
      if significand = Nat.pow 2 precision then ⟨Nat.pow 2 (precision - 1), exponent + 1⟩
      else ⟨significand, exponent⟩
    if maxExponent < rounded.exponent then none else some rounded

def quotient (x : Binary64) : Nat × Nat := scaled x.significand 1 (-x.exponent)

def mul (x y : Binary64) : Option Binary64 :=
  let (a, b) := x.quotient
  let (c, d) := y.quotient
  round (a * c) (b * d)

def div (x y : Binary64) : Option Binary64 :=
  let (a, b) := x.quotient
  let (c, d) := y.quotient
  round (a * d) (b * c)

def decimalExponent (num den : Nat) : Int :=
  let digits (n : Nat) : Int := (Nat.toDigits 10 n).length
  let guess := digits num - digits den
  let atLeast (p : Int) : Bool :=
    if p < 0 then den ≤ num * Nat.pow 10 p.natAbs else den * Nat.pow 10 p.natAbs ≤ num
  if atLeast guess then guess else guess - 1

def readsBack (x : Binary64) (num den : Nat) : Bool :=
  let (xn, xd) := x.quotient
  -- quarters of the last place, above and below
  let (un, ud) := scaled 1 4 (-x.exponent)
  let below := if x.significand = Nat.pow 2 (precision - 1) ∧ minExponent < x.exponent then 1 else 2
  let closed := x.significand % 2 = 0
  let lower := (xn * ud - below * un * xd, xd * ud)
  let upper := (xn * ud + 2 * un * xd, xd * ud)
  let left := (lower.1 * den, num * lower.2)
  let right := (num * upper.2, upper.1 * den)
  if closed then left.1 ≤ left.2 && right.1 ≤ right.2 else left.1 < left.2 && right.1 < right.2

def onGrid (x : Binary64) (power : Int) : Option Nat :=
  let (xn, xd) := x.quotient
  let step := Nat.pow 10 power.natAbs
  let asQuotient (n : Nat) : Nat × Nat := if power < 0 then (n, step) else (n * step, 1)
  let low := if power < 0 then xn * step / xd else xn / (xd * step)
  let fits (n : Nat) : Bool := let (a, b) := asQuotient n; x.readsBack a b
  match fits low, fits (low + 1) with
  | false, false => none
  | true, false => some low
  | false, true => some (low + 1)
  | true, true =>
    let (a, b) := asQuotient (2 * low + 1)
    -- twice `x` against the sum of the two
    if 2 * xn * b < a * xd ∨ (2 * xn * b = a * xd ∧ low % 2 = 0) then some low else some (low + 1)

def shortest (x : Binary64) : Nat × Int :=
  let (xn, xd) := x.quotient
  let top := decimalExponent xn xd
  let found := (List.range 17).findSome? fun (count : Nat) =>
    let power := top - (count : Int)
    (x.onGrid power).map fun n => (n, power)
  found.getD (0, 0)

def stripZeros : Nat → Nat → Nat × Nat
  | 0, n => (n, 0)
  | fuel + 1, n =>
    if n ≠ 0 ∧ n % 10 = 0 then
      let (m, zeros) := stripZeros fuel (n / 10)
      (m, zeros + 1)
    else (n, 0)

def text (x : Binary64) : String :=
  if x.isZero then "0.0"
  else
    let (n, power) := x.shortest
    let (n, zeros) := stripZeros 20 n
    let power := power + zeros
    let digits := Nat.toDigits 10 n
    let point : Int := digits.length + power
    if 0 ≤ power ∧ point ≤ 16 then
      String.ofList (digits ++ List.replicate power.natAbs '0') ++ ".0"
    else if 0 < point ∧ point ≤ 16 then
      String.ofList (digits.take point.natAbs) ++ "." ++ String.ofList (digits.drop point.natAbs)
    else if -5 < point ∧ point ≤ 0 then
      "0." ++ String.ofList (List.replicate point.natAbs '0' ++ digits)
    else
      let mark := (if 0 < point then "e+" else "e-") ++ toString (point - 1).natAbs
      match digits with
      | [d] => String.ofList [d] ++ mark
      | d :: rest => String.ofList (d :: '.' :: rest) ++ mark
      | [] => mark

end Binary64

end MultiCluster
