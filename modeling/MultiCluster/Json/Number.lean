import MultiCluster.Json.Binary64
import MultiCluster.Text.Digits

namespace MultiCluster.Json

inductive Number where
  | natural (n : Nat)
  | negative (n : Nat)
  | fractional (isNegative : Bool) (magnitude : Binary64)
  | excessive
  deriving DecidableEq, Repr

namespace Number

def digits : List Char → List Nat × List Char
  | [] => ([], [])
  | c :: rest =>
    match Text.digit? c with
    | some d => let (ds, after) := digits rest; (d :: ds, after)
    | none => ([], c :: rest)

-- Digits that a number still takes while it fits sixty-four bits, and how many of them.
def takeFitting (value : Nat) : List Nat → Nat × Nat
  | [] => (value, 0)
  | d :: rest =>
    if value * 10 + d < Text.limit64 then
      let (value, count) := takeFitting (value * 10 + d) rest
      (value, count + 1)
    else (value, 0)

def greatestPower : Nat := 308

def scaleDown : Nat → Binary64 → Nat → Option Binary64
  | 0, _, _ => some .zero
  | fuel + 1, x, power =>
    if x.isZero then some x
    else if power ≤ greatestPower then (Binary64.round (Nat.pow 10 power) 1).bind x.div
    else
      match (Binary64.round (Nat.pow 10 greatestPower) 1).bind x.div with
      | some y => scaleDown fuel y (power - greatestPower)
      | none => none

def scale (significand : Nat) (power : Int) : Option Binary64 :=
  (Binary64.round significand 1).bind fun x =>
    if power < 0 then scaleDown 5 x power.natAbs
    else if power.natAbs ≤ greatestPower then
      (Binary64.round (Nat.pow 10 power.natAbs) 1).bind x.mul
    else if x.isZero then some x
    else none

def exponentLimit : Nat := 2147483647

def ofScale (isNegative : Bool) (significand : Nat) (power : Int) : Number :=
  match scale significand power with
  | some x => .fractional isNegative x
  | none => .excessive

def withExponent (isNegative : Bool) (significand : Nat) (power : Int) : List Char → Number
  | [] => ofScale isNegative significand power
  | spelling =>
    let (isDown, spelled) := match spelling with
      | '-' :: rest => (true, rest)
      | '+' :: rest => (false, rest)
      | rest => (false, rest)
    let exponent := (digits spelled).1.foldl (fun n d => n * 10 + d) 0
    if exponent ≤ exponentLimit then
      ofScale isNegative significand (if isDown then power - exponent else power + exponent)
    else if significand ≠ 0 ∧ !isDown then .excessive
    else .fractional isNegative .zero

def exponentSpelling : List Char → Option (List Char)
  | 'e' :: rest => some rest
  | 'E' :: rest => some rest
  | _ => none

def ofUnsigned (isNegative : Bool) (spelling : List Char) : Number :=
  let (whole, rest) := digits spelling
  let (significand, taken) := takeFitting 0 whole
  let extra : Int := (whole.length - taken : Nat)
  match rest with
  | '.' :: rest =>
    let (fraction, rest) := digits rest
    let (significand, taken) := takeFitting significand fraction
    let power := extra - taken
    withExponent isNegative significand power ((exponentSpelling rest).getD [])
  | rest =>
    match exponentSpelling rest with
    | some spelling => withExponent isNegative significand extra spelling
    | none =>
      if taken < whole.length then ofScale isNegative significand extra
      else if !isNegative then .natural significand
      else if 0 < significand ∧ significand ≤ 9223372036854775808 then .negative significand
      else ofScale isNegative significand 0

def ofSpelling : List Char → Number
  | '-' :: rest => ofUnsigned true rest
  | spelling => ofUnsigned false spelling

inductive Phase where
  | sign
  | zero
  | whole
  | point
  | fraction
  | mark
  | markSign
  | exponent
  deriving DecidableEq, Repr

inductive Advance where
  | next (phase : Phase)
  | stop
  | refuse
  deriving DecidableEq, Repr

def isDigit (c : Char) : Bool := (Text.digit? c).isSome

def isMark (c : Char) : Bool := c = 'e' || c = 'E'

def start? (c : Char) : Option Phase :=
  if c = '-' then some .sign
  else if c = '0' then some .zero
  else if isDigit c then some .whole
  else none

def advance (phase : Phase) (c : Char) : Advance :=
  match phase with
  | .sign => if c = '0' then .next .zero else if isDigit c then .next .whole else .refuse
  | .zero =>
    if isDigit c then .refuse else if c = '.' then .next .point
    else if isMark c then .next .mark else .stop
  | .whole =>
    if isDigit c then .next .whole else if c = '.' then .next .point
    else if isMark c then .next .mark else .stop
  | .point => if isDigit c then .next .fraction else .refuse
  | .fraction =>
    if isDigit c then .next .fraction else if isMark c then .next .mark else .stop
  | .mark =>
    if c = '+' ∨ c = '-' then .next .markSign else if isDigit c then .next .exponent else .refuse
  | .markSign => if isDigit c then .next .exponent else .refuse
  | .exponent => if isDigit c then .next .exponent else .stop

def Phase.isComplete : Phase → Bool
  | .zero => true
  | .whole => true
  | .fraction => true
  | .exponent => true
  | _ => false

end Number

end MultiCluster.Json
