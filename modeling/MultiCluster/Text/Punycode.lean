namespace MultiCluster.Text.Punycode

def digit (value : Nat) : Char :=
  if value < 26 then Char.ofNat ('a'.toNat + value) else Char.ofNat ('0'.toNat + (value - 26))

def digitValue? (c : Char) : Option Nat :=
  if 'a' ≤ c ∧ c ≤ 'z' then some (c.toNat - 'a'.toNat)
  else if 'A' ≤ c ∧ c ≤ 'Z' then some (c.toNat - 'A'.toNat)
  else if '0' ≤ c ∧ c ≤ '9' then some (c.toNat - '0'.toNat + 26)
  else none

theorem digitValue?_digit {value : Nat} (h : value < 36) :
    digitValue? (digit value) = some value := by
  have all : ∀ v, v < 36 → digitValue? (digit v) = some v := by decide
  exact all value h

-- A digit below this ends a number; places are counted in steps of the whole base.
def threshold (bias place : Nat) : Nat := max 1 (min 26 (place - bias))

theorem threshold_pos (bias place : Nat) : 1 ≤ threshold bias place := by
  unfold threshold
  omega

theorem threshold_lt (bias place : Nat) : threshold bias place < 36 := by
  unfold threshold
  omega

def biasOf (gap places : Nat) : Nat :=
  if 455 < gap then biasOf (gap / 35) (places + 36) else places + 36 * gap / (gap + 38)
termination_by gap

def adapt (gap written : Nat) (isFirst : Bool) : Nat :=
  let part := gap / if isFirst then 700 else 2
  biasOf (part + part / written) 0

def gapDigits (bias place gap : Nat) : List Char :=
  let t := threshold bias place
  if gap < t then [digit gap]
  else digit (t + (gap - t) % (36 - t)) :: gapDigits bias (place + 36) ((gap - t) / (36 - t))
termination_by gap
decreasing_by
  have := threshold_pos bias place
  have := Nat.div_le_self (gap - threshold bias place) (36 - threshold bias place)
  omega

def isAscii (c : Char) : Bool := c.toNat < 128

structure Writing where
  digits : List Char
  gap : Nat
  bias : Nat
  written : Nat
  deriving DecidableEq, Repr

namespace Writing

def visit (plainCount code : Nat) (w : Writing) (c : Char) : Writing :=
  if c.toNat < code then { w with gap := w.gap + 1 }
  else if c.toNat = code then
    { digits := w.digits ++ gapDigits w.bias 36 w.gap
      gap := 0
      bias := adapt w.gap (w.written + 1) (w.written = plainCount)
      written := w.written + 1 }
  else w

def sweep (text : List Char) (plainCount : Nat) (w : Writing) (least : Nat) : List Nat → Writing
  | [] => w
  | code :: rest =>
    let w := { w with gap := w.gap + (code - least) * (w.written + 1) }
    let w := text.foldl (visit plainCount code) w
    sweep text plainCount { w with gap := w.gap + 1 } (code + 1) rest

end Writing

def encode (text : List Char) : List Char :=
  let plain := text.filter isAscii
  let codes := ((text.filter (!isAscii ·)).map Char.toNat).mergeSort.eraseDups
  let start : Writing := ⟨[], 0, 72, plain.length⟩
  plain ++ (if plain.isEmpty then [] else ['-']) ++
    (start.sweep text plain.length 128 codes).digits

structure Reading where
  text : List Char
  code : Nat
  index : Nat
  bias : Nat
  gap : Nat
  worth : Nat
  place : Nat
  deriving DecidableEq, Repr

namespace Reading

def start (plain : List Char) : Reading := ⟨plain, 128, 0, 72, 0, 1, 36⟩

def insert (r : Reading) (gap : Nat) : Option Reading :=
  let count := r.text.length + 1
  let code := r.code + (r.index + gap) / count
  let index := (r.index + gap) % count
  if code.isValidChar then
    some {
      text := r.text.insertIdx index (Char.ofNat code)
      code := code
      index := index + 1
      bias := adapt gap count (r.index = 0)
      gap := 0
      worth := 1
      place := 36 }
  else none

def push (r : Reading) (c : Char) : Option Reading :=
  (digitValue? c).bind fun value =>
    let gap := r.gap + value * r.worth
    let t := threshold r.bias r.place
    if value < t then r.insert gap
    else some { r with gap := gap, worth := r.worth * (36 - t), place := r.place + 36 }

theorem foldlM_push_gapDigits (q : Nat) (r : Reading) :
    (gapDigits r.bias r.place q).foldlM push r = r.insert (r.gap + q * r.worth) := by
  induction q using Nat.strongRecOn generalizing r with
  | ind q ih =>
    have hpos := threshold_pos r.bias r.place
    have hlt := threshold_lt r.bias r.place
    rw [gapDigits]
    by_cases h : q < threshold r.bias r.place
    · have hq : q < 36 := by omega
      simp only [h, ↓reduceIte, List.foldlM_cons, List.foldlM_nil, push, digitValue?_digit hq,
        Option.bind_some]
      cases r.insert (r.gap + q * r.worth) <;> rfl
    · have hmod := Nat.mod_lt (q - threshold r.bias r.place)
        (show 0 < 36 - threshold r.bias r.place by omega)
      have hdiv := Nat.div_le_self (q - threshold r.bias r.place) (36 - threshold r.bias r.place)
      have hsum := Nat.mod_add_div' (q - threshold r.bias r.place) (36 - threshold r.bias r.place)
      simp only [h, ↓reduceIte, List.foldlM_cons, push]
      rw [digitValue?_digit (by omega)]
      simp only [Option.bind_some, Nat.not_lt.mpr (Nat.le_add_right _ _), ↓reduceIte,
        Option.bind_eq_bind]
      rw [ih _ (by omega) { r with gap := _, worth := _, place := _ }]
      generalize (q - threshold r.bias r.place) % (36 - threshold r.bias r.place) = rest at *
      generalize (q - threshold r.bias r.place) / (36 - threshold r.bias r.place) = more at *
      have hq : q = threshold r.bias r.place + rest +
          more * (36 - threshold r.bias r.place) := by omega
      have hgap : r.gap + (threshold r.bias r.place + rest) * r.worth +
          more * (r.worth * (36 - threshold r.bias r.place)) = r.gap + q * r.worth := by
        rw [hq, Nat.add_assoc, Nat.mul_comm r.worth, ← Nat.mul_assoc, ← Nat.add_mul, ← hq]
      simp only [insert, hgap]

end Reading

def cutPlain (coded : List Char) : List Char × List Char :=
  let after := (coded.reverse.takeWhile (· ≠ '-')).reverse
  let before := coded.take (coded.length - after.length - 1)
  if before.isEmpty then ([], coded) else (before, after)

def decode? (coded : List Char) : Option (List Char) :=
  let (plain, digits) := cutPlain coded
  if coded.all isAscii then
    (digits.foldlM Reading.push (.start plain)).bind fun r =>
      if r.worth = 1 then some r.text else none
  else none

end MultiCluster.Text.Punycode
