namespace MultiCluster.Text

def digit? (c : Char) : Option Nat :=
  if '0' ≤ c ∧ c ≤ '9' then some (c.toNat - '0'.toNat) else none

def readDigits (value : Nat) : List Char → Option Nat
  | [] => some value
  | c :: rest => (digit? c).bind fun d => readDigits (value * 10 + d) rest

def unsigned : List Char → List Char
  | '+' :: digits => digits
  | digits => digits

def readBelow (limit : Nat) (s : List Char) : Option Nat :=
  if unsigned s = [] then none else (readDigits 0 (unsigned s)).filter (· < limit)

def limit64 : Nat := 18446744073709551616

theorem readDigits_append (value : Nat) (a b : List Char) :
    readDigits value (a ++ b) = (readDigits value a).bind fun n => readDigits n b := by
  induction a generalizing value with
  | nil => rfl
  | cons c rest ih =>
    simp only [List.cons_append, readDigits]
    cases digit? c with
    | none => rfl
    | some d => simp [ih]

theorem digit?_digitChar {d : Nat} (h : d < 10) : digit? d.digitChar = some d := by
  match d, h with
  | 0, _ | 1, _ | 2, _ | 3, _ | 4, _ | 5, _ | 6, _ | 7, _ | 8, _ | 9, _ => rfl

theorem readDigits_toDigits (n : Nat) : readDigits 0 (Nat.toDigits 10 n) = some n := by
  induction n using Nat.strongRecOn with
  | ind n ih =>
    by_cases h : n < 10
    · rw [Nat.toDigits_of_lt_base h]
      simp [readDigits, digit?_digitChar h]
    · have h10 : 10 ≤ n := by omega
      rw [Nat.toDigits_of_base_le (by omega) h10, readDigits_append, ih (n / 10) (by omega)]
      have : n % 10 < 10 := Nat.mod_lt _ (by omega)
      simp only [Option.bind_some, readDigits, digit?_digitChar this]
      congr 1
      omega

theorem unsigned_of_ne {c : Char} (rest : List Char) (h : c ≠ '+') :
    unsigned (c :: rest) = c :: rest := by
  unfold unsigned
  split
  · rename_i heq
    exact absurd (List.cons.inj heq).1 h
  · rfl

theorem digit?_eq (c : Char) : digit? c = if c.isDigit then some (c.toNat - '0'.toNat) else none := by
  have hdigit : ('0' ≤ c ∧ c ≤ '9') ↔ c.isDigit = true := by
    rw [Char.isDigit, Bool.and_eq_true, decide_eq_true_iff, decide_eq_true_iff]
    rfl
  simp only [digit?, hdigit]

theorem readDigits_eq (value : Nat) (s : List Char) :
    readDigits value s = if s.all Char.isDigit then some (Nat.ofDigitChars 10 s value) else none := by
  induction s generalizing value with
  | nil => rfl
  | cons c rest ih =>
    rw [readDigits, digit?_eq, List.all_cons]
    cases hc : c.isDigit with
    | false => rfl
    | true =>
      rw [if_pos rfl, Option.bind_some, ih, Bool.true_and, Nat.mul_comm value 10]
      rfl

theorem unsigned_of_notMem {s : List Char} (h : '+' ∉ s) : unsigned s = s := by
  cases s with
  | nil => rfl
  | cons c rest => exact unsigned_of_ne rest (List.ne_of_not_mem_cons h).symm

theorem readBelow_of_notMem {limit : Nat} {s : List Char} (h : '+' ∉ s) :
    readBelow limit s =
      if s ≠ [] ∧ s.all Char.isDigit = true ∧ Nat.ofDigitChars 10 s 0 < limit then
        some (Nat.ofDigitChars 10 s 0)
      else none := by
  rw [readBelow, unsigned_of_notMem h, readDigits_eq]
  by_cases hempty : s = []
  · rw [if_pos hempty, if_neg fun hboth => hboth.1 hempty]
  rw [if_neg hempty]
  by_cases hdigits : s.all Char.isDigit = true
  · rw [if_pos hdigits, Option.filter_some]
    simp [hempty, hdigits]
  · rw [if_neg hdigits, Option.filter_none, if_neg fun hboth => hdigits hboth.2.1]

def hexDigit? (c : Char) : Option Nat :=
  if '0' ≤ c ∧ c ≤ '9' then some (c.toNat - '0'.toNat)
  else if 'a' ≤ c ∧ c ≤ 'f' then some (c.toNat - 'a'.toNat + 10)
  else if 'A' ≤ c ∧ c ≤ 'F' then some (c.toNat - 'A'.toNat + 10)
  else none

def readHex (value : Nat) : List Char → Option Nat
  | [] => some value
  | c :: rest => (hexDigit? c).bind fun d => readHex (value * 16 + d) rest

theorem hexDigit?_digitChar {d : Nat} (h : d < 16) : hexDigit? d.digitChar = some d := by
  have all : ∀ d, d < 16 → hexDigit? d.digitChar = some d := by decide
  exact all d h

end MultiCluster.Text
