namespace MultiCluster.Text

def replacement : Char := '\ufffd'

inductive OctetOrder where
  | greaterFirst
  | lesserFirst
  deriving DecidableEq, Repr

def OctetOrder.unit (order : OctetOrder) (a b : UInt8) : Nat :=
  match order with
  | greaterFirst => a.toNat * 256 + b.toNat
  | lesserFirst => b.toNat * 256 + a.toNat

def isLeading (unit : Nat) : Bool := 0xD800 ≤ unit && unit < 0xDC00

def isTrailing (unit : Nat) : Bool := 0xDC00 ≤ unit && unit < 0xE000

def readUnits (order : OctetOrder) (leading : Option Nat) : List UInt8 → List Char
  | a :: b :: rest =>
    let unit := order.unit a b
    match leading with
    | some first =>
      if isTrailing unit then
        Char.ofNat (0x10000 + (first - 0xD800) * 0x400 + (unit - 0xDC00)) ::
          readUnits order none rest
      else if isLeading unit then replacement :: readUnits order (some unit) rest
      else replacement :: Char.ofNat unit :: readUnits order none rest
    | none =>
      if isTrailing unit then replacement :: readUnits order none rest
      else if isLeading unit then readUnits order (some unit) rest
      else Char.ofNat unit :: readUnits order none rest
  | [_] => [replacement]
  | [] => if leading.isSome then [replacement] else []

structure Begun where
  bits : Nat
  owed : Nat
  least : Nat
  greatest : Nat
  deriving DecidableEq, Repr

def startOctet (b : Nat) : Option (Char ⊕ Begun) :=
  if b ≤ 0x7F then some (.inl (Char.ofNat b))
  else if 0xC2 ≤ b ∧ b ≤ 0xDF then some (.inr ⟨b - 0xC0, 1, 0x80, 0xBF⟩)
  else if b = 0xE0 then some (.inr ⟨0, 2, 0xA0, 0xBF⟩)
  else if b = 0xED then some (.inr ⟨0xD, 2, 0x80, 0x9F⟩)
  else if 0xE1 ≤ b ∧ b ≤ 0xEF then some (.inr ⟨b - 0xE0, 2, 0x80, 0xBF⟩)
  else if b = 0xF0 then some (.inr ⟨0, 3, 0x90, 0xBF⟩)
  else if 0xF1 ≤ b ∧ b ≤ 0xF3 then some (.inr ⟨b - 0xF0, 3, 0x80, 0xBF⟩)
  else if b = 0xF4 then some (.inr ⟨4, 3, 0x80, 0x8F⟩)
  else none

def readOctet (begun : Option Begun) (b : Nat) : List (Option Char) × Option Begun :=
  let fresh : List (Option Char) × Option Begun := match startOctet b with
    | some (.inl c) => ([some c], none)
    | some (.inr g) => ([], some g)
    | none => ([none], none)
  match begun with
  | none => fresh
  | some g =>
    if g.least ≤ b ∧ b ≤ g.greatest then
      let bits := g.bits * 64 + (b - 0x80)
      if g.owed = 1 then ([some (Char.ofNat bits)], none)
      else ([], some ⟨bits, g.owed - 1, 0x80, 0xBF⟩)
    else (none :: fresh.1, fresh.2)

def symbols (begun : Option Begun) : List UInt8 → List (Option Char)
  | [] => if begun.isSome then [none] else []
  | b :: rest =>
    let (found, begun) := readOctet begun b.toNat
    found ++ symbols begun rest

def readOctets (octets : List UInt8) : List Char :=
  (symbols none octets).map fun symbol => symbol.getD replacement

def ofOctets : List UInt8 → List Char
  | 0xEF :: 0xBB :: 0xBF :: rest => readOctets rest
  | 0xFF :: 0xFE :: rest => readUnits .lesserFirst none rest
  | 0xFE :: 0xFF :: rest => readUnits .greaterFirst none rest
  | octets => readOctets octets

def exactly? (octets : List UInt8) : Option (List Char) := (symbols none octets).mapM id

end MultiCluster.Text
