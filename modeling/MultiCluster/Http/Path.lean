import MultiCluster.Text.Digits
import MultiCluster.Text.Octets
import MultiCluster.Text.Split

namespace MultiCluster.Http

def octet (b : UInt8) : List Char :=
  ['%', (Nat.digitChar (b.toNat / 16)).toUpper, (Nat.digitChar (b.toNat % 16)).toUpper]

def octets (c : Char) : List Char := (String.singleton c).toUTF8.toList.flatMap octet

def encode (stays : Char → Bool) (text : List Char) : List Char :=
  text.flatMap fun c => if stays c then [c] else octets c

def isPrintable (c : Char) : Bool := ' ' ≤ c && c < '\x7f'

def staysInFragment (c : Char) : Bool := isPrintable c && !([' ', '"', '<', '>', '\x60'].contains c)

def staysInPath (c : Char) : Bool :=
  staysInFragment c && !(['#', '?', '\x7b', '\x7d'].contains c)

def staysInQuery (c : Char) : Bool := isPrintable c && !([' ', '"', '#', '<', '>'].contains c)

def staysInWebQuery (c : Char) : Bool := staysInQuery c && c ≠ '\''

def spelledOctets : List Char → List UInt8
  | '%' :: a :: b :: rest =>
    match Text.hexDigit? a, Text.hexDigit? b with
    | some high, some low => (high * 16 + low).toUInt8 :: spelledOctets rest
    | _, _ => '%'.toNat.toUInt8 :: spelledOctets (a :: b :: rest)
  | c :: rest => (String.singleton c).toUTF8.toList ++ spelledOctets rest
  | [] => []

def decode? (text : List Char) : Option (List Char) := Text.exactly? (spelledOctets text)

theorem hexDigit?_toUpper_digitChar {d : Nat} (h : d < 16) :
    Text.hexDigit? d.digitChar.toUpper = some d := by
  have all : ∀ d, d < 16 → Text.hexDigit? d.digitChar.toUpper = some d := by decide
  exact all d h

theorem spelledOctets_octet (b : UInt8) (rest : List Char) :
    spelledOctets (octet b ++ rest) = b :: spelledOctets rest := by
  have hb := b.toNat_lt
  have hhigh := hexDigit?_toUpper_digitChar (show b.toNat / 16 < 16 by omega)
  have hlow := hexDigit?_toUpper_digitChar (show b.toNat % 16 < 16 by omega)
  have hsum : b.toNat / 16 * 16 + b.toNat % 16 = b.toNat := by omega
  simp only [octet, List.cons_append, List.nil_append, spelledOctets, hhigh, hlow, hsum]
  simp

theorem spelledOctets_octets (c : Char) (rest : List Char) :
    spelledOctets (octets c ++ rest) =
      (String.singleton c).toUTF8.toList ++ spelledOctets rest := by
  unfold octets
  induction (String.singleton c).toUTF8.toList with
  | nil => rfl
  | cons b more ih => simp [List.append_assoc, spelledOctets_octet, ih]

theorem encode_of_stays {stays : Char → Bool} {text : List Char} (h : ∀ c ∈ text, stays c = true) :
    encode stays text = text := by
  unfold encode
  induction text with
  | nil => rfl
  | cons c rest ih =>
    have hc : stays c = true := h c (by simp)
    have := ih fun d hd => h d (List.mem_cons_of_mem _ hd)
    simp [hc, this]

def isDotPart : List Char → Bool
  | ['.'] => true
  | ['%', '2', 'e'] => true
  | ['%', '2', 'E'] => true
  | _ => false

def isDot (segment : List Char) : Bool := isDotPart segment

def isDotDot (segment : List Char) : Bool :=
  (List.range (segment.length + 1)).any fun n =>
    isDotPart (segment.take n) && isDotPart (segment.drop n)

def resolve (before : List (List Char)) : List (List Char) → List (List Char)
  | [] => before.reverse
  | [last] =>
    if isDotDot last then (before.drop 1).reverse ++ [[]]
    else if isDot last then before.reverse ++ [[]]
    else before.reverse ++ [last]
  | segment :: rest =>
    if isDotDot segment then resolve (before.drop 1) rest
    else if isDot segment then resolve before rest
    else resolve (segment :: before) rest

def pathOf (segments : List (List Char)) : List Char :=
  (resolve [] segments).flatMap fun segment => '/' :: encode staysInPath segment

def isSlash (c : Char) : Bool := c = '/' || c = '\\'

def readPath (text : List Char) : List Char :=
  let relative := match text with
    | c :: rest => if isSlash c then rest else text
    | [] => []
  pathOf (Text.pieces '/' (relative.map fun c => if isSlash c then '/' else c))

end MultiCluster.Http
