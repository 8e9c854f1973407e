import MultiCluster.HostName.Label
import MultiCluster.Http.Path
import MultiCluster.Text.Digits

namespace MultiCluster.Http

inductive Host where
  | name (text : String)
  | v4 (number : Nat)
  | v6 (groups : List Nat)
  deriving DecidableEq, Repr

inductive HostFault where
  | empty
  | name
  | v4
  | v6
  | character
  deriving DecidableEq, Repr

def HostFault.message : HostFault → String
  | empty => "empty host"
  | name => "invalid international domain name"
  | v4 => "invalid IPv4 address"
  | v6 => "invalid IPv6 address"
  | character => "invalid domain character"

namespace Host

def part? : List Char → Option Nat
  | [] => none
  | '0' :: 'x' :: digits => Text.readHex 0 digits
  | '0' :: 'X' :: digits => Text.readHex 0 digits
  | ['0'] => some 0
  | '0' :: digits =>
    if digits.all fun c => '0' ≤ c && c ≤ '7' then
      some (digits.foldl (fun value c => value * 8 + (c.toNat - '0'.toNat)) 0)
    else none
  | digits => Text.readDigits 0 digits

def labels (name : List Char) : List (List Char) :=
  let all := Text.pieces '.' name
  if 1 < all.length && all.getLast? = some [] then all.dropLast else all

def endsInNumber (name : List Char) : Bool :=
  match (labels name).getLast? with
  | none => false
  | some last => !last.isEmpty && (last.all Char.isDigit || (part? last).isSome)

def numberOf (parts : List Nat) : Option Nat :=
  match parts.reverse with
  | [] => none
  | last :: before =>
    let room := 4 - before.length
    if 3 < before.length || before.any (255 < ·) || Nat.pow 256 room ≤ last then none
    else some (before.reverse.foldl (fun value octet => value * 256 + octet) 0 *
      Nat.pow 256 room + last)

def readV4 (name : List Char) : Except HostFault Host :=
  match ((labels name).mapM part?).bind numberOf with
  | some number => .ok (v4 number)
  | none => .error .v4

def octet? (digits : List Char) : Option Nat :=
  if digits.isEmpty || (1 < digits.length && digits.head? = some '0') then none
  else (Text.readDigits 0 digits).filter (· < 256)

def octetGroups? (text : List Char) : Option (List Nat) :=
  match (Text.pieces '.' text).mapM octet? with
  | some [a, b, c, d] => some [a * 256 + b, c * 256 + d]
  | _ => none

def group? (digits : List Char) : Option (List Nat) :=
  if digits.isEmpty || 4 < digits.length then none else (Text.readHex 0 digits).map ([·])

def groups? (isLast : Bool) : List (List Char) → Option (List Nat)
  | [] => some []
  | [piece] => if isLast && piece.contains '.' then octetGroups? piece else group? piece
  | piece :: rest => do return (← group? piece) ++ (← groups? isLast rest)

def side? (isLast : Bool) (text : List Char) : Option (List Nat) :=
  if text.isEmpty then some [] else groups? isLast (Text.pieces ':' text)

def cutGap : List Char → Option (List Char × List Char)
  | ':' :: ':' :: rest => some ([], rest)
  | c :: rest => (cutGap rest).map fun (before, after) => (c :: before, after)
  | [] => none

def v6Groups? (text : List Char) : Option (List Nat) :=
  match cutGap text with
  | none => (groups? true (Text.pieces ':' text)).filter fun groups => groups.length = 8
  | some (before, after) => do
    let before ← side? false before
    let after ← side? true after
    let count := before.length + after.length
    if count < 8 then some (before ++ List.replicate (8 - count) 0 ++ after) else none

def readV6 (text : List Char) : Except HostFault Host :=
  match v6Groups? text with
  | some groups => .ok (v6 groups)
  | none => .error .v6

def longestGap (groups : List Nat) : Option (Nat × Nat) :=
  let runs := (List.range groups.length).map fun n => ((groups.drop n).takeWhile (· = 0)).length
  let longest := runs.foldl max 0
  if longest < 2 then none else (runs.idxOf? longest).map fun n => (n, longest)

def groupsText (groups : List Nat) : String :=
  ":".intercalate (groups.map fun g => String.ofList (Nat.toDigits 16 g))

def text : Host → String
  | name text => text
  | v4 number =>
    ".".intercalate ([16777216, 65536, 256, 1].map fun unit => toString (number / unit % 256))
  | v6 groups =>
    let inner := match longestGap groups with
      | some (place, count) =>
        groupsText (groups.take place) ++ "::" ++ groupsText (groups.drop (place + count))
      | none => groupsText groups
    "[" ++ inner ++ "]"

def bracketed? : List Char → Option (Except HostFault (List Char))
  | '[' :: rest => some (if rest.getLast? = some ']' then .ok rest.dropLast else .error .v6)
  | _ => none

def read (spelled : List Char) : Except HostFault Host :=
  match bracketed? spelled with
  | some inner => inner.bind readV6
  | none =>
    match (decode? spelled).bind HostName.sent? with
    | none => .error .name
    | some sent =>
      if sent.isEmpty then .error .empty
      else if endsInNumber sent then readV4 sent
      else .ok (name (String.ofList sent))

def isForbidden (c : Char) : Bool :=
  ['\x00', '\t', '\n', '\r', ' ', '#', '/', ':', '<', '>', '?', '@', '[', '\\', ']', '^',
    '|'].contains c

def readAny (spelled : List Char) : Except HostFault Host :=
  match bracketed? spelled with
  | some inner => inner.bind readV6
  | none =>
    if spelled.any isForbidden then .error .character
    else .ok (name (String.ofList (encode isPrintable spelled)))

end Host

end MultiCluster.Http
