import MultiCluster.Http.Exchange
import MultiCluster.Text.Split
import MultiCluster.Text.Digits

namespace MultiCluster.Http

def lineEnd : String := "\x0d\n"

def Request.bodyText (r : Request) : String := (r.body.map Json.Value.text).getD ""

def Request.text (r : Request) (isProxied : Bool) : String :=
  let target := if isProxied then Url.text { r.url with fragment := none } else r.url.target
  let first := r.method.name ++ " " ++ target ++ " HTTP/1.1"
  let fields := r.fields ++ [("host", r.url.authority), ("connection", "close"),
    ("content-length", toString r.bodyText.utf8ByteSize)]
  lineEnd.intercalate (first :: fields.map fun f => f.1 ++ ": " ++ f.2) ++ lineEnd ++ lineEnd ++
    r.bodyText

def cutLine : List UInt8 → Option (List UInt8 × List UInt8)
  | [] => none
  | 13 :: 10 :: rest => some ([], rest)
  | 10 :: rest => some ([], rest)
  | b :: rest => (cutLine rest).map fun (line, after) => (b :: line, after)

def latin (octets : List UInt8) : List Char := octets.map fun b => Char.ofNat b.toNat

def readField (line : List UInt8) : Option (String × List Char) :=
  (Text.cut ':' (latin line)).map fun (name, value) =>
    (String.ofList (name.map Char.toLower), Text.trim value)

def readFields : Nat → List UInt8 → Option (List (String × List Char) × List UInt8)
  | 0, _ => none
  | fuel + 1, octets =>
    match cutLine octets with
    | none => none
    | some ([], rest) => some ([], rest)
    | some (line, rest) =>
      (readFields fuel rest).map fun (fields, after) => ((readField line).toList ++ fields, after)

def readStatus (line : List UInt8) : Option Nat :=
  match Text.pieces ' ' (latin line) with
  | _ :: code :: _ => Text.readBelow 1000 code
  | _ => none

def chunkSize? (line : List UInt8) : Option Nat :=
  let digits := Text.trim ((latin line).takeWhile (· ≠ ';'))
  if digits.isEmpty then none else Text.readHex 0 digits

def readChunks : Nat → List UInt8 → Option (List UInt8)
  | 0, _ => none
  | fuel + 1, octets =>
    match cutLine octets with
    | none => none
    | some (line, rest) =>
      match chunkSize? line with
      | none => none
      | some 0 => some []
      | some size =>
        if rest.length < size then none
        else
          match cutLine (rest.drop size) with
          | some ([], after) => (readChunks fuel after).map fun more => rest.take size ++ more
          | _ => none

def field? (name : String) (fields : List (String × List Char)) : Option (List Char) :=
  (fields.find? fun f => f.1 = name).map Prod.snd

def readBody (fields : List (String × List Char)) (octets : List UInt8) : Option (List UInt8) :=
  match field? "transfer-encoding" fields with
  | some coding =>
    if coding.map Char.toLower = "chunked".toList then readChunks (octets.length + 1) octets
    else none
  | none =>
    match field? "content-length" fields with
    | none => some octets
    | some digits =>
      match Text.readBelow Text.limit64 digits with
      | some size => if octets.length < size then none else some (octets.take size)
      | none => none

def ServerReply.read (octets : List UInt8) : Except TransportFault ServerReply :=
  let reply := do
    let (line, rest) ← cutLine octets
    let status ← readStatus line
    let (fields, rest) ← readFields (octets.length + 1) rest
    let body ← readBody fields rest
    return (⟨status, body⟩ : ServerReply)
  match reply with
  | some r => .ok r
  | none => .error .closed

end MultiCluster.Http
