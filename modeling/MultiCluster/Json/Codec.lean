import MultiCluster.Json.Misfit
import MultiCluster.Json.Value
import MultiCluster.Dict

namespace MultiCluster.Json

inductive Route where
  | direct
  | kept
  deriving DecidableEq, Repr

structure Codec (α : Type) where
  encode : α → Value
  decode : Route → Doc → Except Misfit α

namespace Codec

variable {α β : Type}

def ofDoc (c : Codec α) (d : Doc) (more : Bool) : Except Misfit α :=
  match c.decode .direct d with
  | .ok v => if more then .error .malformed else .ok v
  | .error e => .error e

def read (c : Codec α) (text : String) : Except Misfit α :=
  let (d, more) := Doc.read text
  c.ofDoc d more

def readOctets (c : Codec α) (octets : List UInt8) : Except Misfit α :=
  let (d, more) := Doc.readOctets octets
  c.ofDoc d more

def write (c : Codec α) (v : α) : String := (c.encode v).text

def wrapped (c : Codec α) (wrap : α → β) (unwrap : β → α) : Codec β where
  encode v := c.encode (unwrap v)
  decode route d := (c.decode route d).map wrap

def text : Codec String where
  encode := .str
  decode _ d :=
    match d with
    | .str (some s) => .ok s
    | d => .error (d.unlike "a string")

def bool : Codec Bool where
  encode := .bool
  decode _ d :=
    match d with
    | .bool b => .ok b
    | d => .error (d.unlike "a boolean")

def word : Codec UInt32 where
  encode n := .number n.toNat
  decode _ d :=
    match d with
    | .number (.natural n) =>
      if n < UInt32.size then .ok (UInt32.ofNat n)
      else .error (.wrongValue (((Number.natural n).found?).getD "") "u32")
    | .number (.negative n) => .error (.wrongValue (((Number.negative n).found?).getD "") "u32")
    | d => .error (d.unlike "u32")

def decodeItems (decode : Doc → Except Misfit α) : List Doc → Except Misfit (List α)
  | [] => .ok []
  | d :: rest =>
    match decode d with
    | .error e => .error e
    | .ok v =>
      match decodeItems decode rest with
      | .error e => .error e
      | .ok vs => .ok (v :: vs)

def list (c : Codec α) : Codec (List α) where
  encode vs := .array (vs.map c.encode)
  decode route d :=
    match d with
    | .array items => decodeItems (c.decode route) items
    | d => .error (d.unlike "a sequence")

def decodeEntries (decode : Doc → Except Misfit α) :
    Dict α → List (Option String × Doc) → Except Misfit (Dict α)
  | entries, [] => .ok entries
  | _, (none, _) :: _ => .error .malformed
  | entries, (some key, d) :: rest =>
    match decode d with
    | .error e => .error e
    | .ok v => decodeEntries decode (entries.insert key v) rest

def dict (c : Codec α) : Codec (Dict α) where
  encode entries := .object (entries.entries.map fun e => (e.1, c.encode e.2))
  decode route d :=
    match d with
    | .object members => decodeEntries (c.decode route) .empty members
    | d => .error (d.unlike "a map")

def option (c : Codec α) : Codec (Option α) where
  encode v := (v.map c.encode).getD .null
  decode route d :=
    match d with
    | .null => .ok none
    | d => (c.decode route d).map some

end Codec

end MultiCluster.Json
