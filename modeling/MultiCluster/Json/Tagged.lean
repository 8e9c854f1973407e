import MultiCluster.Json.Record

namespace MultiCluster.Json

universe u

def innerRoom : Nat := Doc.greatestRoom - 1

def takeOut {τ : Type u} (key : String) (decode : Doc → Except Misfit τ) :
    Option τ → List (Option String × Doc) →
      Except Misfit (Option τ × List (Option String × Doc))
  | found, [] => .ok (found, [])
  | _, (none, _) :: _ => .error .malformed
  | found, (some k, d) :: rest =>
    if k = key then
      if found.isSome then .error (.duplicate key)
      else
        match decode d with
        | .ok t => takeOut key decode (some t) rest
        | .error e => .error e
    else if d.isHoldable innerRoom then
      match takeOut key decode found rest with
      | .ok (t, others) => .ok (t, (some k, d) :: others)
      | .error e => .error e
    else .error .malformed

def takeOutRequired {τ : Type u} (key : String) (decode : Doc → Except Misfit τ)
    (members : List (Option String × Doc)) : Except Misfit (τ × List (Option String × Doc)) :=
  match takeOut key decode none members with
  | .ok (some t, others) => .ok (t, others)
  | .ok (none, _) => .error (.missing key)
  | .error e => .error e

def choose {κ : Type u} (tag : κ → String) (kinds : List κ) (name : String) : Except Misfit κ :=
  match kinds.find? (fun k => tag k = name) with
  | some k => .ok k
  | none => .error (.unknownVariant name (kinds.map tag))

structure Variant (α : Type) where
  tag : String
  title : String
  types : List Type
  fields : Fields types
  build : Row types → α

structure Beside (α : Type) where
  title : String
  tagKey : String
  variants : List (Variant α)

namespace Beside

variable {α : Type}

def readTag (b : Beside α) : Doc → Except Misfit (Variant α)
  | .str (some name) => choose Variant.tag b.variants name
  | d => .error (d.unlike "variant identifier")

def decode (b : Beside α) : Doc → Except Misfit α
  | .object members =>
    match takeOutRequired b.tagKey b.readTag members with
    | .ok (v, others) => (v.fields.decodeObject .kept others).map v.build
    | .error e => .error e
  | .array [] => .error (.missing b.tagKey)
  | .array (first :: rest) =>
    match b.readTag first with
    | .ok v =>
      if Doc.areHoldable innerRoom rest then
        (v.fields.decodeArray .kept v.title rest).map v.build
      else .error .malformed
    | .error e => .error e
  | d => .error (d.unlike b.title)

end Beside

inductive Content (α : Type) where
  | nothing (title : String) (value : α)
  | carried (decode : Route → Doc → Except Misfit α)

def Content.of {α β : Type} (codec : Codec β) (build : β → α) : Content α :=
  carried fun route d => (codec.decode route d).map build

def Content.decode {α : Type} (route : Route) (d : Doc) : Content α → Except Misfit α
  | nothing title value =>
    match d with
    | .null => .ok value
    | d => .error (d.unlike title)
  | carried decode => decode route d

structure Kind (α : Type) where
  tag : String
  content : Content α

structure Adjacent (α : Type) where
  title : String
  tagKey : String
  contentKey : String
  kinds : List (Kind α)

inductive Slot where
  | tag
  | content
  deriving DecidableEq, Repr

namespace Adjacent

variable {α : Type}

def next (a : Adjacent α) :
    List (Option String × Doc) → Except Misfit (Option (Slot × Doc × List (Option String × Doc)))
  | [] => .ok none
  | (none, _) :: _ => .error .malformed
  | (some key, d) :: rest =>
    if key = a.tagKey then .ok (some (.tag, d, rest))
    else if key = a.contentKey then .ok (some (.content, d, rest))
    else if d.isWhole then a.next rest
    else .error .malformed

def readName (a : Adjacent α) : Doc → Except Misfit (Kind α)
  | .str (some name) => choose Kind.tag a.kinds name
  | d => .error (d.unlike "variant identifier")

def readTag (a : Adjacent α) : Doc → Except Misfit (Kind α)
  | .str (some name) => choose Kind.tag a.kinds name
  | .object ((some name, d) :: rest) =>
    match choose Kind.tag a.kinds name with
    | .error e => .error e
    | .ok kind =>
      match d with
      | .null => if rest.isEmpty then .ok kind else .error .malformed
      | d => .error (d.unlike "unit")
  | .object ((none, .misplaced d) :: _) => .error (d.unlike "variant identifier")
  | _ => .error .malformed

def alone (a : Adjacent α) (kind : Kind α) : Except Misfit α :=
  match kind.content with
  | .nothing _ value => .ok value
  | .carried _ => .error (.missing a.contentKey)

def repeated (a : Adjacent α) : Slot → Misfit
  | .tag => .duplicate a.tagKey
  | .content => .duplicate a.contentKey

def conclude (a : Adjacent α) (value : α) (rest : List (Option String × Doc)) : Except Misfit α :=
  match a.next rest with
  | .error e => .error e
  | .ok none => .ok value
  | .ok (some (slot, _, _)) => .error (a.repeated slot)

def decodeObject (a : Adjacent α) (members : List (Option String × Doc)) : Except Misfit α :=
  match a.next members with
  | .error e => .error e
  | .ok none => .error (.missing a.tagKey)
  | .ok (some (.tag, tag, rest)) =>
    match a.readTag tag with
    | .error e => .error e
    | .ok kind =>
      match a.next rest with
      | .error e => .error e
      | .ok none => a.alone kind
      | .ok (some (.tag, _, _)) => .error (a.repeated .tag)
      | .ok (some (.content, d, rest)) =>
        match kind.content.decode .direct d with
        | .error e => .error e
        | .ok value => a.conclude value rest
  | .ok (some (.content, d, rest)) =>
    if d.isHoldable innerRoom then
      match a.next rest with
      | .error e => .error e
      | .ok none => .error (.missing a.tagKey)
      | .ok (some (.content, _, _)) => .error (a.repeated .content)
      | .ok (some (.tag, tag, rest)) =>
        match a.readTag tag with
        | .error e => .error e
        | .ok kind =>
          match kind.content.decode .kept d with
          | .error e => .error e
          | .ok value => a.conclude value rest
    else .error .malformed

def decode (a : Adjacent α) : Doc → Except Misfit α
  | .object members => a.decodeObject members
  | .array [] => .error (.wrongLength 0 a.title)
  | .array (tag :: rest) =>
    match a.readName tag with
    | .error e => .error e
    | .ok kind =>
      match rest with
      | [] => .error (.wrongLength 1 a.title)
      | d :: rest =>
        match kind.content.decode .direct d with
        | .error e => .error e
        | .ok value => if rest.isEmpty then .ok value else .error .malformed
  | d => .error (d.unlike a.title)

end Adjacent

end MultiCluster.Json
