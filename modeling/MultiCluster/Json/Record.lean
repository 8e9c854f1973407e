import MultiCluster.Json.Codec

namespace MultiCluster.Json

structure Field (α : Type) where
  name : String
  codec : Codec α
  whenAbsent : Option α
  isShown : α → Bool

namespace Field

variable {α : Type}

def required (name : String) (codec : Codec α) : Field α := ⟨name, codec, none, fun _ => true⟩

def withDefault (name : String) (codec : Codec α) (value : α) : Field α :=
  ⟨name, codec, some value, fun _ => true⟩

def optional (name : String) (codec : Codec α) : Field (Option α) :=
  ⟨name, codec.option, some none, Option.isSome⟩

def hidden (name : String) (codec : Codec α) : Field (Option α) :=
  ⟨name, codec.option, some none, fun _ => false⟩

end Field

inductive Fields : List Type → Type 1 where
  | nil : Fields []
  | cons {α : Type} {αs : List Type} (f : Field α) (rest : Fields αs) : Fields (α :: αs)

def Row : List Type → Type
  | [] => Unit
  | α :: αs => α × Row αs

def Draft : List Type → Type
  | [] => Unit
  | α :: αs => Option α × Draft αs

namespace Fields

def blank : {αs : List Type} → Fields αs → Draft αs
  | _, nil => ()
  | _, cons _ rest => (none, rest.blank)

def size : {αs : List Type} → Fields αs → Nat
  | _, nil => 0
  | _, cons _ rest => rest.size + 1

def encode : {αs : List Type} → Fields αs → Row αs → List (String × Value)
  | _, nil, _ => []
  | _, cons f rest, (v, vs) =>
    if f.isShown v then (f.name, f.codec.encode v) :: rest.encode vs else rest.encode vs

def place (route : Route) (key : String) (d : Doc) :
    {αs : List Type} → Fields αs → Draft αs → Except Misfit (Draft αs)
  | _, nil, draft => if d.isWhole then .ok draft else .error .malformed
  | _, cons f rest, (found, others) =>
    if key = f.name then
      if found.isSome then .error (.duplicate key)
      else
        match f.codec.decode route d with
        | .ok v => .ok (some v, others)
        | .error e => .error e
    else
      match rest.place route key d others with
      | .ok others => .ok (found, others)
      | .error e => .error e

def placeAll {αs : List Type} (route : Route) (fs : Fields αs) :
    Draft αs → List (Option String × Doc) → Except Misfit (Draft αs)
  | draft, [] => .ok draft
  | _, (none, _) :: _ => .error .malformed
  | draft, (some key, d) :: rest =>
    match fs.place route key d draft with
    | .ok draft => fs.placeAll route draft rest
    | .error e => .error e

def complete : {αs : List Type} → Fields αs → Draft αs → Except Misfit (Row αs)
  | _, nil, _ => .ok ()
  | _, cons f rest, (found, others) =>
    match found.or f.whenAbsent with
    | none => .error (.missing f.name)
    | some v =>
      match rest.complete others with
      | .ok vs => .ok (v, vs)
      | .error e => .error e

def decodeObject {αs : List Type} (route : Route) (fs : Fields αs)
    (members : List (Option String × Doc)) : Except Misfit (Row αs) :=
  match fs.placeAll route fs.blank members with
  | .ok draft => fs.complete draft
  | .error e => .error e

def takeItems (route : Route) (expected : String) :
    {αs : List Type} → Fields αs → Nat → List Doc → Except Misfit (Row αs × List Doc)
  | _, nil, _, items => .ok ((), items)
  | _, cons f rest, index, [] =>
    match f.whenAbsent with
    | none => .error (.wrongLength index expected)
    | some v =>
      match rest.takeItems route expected (index + 1) [] with
      | .ok (vs, left) => .ok ((v, vs), left)
      | .error e => .error e
  | _, cons f rest, index, d :: items =>
    match f.codec.decode route d with
    | .error e => .error e
    | .ok v =>
      match rest.takeItems route expected (index + 1) items with
      | .ok (vs, left) => .ok ((v, vs), left)
      | .error e => .error e

def elements (n : Nat) : String := toString n ++ (if n = 1 then " element" else " elements")

def decodeArray {αs : List Type} (route : Route) (title : String) (fs : Fields αs)
    (items : List Doc) : Except Misfit (Row αs) :=
  match fs.takeItems route (title ++ " with " ++ elements fs.size) 0 items with
  | .error e => .error e
  | .ok (vs, []) => .ok vs
  | .ok (_, _ :: _) =>
    match route with
    | .direct => .error .malformed
    | .kept => .error (.wrongLength items.length (elements fs.size ++ " in sequence"))

def decode {αs : List Type} (route : Route) (title : String) (fs : Fields αs) :
    Doc → Except Misfit (Row αs)
  | .object members => fs.decodeObject route members
  | .array items => fs.decodeArray route title items
  | d => .error (d.unlike title)

end Fields

def Codec.record {α : Type} {αs : List Type} (title : String) (fs : Fields αs)
    (toRow : α → Row αs) (ofRow : Row αs → α) : Codec α where
  encode v := .object (fs.encode (toRow v))
  decode route d := (fs.decode route title d).map ofRow

end MultiCluster.Json
