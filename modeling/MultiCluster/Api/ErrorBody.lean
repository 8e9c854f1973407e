import MultiCluster.Json.Document
import MultiCluster.Text.Split

namespace MultiCluster

inductive ApiError where
  | notFound (message : String)
  | forbidden (message : String)
  | status (code : Nat) (message : String)
  | transport (message : String) (causes : List String)
  | decode (message : String) (causes : List String)
  | unexpectedResponse (operation got : String)
  deriving DecidableEq, Repr

namespace ApiError

-- Access is revoked before an object is wholly deleted, so a forbidden object is absent too.
def isAbsent : ApiError → Bool
  | notFound _ => true
  | forbidden _ => true
  | _ => false

def statusCode : ApiError → Option Nat
  | notFound _ => some 404
  | forbidden _ => some 403
  | status code _ => some code
  | _ => none

def detail : ApiError → String
  | notFound message => message
  | forbidden message => message
  | status _ message => message
  | transport message _ => message
  | decode message _ => message
  | unexpectedResponse operation got => operation ++ " returned unexpected response: " ++ got

def message (e : ApiError) : String :=
  match e.statusCode with
  | some code => "management API error (HTTP " ++ toString code ++ "): " ++ e.detail
  | none => "management API error: " ++ e.detail

def causes : ApiError → List String
  | transport _ causes => causes
  | decode _ causes => causes
  | _ => []

def ofStatus (code : Nat) (message : String) : ApiError :=
  if code = 404 then notFound message
  else if code = 403 then forbidden message
  else status code message

theorem statusCode_ofStatus (code : Nat) (message : String) :
    (ofStatus code message).statusCode = some code := by
  unfold ofStatus
  split
  · simp_all [statusCode]
  · split <;> simp_all [statusCode]

theorem isAbsent_ofStatus (code : Nat) (message : String) :
    (ofStatus code message).isAbsent = true ↔ code = 404 ∨ code = 403 := by
  unfold ofStatus
  split
  · simp_all [isAbsent]
  · split <;> simp_all [isAbsent]

end ApiError

namespace ErrorBody

def textUnder (key : String) (members : List (Option String × Json.Doc)) : Option String :=
  match members.reverse.find? (fun m => m.1 = some key) with
  | some (_, .str text) => text
  | _ => none

def jsonMessage (body : String) : Option String :=
  match Json.Doc.read body with
  | (.object members, false) =>
    if (Json.Doc.object members).isHoldable Json.Doc.greatestRoom then
      textUnder "message" members
    else none
  | _ => none

def message (body : String) : String :=
  (jsonMessage body).getD (String.ofList (Text.trim body.toList))

end ErrorBody

namespace ApiError

def ofReply (code : Nat) (body : String) : ApiError := ofStatus code (ErrorBody.message body)

def isErrorStatus (code : Nat) : Bool := 400 ≤ code && code < 600

end ApiError

end MultiCluster
