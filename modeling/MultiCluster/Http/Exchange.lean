import MultiCluster.Api.Effect
import MultiCluster.Http.Proxy
import MultiCluster.Json.Value

namespace MultiCluster.Http

inductive Method where
  | get
  | post
  | put
  | delete
  deriving DecidableEq, Repr

def Method.name : Method → String
  | get => "GET"
  | post => "POST"
  | put => "PUT"
  | delete => "DELETE"

structure Request where
  method : Method
  url : Url
  authorization : Option String
  body : Option Json.Value
  deriving Repr

def mediaType : String := "application/json"

def Request.fields (r : Request) : List (String × String) :=
  (r.authorization.map fun a => ("authorization", a)).toList ++ [("accept", mediaType)] ++
    (r.body.map fun _ => ("content-type", mediaType)).toList

structure ServerReply where
  status : Nat
  body : List UInt8
  deriving DecidableEq, Repr

def ServerReply.isSuccess (r : ServerReply) : Bool := 200 ≤ r.status && r.status < 300

inductive TransportFault where
  | unreachable
  | unknownName
  | refused
  | closed
  | other (message : String)
  deriving DecidableEq, Repr

def TransportFault.causes : TransportFault → List String
  | unreachable =>
    ["client error (Connect)", "tcp connect error", "Network is unreachable (os error 101)"]
  | unknownName =>
    ["client error (Connect)", "dns error",
      "failed to lookup address information: Temporary failure in name resolution"]
  | refused =>
    ["client error (Connect)", "tcp connect error", "Connection refused (os error 111)"]
  | closed => ["client error (SendRequest)", "connection closed before message completed"]
  | other message => [message]

def TransportFault.error (u : Url) (f : TransportFault) : ApiError :=
  let message := "error sending request for url (" ++ u.text ++ ")"
  .transport message (message :: f.causes)

structure Network (σ : Type) where
  exchange : Request → σ → Reply σ (Except TransportFault ServerReply)

def Host.isKnown : Host → Bool
  | .name text => text = "localhost"
  | _ => true

def Network.unreachable (proxies : Proxies) : Network Unit where
  exchange r _ :=
    ⟨.error (if (proxies.peer r.url).host.isKnown then .unreachable else .unknownName), 0, ()⟩

end MultiCluster.Http
