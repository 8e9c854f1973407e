import MultiCluster.Dict
import MultiCluster.Http.Url
import MultiCluster.Text.Split

namespace MultiCluster.Http

structure Peer where
  host : Host
  number : Nat
  deriving DecidableEq, Repr

namespace Url

def askedNumber (u : Url) : Nat := (u.portNumber.or (usualNumber? u.scheme.toList)).getD 80

def peer (u : Url) : Peer := ⟨u.host, u.askedNumber⟩

end Url

def Peer.read? (text : String) : Option Peer :=
  let (scheme, rest) := match Text.cut ':' text.toList with
    | some (scheme, '/' :: '/' :: rest) => (scheme.map Char.toLower, rest)
    | _ => ("http".toList, text.toList)
  if Url.isWeb scheme then
    let (authority, _) := Url.splitAt (fun c => c = '/' || Url.endsPath c) rest
    match Url.readAuthority Host.read none authority with
    | .ok (host, number) => some ⟨host, (number.or (Url.usualNumber? scheme)).getD 80⟩
    | .error _ => none
  else none

inductive Exemption where
  | all
  | name (text : List Char)
  | range (width length number : Nat)
  deriving DecidableEq, Repr

def Host.number? : Host → Option (Nat × Nat)
  | .name _ => none
  | .v4 number => some (32, number)
  | .v6 groups => some (128, groups.foldl (fun value group => value * 65536 + group) 0)

def fullNumber? (text : List Char) : Option (Nat × Nat) :=
  match Host.octetGroups? text with
  | some groups => some (32, groups.foldl (fun value group => value * 65536 + group) 0)
  | none => (Host.v6Groups? text).bind fun groups => (Host.v6 groups).number?

namespace Exemption

def range? (text : List Char) : Option Exemption :=
  match Text.cut '/' text with
  | none => (fullNumber? text).map fun (width, number) => range width width number
  | some (front, digits) => do
    let (width, number) ← fullNumber? front
    let length ← Text.readBelow (width + 1) digits
    return range width length number

def read (text : List Char) : Exemption :=
  if text = ['*'] then all
  else
    match range? text with
    | some exemption => exemption
    | none => name ((match text with
      | '.' :: rest => rest
      | text => text).map Char.toLower)

def covers (e : Exemption) (host : Host) : Bool :=
  match e, host with
  | all, .name _ => true
  | name text, .name host => host.toList = text || ('.' :: text).isSuffixOf host.toList
  | range width length number, host =>
    host.number?.any fun (hostWidth, hostNumber) =>
      width = hostWidth &&
        number / Nat.pow 2 (width - length) = hostNumber / Nat.pow 2 (width - length)
  | _, _ => false

end Exemption

structure Proxies where
  plain : Option Peer
  secure : Option Peer
  exempt : List Exemption
  deriving DecidableEq, Repr

namespace Proxies

def none : Proxies := ⟨.none, .none, []⟩

def either (env : Dict String) (first second : String) : String :=
  ((env.find? first).or (env.find? second)).getD ""

def ofEnvironment (env : Dict String) : Proxies :=
  if (env.find? "REQUEST_METHOD").isSome then none
  else
    let general := Peer.read? (either env "ALL_PROXY" "all_proxy")
    let listed := Text.pieces ',' (either env "NO_PROXY" "no_proxy").toList
    { plain := (Peer.read? (either env "HTTP_PROXY" "http_proxy")).or general
      secure := (Peer.read? (either env "HTTPS_PROXY" "https_proxy")).or general
      exempt := ((listed.map Text.trim).filter (!·.isEmpty)).map Exemption.read }

def through? (p : Proxies) (u : Url) : Option Peer :=
  if p.exempt.any (·.covers u.host) then .none
  else if u.scheme = "https" then p.secure
  else p.plain

def peer (p : Proxies) (u : Url) : Peer := (p.through? u).getD u.peer

def environmentNames : List String :=
  ["HTTP_PROXY", "http_proxy", "HTTPS_PROXY", "https_proxy", "ALL_PROXY", "all_proxy", "NO_PROXY",
    "no_proxy", "REQUEST_METHOD"]

end Proxies

end MultiCluster.Http
