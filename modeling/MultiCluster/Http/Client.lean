import MultiCluster.Api.ErrorBody
import MultiCluster.Duration
import MultiCluster.Http.Exchange
import MultiCluster.Text.Quoted
import MultiCluster.Text.Octets
import MultiCluster.Wire.Effect

namespace MultiCluster

namespace Http

structure Endpoint where
  url : String
  token : Option String
  insecure : Bool
  requestTimeout : Duration
  deriving DecidableEq, Repr

namespace Endpoint

def ofUrl (url : String) : Endpoint := ⟨url, none, false, .ofSeconds 60⟩

def base (s : Endpoint) : List Char := (s.url.toList.reverse.dropWhile (· = '/')).reverse

def version : List Char := ['/', 'v', '3']

def apiRoot (s : Endpoint) : String :=
  String.ofList (if version.isSuffixOf s.base then s.base else s.base ++ version)

def summary (s : Endpoint) : String :=
  "ClientConfig \x7b url: " ++ Text.quote s.url ++ ", insecure: " ++ toString s.insecure ++
    ", request_timeout: " ++ s.requestTimeout.text ++ ", .. \x7d"

end Endpoint

structure Client where
  apiRoot : String
  token : Option String
  deriving DecidableEq, Repr

def Client.of (s : Endpoint) : Client := ⟨s.apiRoot, s.token⟩

def Client.url (c : Client) (path : String) : String :=
  c.apiRoot ++ "/" ++ String.ofList (path.toList.dropWhile (· = '/'))

def Client.summary (c : Client) : String :=
  "ManagementClient \x7b api_root: " ++ Text.quote c.apiRoot ++ ", .. \x7d"

inductive RequestFault where
  | badUrl (fault : UrlFault)
  | badToken
  | unsendable (url : Url)
  deriving DecidableEq, Repr

def toldError (address reason : String) : ApiError :=
  let message := "builder error for url (" ++ address ++ ")"
  .transport message [message, reason]

def RequestFault.error : RequestFault → ApiError
  | badUrl (.otherScheme text) => toldError text (UrlFault.message (.otherScheme text))
  | badUrl fault => .transport "builder error" ["builder error", fault.message]
  | badToken => .transport "builder error" ["builder error", "failed to parse header value"]
  | unsendable url => toldError url.text "Parsed Url is not a valid Uri"

def longestAddress : Nat := 65534

def isUnsendable (c : Char) : Bool := ['"', '\x60', '\x7b', '\x7d'].contains c

def Url.isSendable (u : Url) : Bool :=
  u.text.utf8ByteSize ≤ longestAddress && !(u.host.text.toList.any isUnsendable)

def isFieldText (text : String) : Bool :=
  text.toList.all fun c => c = '\t' || (' ' ≤ c && c ≠ '\x7f')

end Http

namespace Effect

open Http

def appsPath : String := "multiclusterapps"

def appPath (id : AppId) : String := appsPath ++ "/" ++ id.text

def method : Effect → Method
  | getApp _ => .get
  | createApp _ => .post
  | updateApp _ _ => .put
  | deleteApp _ => .delete
  | rollback _ _ => .post
  | addProjects _ _ => .post
  | removeProjects _ _ => .post
  | getTemplate _ => .get
  | getTemplateVersion _ => .get
  | getChildApp _ _ => .get

def path : Effect → String
  | getApp id => appPath id
  | createApp _ => appsPath
  | updateApp id _ => appPath id
  | deleteApp id => appPath id
  | rollback id _ => appPath id
  | addProjects id _ => appPath id
  | removeProjects id _ => appPath id
  | getTemplate id => "templates/" ++ id.text
  | getTemplateVersion id => "templateversions/" ++ id.text
  | getChildApp project id => "project/" ++ project.text ++ "/apps/" ++ id.text

def action? : Effect → Option String
  | rollback _ _ => some "rollback"
  | addProjects _ _ => some "addProjects"
  | removeProjects _ _ => some "removeProjects"
  | _ => none

def body? : Effect → Option Json.Value
  | createApp app => some (App.codec.encode app)
  | updateApp _ update => some (AppUpdate.codec.encode update)
  | rollback _ revision => some (.object [("revisionId", RevisionId.codec.encode revision)])
  | addProjects _ input => some (TargetsInput.codec.encode input)
  | removeProjects _ input => some (TargetsInput.codec.encode input)
  | _ => none

def request (c : Client) (e : Effect) : Except RequestFault Request :=
  match Url.read (c.url e.path) with
  | .error fault => .error (.badUrl fault)
  | .ok url =>
    let url := match e.action? with
      | some action => url.withParameter "action" action
      | none => url
    if !(c.token.all isFieldText) then .error .badToken
    else if !url.isSendable then .error (.unsendable url)
    else
      .ok {
        method := e.method
        url := url
        authorization := c.token.map fun token => "Bearer " ++ token
        body := e.body? }

def decodeMessage : String := "error decoding response body"

def decodeBody {α : Type} (codec : Json.Codec α) (octets : List UInt8) : Except ApiError α :=
  (codec.readOctets octets).mapError fun misfit =>
    .decode decodeMessage [decodeMessage, misfit.message.getD "invalid JSON"]

def success (octets : List UInt8) : Effect → Answered
  | getApp _ => (decodeBody App.codec octets).map .app
  | createApp app =>
    match decodeBody App.codec octets with
    | .error e => .error e
    | .ok created =>
      if created.id.isSome then .ok (.app created)
      else .error (.unexpectedResponse (createApp app).operation "created object has no id")
  | updateApp _ _ => (decodeBody App.codec octets).map .app
  | deleteApp _ => .ok .deleted
  | rollback _ _ => .ok .actionAccepted
  | addProjects _ _ => .ok .actionAccepted
  | removeProjects _ _ => .ok .actionAccepted
  | getTemplate _ => (decodeBody Template.codec octets).map .template
  | getTemplateVersion _ => (decodeBody TemplateVersion.codec octets).map .templateVersion
  | getChildApp _ _ => (decodeBody ChildApp.codec octets).map .childApp

def answer (e : Effect) (r : ServerReply) : Answered :=
  if r.isSuccess then e.success r.body
  else .error (.ofReply r.status (String.ofList (Text.ofOctets r.body)))

end Effect

def Http.Client.api {σ : Type} (c : Http.Client) (n : Http.Network σ) : Api σ where
  respond e s :=
    match e.request c with
    | .error fault => ⟨.error fault.error, 0, s⟩
    | .ok request =>
      let reply := n.exchange request s
      let answer := match reply.answer with
        | .error fault => .error (fault.error request.url)
        | .ok received => e.answer received
      ⟨answer, reply.latency, reply.state⟩

end MultiCluster
