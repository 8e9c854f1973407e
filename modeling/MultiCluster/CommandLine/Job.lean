import MultiCluster.CommandLine.FileTree
import MultiCluster.CommandLine.Help
import MultiCluster.Http.Client
import MultiCluster.Lifecycle.Operations
import MultiCluster.Wire.Spec

namespace MultiCluster.CommandLine

abbrev Files := String → Except FileFault String

inductive Failure where
  | noServer
  | unreadable (file : String) (fault : FileFault)
  | invalidJson (file : String) (misfit : Json.Misfit)
  | lifecycle (error : LifecycleError)
  deriving DecidableEq, Repr

def Failure.message : Failure → String
  | noServer => "no server URL: pass --url or set RANCHER_URL"
  | unreadable file fault => "failed to read " ++ file ++ ": " ++ fault.message
  | invalidJson file misfit =>
    "invalid JSON in " ++ file ++ ": " ++ misfit.message.getD "syntax error"
  | lifecycle error => ": ".intercalate (error.message :: error.causes)

inductive Outcome where
  | printed (text : String)
  | failed (failure : Failure)
  | misuse
  deriving DecidableEq, Repr

namespace Outcome

def exitCode : Outcome → Nat
  | printed _ => 0
  | failed _ => 1
  | misuse => 2

def out : Outcome → String
  | printed text => text
  | _ => ""

def err : Outcome → String
  | printed _ => ""
  | failed failure => "error: " ++ failure.message ++ "\n"
  | misuse => "error: the arguments cannot be understood; see mcapp --help\n"

end Outcome

def load {α : Type} (codec : Json.Codec α) (files : Files) (file : String) : Except Failure α :=
  match files file with
  | .error fault => .error (.unreadable file fault)
  | .ok text => (codec.read text).mapError (.invalidJson file)

def recordText (r : AppRecord) : String := (AppRecord.codec.encode r).indented ++ "\n"

def foundText : Option AppRecord → String
  | some r => recordText r
  | none => "null\n"

def deletionText (id : AppId) : DeleteOutcome → String
  | .alreadyAbsent => id.text ++ " already absent\n"
  | .removed confirmed unconfirmed =>
    id.text ++ " removed (" ++ toString confirmed ++ " child apps confirmed, " ++
      toString unconfirmed ++ " unconfirmed)\n"

namespace Command

def files : Command → List String
  | create spec => [spec]
  | read _ spec => spec.toList
  | update state spec => [state, spec]
  | delete _ => []

def plan (s : Settings) (files : Files) : Command → Except Failure (Plan String)
  | create specFile => do
    let spec ← load Spec.codec files specFile
    return recordText <$> Lifecycle.create s spec
  | read id none => return foundText <$> Lifecycle.read ⟨id⟩ none
  | read id (some specFile) => do
    let declared ← load Spec.codec files specFile
    return foundText <$> Lifecycle.read ⟨id⟩ (some declared)
  | update stateFile specFile => do
    let prior ← load AppRecord.codec files stateFile
    let desired ← load Spec.codec files specFile
    return recordText <$> Lifecycle.update s prior desired
  | delete id => return deletionText ⟨id⟩ <$> Lifecycle.delete s ⟨id⟩

end Command

def environmentNames : List String :=
  ["RANCHER_URL", "RANCHER_TOKEN_KEY", insecureVariable, "MCAPP_SETTLE_DELAY_SECS",
    "MCAPP_CREATE_TIMEOUT_SECS", "MCAPP_UPDATE_TIMEOUT_SECS", "MCAPP_DELETE_TIMEOUT_SECS",
    "NO_COLOR", "CLICOLOR_FORCE"] ++ Http.Proxies.environmentNames

def settingsOf (env : Environment) : Settings := ⟨.ofEnvironment env, .ofEnvironment env⟩

def Invocation.job (i : Invocation) (env : Environment) (files : Files) :
    Except Failure (Http.Client × Plan String) :=
  match i.url with
  | none => .error .noServer
  | some url =>
    let endpoint : Http.Endpoint :=
      { Http.Endpoint.ofUrl url with token := i.token, insecure := i.insecure }
    (i.command.plan (settingsOf env) files).map fun plan => (.of endpoint, plan)

inductive Start where
  | finished (outcome : Outcome)
  | job (client : Http.Client) (plan : Plan String)

def start (env : Environment) (files : Files) (args : List String) : Start :=
  match readArguments env args with
  | .help topic => .finished (.printed (topic.text env))
  | .version => .finished (.printed versionText)
  | .misuse => .finished .misuse
  | .invoke invocation =>
    match invocation.job env files with
    | .error failure => .finished (.failed failure)
    | .ok (client, plan) => .job client plan

def Outcome.ofResult : Except LifecycleError String → Outcome
  | .ok text => printed text
  | .error e => failed (.lifecycle e)

def run {σ : Type} (network : Http.Network σ) (rounds : Nat) (env : Environment) (files : Files)
    (args : List String) (state : σ) : Option Outcome :=
  match start env files args with
  | .finished outcome => some outcome
  | .job client plan =>
    let setting : Setting σ := ⟨client.api network, none, rounds⟩
    (plan.run setting ⟨state, 0⟩).result.map Outcome.ofResult

end MultiCluster.CommandLine
