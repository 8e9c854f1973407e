import MultiCluster.CommandLine.Job
import MultiCluster.Http.Message
import Std.Async.DNS
import Std.Async.TCP

namespace MultiCluster.Program

open Std.Async Std.Net

def socketAddress (ip : IPAddr) (number : UInt16) : SocketAddress :=
  match ip with
  | .v4 addr => .v4 ⟨addr, number⟩
  | .v6 addr => .v6 ⟨addr, number⟩

partial def receive (socket : TCP.Socket.Client) (before : ByteArray) : IO ByteArray := do
  match ← (socket.recv? 65536).block with
  | some octets => receive socket (before ++ octets)
  | none => return before

def numberOf (peer : Http.Peer) : IO (Option IPAddr) := do
  let host := (peer.host.text.replace "[" "").replace "]" ""
  try
    return (← (DNS.getAddrInfo host (toString peer.number)).block)[0]?
  catch _ => return none

def exchange (proxies : Http.Proxies) (r : Http.Request) :
    IO (Except Http.TransportFault Http.ServerReply) := do
  if r.url.scheme ≠ "http" then
    return .error (.other "no secure connections here")
  let peer := proxies.peer r.url
  match ← numberOf peer with
  | none => return .error .unknownName
  | some ip =>
    try
      let socket ← TCP.Socket.Client.mk
      (socket.connect (socketAddress ip peer.number.toUInt16)).block
      (socket.send (r.text (proxies.through? r.url).isSome).toUTF8).block
      let octets ← receive socket .empty
      return Http.ServerReply.read octets.toList
    catch
      | .noSuchThing _ _ "connection refused" => return .error .refused
      | e => return .error (.other (toString e))

structure Remote where
  client : Http.Client
  proxies : Http.Proxies

def ask (remote : Remote) (effect : Effect) : IO Answered := do
  match effect.request remote.client with
  | .error fault => return .error fault.error
  | .ok request =>
    match ← exchange remote.proxies request with
    | .error fault => return .error (fault.error request.url)
    | .ok reply => return effect.answer reply

def elapsed (start : Nat) : IO Nat := do return (← IO.monoNanosNow) - start

-- A little later rather than earlier.
partial def pauseUntil (start instant : Nat) : IO Unit := do
  let now ← elapsed start
  if now < instant then
    let millis := (instant - now + 999999) / 1000000
    IO.sleep (min millis 3600000).toUInt32
    pauseUntil start instant

partial def rounds (remote : Remote) (start : Nat) (subject : Subject) (terms : WaitTerms)
    (interval : Duration) (progress : Progress) : IO (Except PollError String) := do
  let answer ← ask remote subject.effect
  let arrival ← elapsed start
  match terms.judge subject.name progress (subject.observe answer) with
  | .ended result => return result
  | .pending progress =>
    match terms.pause subject.name progress arrival interval with
    | .over result endedAt =>
      pauseUntil start endedAt
      return result
    | .next wakeAt =>
      pauseUntil start wakeAt
      rounds remote start subject terms (terms.config.nextInterval interval) progress

def carryOut {α : Type} (remote : Remote) (start : Nat) :
    Plan α → IO (Except LifecycleError α)
  | .done result => return result
  | .call effect next => do
    let answer ← ask remote effect
    carryOut remote start (next answer)
  | .await request next => do
    let terms : WaitTerms :=
      ⟨request.states, request.timeout, request.config, ← elapsed start, none⟩
    let result ← rounds remote start request.subject terms request.config.delay .start
    carryOut remote start (next result)
  | .settle pause next => do
    pauseUntil start (Clock.wake (← elapsed start) pause.nanos)
    carryOut remote start next

def environment : IO Environment := do
  let found ← CommandLine.environmentNames.filterMapM fun name => do
    return (← IO.getEnv name).map fun value => (name, value)
  return .ofList found

def readFile (name : String) : IO (Except CommandLine.FileFault String) := do
  try
    match String.fromUTF8? (← IO.FS.readBinFile name) with
    | some text => return .ok text
    | none => return .error .notText
  catch
    | .noFileOrDirectory _ _ _ => return .error .missing
    | .permissionDenied _ _ _ => return .error .denied
    | .inappropriateType _ _ "not a directory" => return .error .notDirectory
    | .inappropriateType _ _ _ => return .error .directory
    | .invalidArgument _ _ "name too long" => return .error .nameTooLong
    | e => return .error (.other (toString e))

def filesOf (env : Environment) (args : List String) : IO CommandLine.Files := do
  match CommandLine.readArguments env args with
  | .invoke invocation =>
    let found ← invocation.command.files.mapM fun name => do return (name, ← readFile name)
    return fun name => ((found.find? fun f => f.1 = name).map Prod.snd).getD (.error .missing)
  | _ => return fun _ => .error .missing

def run (args : List String) : IO CommandLine.Outcome := do
  let env ← environment
  match CommandLine.start env (← filesOf env args) args with
  | .finished outcome => return outcome
  | .job client plan =>
    let remote : Remote := ⟨client, .ofEnvironment env⟩
    return .ofResult (← carryOut remote (← IO.monoNanosNow) plan)

end MultiCluster.Program

def main (args : List String) : IO UInt32 := do
  let outcome ← MultiCluster.Program.run args
  IO.print outcome.out
  IO.eprint outcome.err
  return outcome.exitCode.toUInt32
