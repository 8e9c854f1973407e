import MultiCluster.Http.Host
import MultiCluster.Http.Path

namespace MultiCluster.Http

structure Url where
  scheme : String
  host : Host
  portNumber : Option Nat
  path : String
  query : Option String
  fragment : Option String
  deriving DecidableEq, Repr

inductive UrlFault where
  | noScheme
  | otherScheme (text : String)
  | host (fault : HostFault)
  | portNumber
  deriving DecidableEq, Repr

def UrlFault.message : UrlFault → String
  | noScheme => "relative URL without a base"
  | otherScheme _ => "URL scheme is not allowed"
  | host fault => fault.message
  | portNumber => "invalid port number"

namespace Url

def cleaned (text : List Char) : List Char :=
  let trimmed := ((text.dropWhile (· ≤ ' ')).reverse.dropWhile (· ≤ ' ')).reverse
  trimmed.filter fun c => !(['\t', '\n', '\r'].contains c)

def isLetter (c : Char) : Bool := ('a' ≤ c && c ≤ 'z') || ('A' ≤ c && c ≤ 'Z')

def isSchemeChar (c : Char) : Bool :=
  isLetter c || ('0' ≤ c && c ≤ '9') || ['+', '-', '.'].contains c

def cutScheme (text : List Char) : Option (List Char × List Char) :=
  match Text.cut ':' text with
  | some (c :: scheme, rest) =>
    if isLetter c && scheme.all isSchemeChar then some ((c :: scheme).map Char.toLower, rest)
    else none
  | _ => none

def splitAt (stops : Char → Bool) (text : List Char) : List Char × List Char :=
  (text.takeWhile (!stops ·), text.dropWhile (!stops ·))

def behind? (sign : Char) : List Char → Option (List Char)
  | c :: rest => if c = sign then some rest else none
  | [] => none

def endsPath (c : Char) : Bool := c = '?' || c = '#'

structure Tail where
  path : List Char
  query : Option (List Char)
  fragment : Option (List Char)
  deriving DecidableEq, Repr

def Tail.read (text : List Char) : Tail :=
  let (path, rest) := splitAt endsPath text
  let (queryPart, fragmentPart) := splitAt (· = '#') rest
  ⟨path, behind? '?' queryPart, behind? '#' fragmentPart⟩

def queryText (query : Option String) : String :=
  match query with
  | some query => "?" ++ query
  | none => ""

def fragmentText (fragment : Option String) : String :=
  match fragment with
  | some fragment => "#" ++ fragment
  | none => ""

def Tail.text (t : Tail) (stays : Char → Bool) : String :=
  queryText (t.query.map fun q => String.ofList (encode stays q)) ++
    fragmentText (t.fragment.map fun f => String.ofList (encode staysInFragment f))

def usualNumber? (scheme : List Char) : Option Nat :=
  [("http".toList, 80), ("https".toList, 443), ("ws".toList, 80), ("wss".toList, 443),
    ("ftp".toList, 21)].lookup scheme

def cutColon (inside : Bool) : List Char → List Char × List Char
  | [] => ([], [])
  | c :: rest =>
    if c = ':' && !inside then ([], c :: rest)
    else
      let (before, after) := cutColon ((inside || c = '[') && c ≠ ']') rest
      (c :: before, after)

def readNumber (usual : Option Nat) (digits : List Char) : Except UrlFault (Option Nat) :=
  if digits.isEmpty then .ok none
  else
    match (Text.readDigits 0 digits).filter (· < 65536) with
    | some number => .ok (if some number = usual then none else some number)
    | none => .error .portNumber

def readAuthority (readHost : List Char → Except HostFault Host) (usual : Option Nat)
    (authority : List Char) : Except UrlFault (Host × Option Nat) :=
  let (behind, _) := splitAt (· = '@') authority.reverse
  let (spelled, rest) := cutColon false behind.reverse
  if spelled.isEmpty then .error (.host .empty)
  else
    match readHost spelled with
    | .error fault => .error (.host fault)
    | .ok host => (readNumber usual ((behind? ':' rest).getD [])).map fun number => (host, number)

def readUsual (scheme : List Char) (usual : Nat) (rest : List Char) : Except UrlFault Url :=
  let (authority, rest) := splitAt (fun c => isSlash c || endsPath c) (rest.dropWhile isSlash)
  (readAuthority Host.read (some usual) authority).map fun (host, number) =>
    let tail := Tail.read rest
    { scheme := String.ofList scheme
      host := host
      portNumber := number
      path := String.ofList (readPath tail.path)
      query := tail.query.map fun q => String.ofList (encode staysInWebQuery q)
      fragment := tail.fragment.map fun f => String.ofList (encode staysInFragment f) }

def withParameter (u : Url) (key value : String) : Url :=
  let parameter := key ++ "=" ++ value
  match u.query with
  | none => { u with query := some parameter }
  | some query =>
    { u with query := some (if query.isEmpty then parameter else query ++ "&" ++ parameter) }

def target (u : Url) : String := u.path ++ queryText u.query

def authority (u : Url) : String :=
  u.host.text ++ match u.portNumber with
    | some number => ":" ++ toString number
    | none => ""

def text (u : Url) : String :=
  u.scheme ++ "://" ++ u.authority ++ u.target ++ fragmentText u.fragment

def fileText (rest : List Char) : Except UrlFault String :=
  let (spelled, rest) := match rest with
    | a :: b :: more =>
      if isSlash a && isSlash b then splitAt (fun c => isSlash c || endsPath c) more else ([], rest)
    | _ => ([], rest)
  let host := if spelled.isEmpty then .ok "" else (Host.read spelled).map Host.text
  match host with
  | .error fault => .error (.host fault)
  | .ok host =>
    let tail := Tail.read rest
    let path := '/' :: (readPath tail.path).dropWhile (· = '/')
    .ok ("file://" ++ (if host = "localhost" then "" else host) ++ String.ofList path ++
      tail.text staysInWebQuery)

def hostedText (scheme rest : List Char) : Except UrlFault String :=
  let (authority, rest) := splitAt (fun c => c = '/' || endsPath c) rest
  let tail := Tail.read rest
  let path := if tail.path.isEmpty then [] else pathOf (Text.pieces '/' (tail.path.drop 1))
  let front := if authority.isEmpty then .ok "" else
    (readAuthority Host.readAny none authority).map fun (host, number) =>
      host.text ++ match number with
        | some number => ":" ++ toString number
        | none => ""
  front.map fun front =>
    String.ofList scheme ++ "://" ++ front ++ String.ofList path ++ tail.text staysInQuery

def bareText (scheme rest : List Char) : String :=
  let tail := Tail.read rest
  let path := match tail.path with
    | '/' :: inner => pathOf (Text.pieces '/' inner)
    | path => encode isPrintable path
  let front := if ['/', '/'].isPrefixOf path then "/." else ""
  String.ofList scheme ++ ":" ++ front ++ String.ofList path ++ tail.text staysInQuery

def otherText (scheme rest : List Char) : Except UrlFault String :=
  if scheme = "file".toList then fileText rest
  else
    match rest with
    | '/' :: '/' :: more => hostedText scheme more
    | rest => .ok (bareText scheme rest)

def isWeb (scheme : List Char) : Bool := scheme = "http".toList || scheme = "https".toList

def read (text : String) : Except UrlFault Url :=
  match cutScheme (cleaned text.toList) with
  | none => .error .noScheme
  | some (scheme, rest) =>
    match usualNumber? scheme with
    | some usual =>
      (readUsual scheme usual rest).bind fun u =>
        if isWeb scheme then .ok u else .error (.otherScheme u.text)
    | none => (otherText scheme rest).bind fun text => .error (.otherScheme text)

end Url

end MultiCluster.Http
