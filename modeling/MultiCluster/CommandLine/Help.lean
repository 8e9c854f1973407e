import MultiCluster.CommandLine.Arguments
import MultiCluster.Terminal

namespace MultiCluster.CommandLine

open Terminal

def plain (text : String) : Span := ⟨.plain, text⟩

def strong (text : String) : Span := ⟨.strong, text⟩

def heading (text : String) : Span := ⟨.heading, text⟩

structure Entry where
  name : List Span
  note : String
  deriving DecidableEq, Repr

def Entry.width (e : Entry) : Nat := (Terminal.plainText e.name).length

def blanks (count : Nat) : String := String.ofList (List.replicate count ' ')

def table (title : String) (entries : List Entry) : List Span :=
  let width := (entries.map Entry.width).foldl max 0
  let line (e : Entry) : List Span :=
    plain "\n  " :: e.name ++
      [plain (blanks (width - e.width + 2) ++ e.note.replace "\n" ("\n" ++ blanks (width + 4)))]
  heading (title ++ ":") :: entries.flatMap line

namespace Level

def about : Level → String
  | root => "Create, read, update and delete multi-cluster apps"
  | create => "Create an app from a desired-state file and print the result"
  | read => "Print the current state of an app"
  | update => "Move an app from a previously printed state to a new desired state"
  | delete => "Delete an app and wait for it and its child apps to be removed"

def arguments : Level → List (String × String)
  | root => []
  | create => [("<SPEC>", "JSON desired state")]
  | read => [("<ID>", "")]
  | update =>
    [("<STATE>", "JSON state printed by an earlier create, read or update"),
      ("<SPEC>", "JSON desired state")]
  | delete => [("<ID>", "")]

def usage (level : Level) : List Span :=
  let whole := if level = root then level.name else root.name ++ " " ++ level.name
  let behind := if level = root then ["<COMMAND>"] else level.arguments.map Prod.fst
  [heading "Usage:", plain " ", strong whole,
    plain (" " ++ " ".intercalate ("[OPTIONS]" :: behind))]

def variableNote (env : Environment) (name : String) : String :=
  "[env: " ++ name ++ "=" ++ (env.find? name).getD "" ++ "]"

def letterEntry (letter long note : String) : Entry :=
  ⟨[strong letter, plain ", ", strong long], note⟩

def longEntry (long rest note : String) : Entry :=
  ⟨[plain "    ", strong long, plain rest], note⟩

def options (level : Level) (env : Environment) : List Entry :=
  (if level = read then
    [longEntry "--spec" " <SPEC>" "Desired-state file whose target order the output follows"]
  else []) ++
  [longEntry "--url" " <URL>" ("Management server URL " ++ variableNote env "RANCHER_URL"),
    longEntry "--token" " <TOKEN>" "API token (token-xxxxx:secret) [env: RANCHER_TOKEN_KEY]",
    longEntry "--insecure" ""
      ("Skip TLS certificate verification " ++ variableNote env insecureVariable),
    letterEntry "-h" "--help" "Print help"] ++
  (if level = root then [letterEntry "-V" "--version" "Print version"] else [])

def helpAbout : String := "Print this message or the help of the given subcommand(s)"

def tables (level : Level) (env : Environment) : List (List Span) :=
  (if level = root then
    [table "Commands" (commands.map (fun l => ⟨[strong l.name], l.about⟩) ++
      [⟨[strong "help"], helpAbout⟩])]
  else []) ++
  (if level.arguments.isEmpty then []
  else [table "Arguments" (level.arguments.map fun a => ⟨[plain a.1], a.2⟩)]) ++
  [table "Options" (level.options env)]

end Level

def Topic.parts (env : Environment) : Topic → List (List Span)
  | .level l => [plain l.about] :: l.usage :: l.tables env
  | .help =>
    [[plain Level.helpAbout],
      [heading "Usage:", plain " ", strong "mcapp help", plain " [COMMAND]..."],
      table "Arguments" [⟨[plain "[COMMAND]..."], "Print help for the subcommand(s)"⟩]]

def keepsMarks (env : Environment) : Bool :=
  ((env.find? "NO_COLOR").getD "").isEmpty && (env.find? "CLICOLOR_FORCE").getD "0" ≠ "0"

def Topic.text (env : Environment) (topic : Topic) : String :=
  let text := marked ([plain "\n\n"].intercalate (topic.parts env) ++ [plain "\n"])
  if keepsMarks env then text else visible text

def versionText : String := "mcapp 0.1.0\n"

end MultiCluster.CommandLine
