import MultiCluster.Polling.Config
import MultiCluster.Text.Split

namespace MultiCluster.CommandLine

inductive Command where
  | create (specFile : String)
  | read (id : String) (specFile : Option String)
  | update (stateFile specFile : String)
  | delete (id : String)
  deriving DecidableEq, Repr

structure Invocation where
  command : Command
  url : Option String
  token : Option String
  insecure : Bool
  deriving DecidableEq, Repr

inductive Level where
  | root
  | create
  | read
  | update
  | delete
  deriving DecidableEq, Repr

inductive Topic where
  | level (level : Level)
  | help
  deriving DecidableEq, Repr

inductive Reading where
  | invoke (invocation : Invocation)
  | help (topic : Topic)
  | version
  | misuse
  deriving DecidableEq, Repr

namespace Level

def name : Level → String
  | root => "mcapp"
  | create => "create"
  | read => "read"
  | update => "update"
  | delete => "delete"

def commands : List Level := [create, read, update, delete]

def ofName? (name : String) : Option Level := commands.find? fun l => l.name = name

def arity : Level → Nat
  | root => 0
  | create => 1
  | read => 1
  | update => 2
  | delete => 1

def takesFiles : Level → Bool
  | create => true
  | update => true
  | _ => false

end Level

inductive ValueOption where
  | url
  | token
  | spec
  deriving DecidableEq, Repr

def ValueOption.environmentName? : ValueOption → Option String
  | .url => some "RANCHER_URL"
  | .token => some "RANCHER_TOKEN_KEY"
  | .spec => none

def insecureVariable : String := "RANCHER_INSECURE"

def ValueOption.ofName? (level : Level) (name : List Char) : Option ValueOption :=
  if name = "url".toList then some .url
  else if name = "token".toList then some .token
  else if name = "spec".toList ∧ level = .read then some .spec
  else none

structure Given where
  url : Option String
  token : Option String
  spec : Option String
  insecure : Bool
  arguments : List String
  deriving DecidableEq, Repr

inductive Pending where
  | nothing
  | bare (option : ValueOption)
  | valued (option : ValueOption) (value : String)
  | argument (value : String)
  deriving DecidableEq, Repr

namespace Given

def empty : Given := ⟨none, none, none, false, []⟩

def find? (g : Given) : ValueOption → Option String
  | .url => g.url
  | .token => g.token
  | .spec => g.spec

def put (g : Given) (value : String) : ValueOption → Given
  | .url => { g with url := some value }
  | .token => { g with token := some value }
  | .spec => { g with spec := some value }

def settleOption (g : Given) (option : ValueOption) (value : String) : Option Given :=
  if (g.find? option).isSome then none
  else if option = .spec ∧ value.isEmpty then none
  else some (g.put value option)

def settle (level : Level) (g : Given) : Pending → Option Given
  | .nothing => some g
  | .bare _ => none
  | .valued option value => g.settleOption option value
  | .argument value =>
    if level.takesFiles ∧ value.isEmpty then none
    else some { g with arguments := g.arguments ++ [value] }

def raiseInsecure (g : Given) : Option Given :=
  if g.insecure then none else some { g with insecure := true }

end Given

inductive Step where
  | go (given : Given) (pending : Pending)
  | plain (pending : Pending)
  | stop (reading : Reading)

inductive Taken where
  | all (given : Given) (pending : Pending)
  | command (level : Level) (given : Given) (pending : Pending) (rest : List String)
  | stopped (reading : Reading)

namespace Level

def stopFor (level : Level) (g : Given) (p : Pending) (reading : Reading) : Step :=
  match g.settle level p with
  | some _ => .stop reading
  | none => .stop .misuse

def long (level : Level) (g : Given) (p : Pending) (name : List Char) (value : Option String) :
    Step :=
  match ValueOption.ofName? level name with
  | some option =>
    match g.settle level p with
    | none => .stop .misuse
    | some g =>
      match value with
      | none => .go g (.bare option)
      | some value =>
        match g.settleOption option value with
        | some g => .go g .nothing
        | none => .stop .misuse
  | none =>
    if value.isSome then .stop .misuse
    else if name = "insecure".toList then
      match (g.settle level p).bind Given.raiseInsecure with
      | some g => .go g .nothing
      | none => .stop .misuse
    else if name = "help".toList then level.stopFor g p (.help (.level level))
    else if name = "version".toList ∧ level = .root then level.stopFor g p .version
    else .stop .misuse

def argument (level : Level) (g : Given) (p : Pending) (value : String) : Step :=
  match p with
  | .bare option => .go g (.valued option value)
  | p =>
    match g.settle level p with
    | none => .stop .misuse
    | some g =>
      if g.arguments.length < level.arity then .go g (.argument value) else .stop .misuse

def step (level : Level) (g : Given) (p : Pending) (arg : String) : Step :=
  match arg.toList with
  | ['-', '-'] => .plain p
  | '-' :: '-' :: rest =>
    match Text.cut '=' rest with
    | some (name, value) => level.long g p name (some (String.ofList value))
    | none => level.long g p rest none
  | '-' :: 'h' :: _ => level.stopFor g p (.help (.level level))
  | '-' :: 'V' :: _ => if level = .root then level.stopFor g p .version else .stop .misuse
  | '-' :: _ :: _ => .stop .misuse
  | _ => level.argument g p arg

def takePlain (level : Level) (g : Given) (p : Pending) : List String → Taken
  | [] => .all g p
  | arg :: rest =>
    match p with
    | .bare _ => .stopped .misuse
    | p =>
      match level.argument g p arg with
      | .go g p => level.takePlain g p rest
      | .plain _ => .stopped .misuse
      | .stop reading => .stopped reading

def helpOn : List String → Reading
  | [] => .help (.level .root)
  | ["help"] => .help .help
  | [name] =>
    match ofName? name with
    | some level => .help (.level level)
    | none => .misuse
  | _ => .misuse

def awaits : Pending → Bool
  | .bare _ => true
  | _ => false

def take (level : Level) (g : Given) (p : Pending) : List String → Taken
  | [] => .all g p
  | arg :: rest =>
    if level = .root ∧ !awaits p ∧ arg = "help" then .stopped (helpOn rest)
    else
      match if level = .root ∧ !awaits p then ofName? arg else none with
      | some command => .command command g p rest
      | none =>
        match level.step g p arg with
        | .go g p => level.take g p rest
        | .plain p => level.takePlain g p rest
        | .stop reading => .stopped reading

end Level

def insecureOf (env : Environment) : Option Bool :=
  match env.find? insecureVariable with
  | none => some false
  | some value =>
    if value = "true" then some true else if value = "false" then some false else none

def environmentFits (env : Environment) (g : Given) : Bool :=
  g.insecure || (insecureOf env).isSome

def command? (level : Level) (g : Given) : Option Command :=
  match level, g.arguments with
  | .create, [file] => some (.create file)
  | .read, [id] => some (.read id g.spec)
  | .update, [state, spec] => some (.update state spec)
  | .delete, [id] => some (.delete id)
  | _, _ => none

def effective (env : Environment) (outer inner : Given) (option : ValueOption) : Option String :=
  (inner.find? option).or ((outer.find? option).or (option.environmentName?.bind env.find?))

def combine (env : Environment) (level : Level) (outer inner : Given) : Reading :=
  match command? level inner with
  | none => .misuse
  | some command =>
    if environmentFits env outer && environmentFits env inner then
      .invoke {
        command := command
        url := effective env outer inner .url
        token := effective env outer inner .token
        insecure := outer.insecure || inner.insecure || (insecureOf env).getD false }
    else .misuse

def readArguments (env : Environment) (args : List String) : Reading :=
  match Level.root.take .empty .nothing args with
  | .stopped reading => reading
  | .all _ _ => .misuse
  | .command level outer outerPending rest =>
    match level.take .empty .nothing rest with
    | .stopped reading => reading
    | .command _ _ _ _ => .misuse
    | .all inner innerPending =>
      match inner.settle level innerPending, outer.settle .root outerPending with
      | some inner, some outer => combine env level outer inner
      | _, _ => .misuse

end MultiCluster.CommandLine
