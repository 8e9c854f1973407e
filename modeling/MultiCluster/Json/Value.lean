import MultiCluster.Json.Document

namespace MultiCluster.Json

inductive Value where
  | null
  | bool (value : Bool)
  | number (n : Nat)
  | str (text : String)
  | array (items : List Value)
  | object (members : List (String × Value))
  deriving Repr

instance : Inhabited Value := ⟨.null⟩

namespace Value

def escape (c : Char) : List Char :=
  if c = '"' then ['\\', '"']
  else if c = '\\' then ['\\', '\\']
  else if c = '\x08' then ['\\', 'b']
  else if c = '\x0c' then ['\\', 'f']
  else if c = '\n' then ['\\', 'n']
  else if c = '\r' then ['\\', 'r']
  else if c = '\t' then ['\\', 't']
  else if c.toNat < 32 then
    ['\\', 'u', '0', '0', Nat.digitChar (c.toNat / 16), Nat.digitChar (c.toNat % 16)]
  else [c]

def quoted (text : String) : List Char := '"' :: (text.toList.flatMap escape ++ ['"'])

mutual

def write : Value → List Char
  | null => ['n', 'u', 'l', 'l']
  | bool true => ['t', 'r', 'u', 'e']
  | bool false => ['f', 'a', 'l', 's', 'e']
  | number n => Nat.toDigits 10 n
  | str text => quoted text
  | array [] => ['[', ']']
  | array (first :: rest) => '[' :: (write first ++ writeItems rest)
  | object [] => ['\x7b', '\x7d']
  | object ((key, first) :: rest) =>
    '\x7b' :: (quoted key ++ ':' :: (write first ++ writeMembers rest))

def writeItems : List Value → List Char
  | [] => [']']
  | item :: rest => ',' :: (write item ++ writeItems rest)

def writeMembers : List (String × Value) → List Char
  | [] => ['\x7d']
  | (key, value) :: rest => ',' :: (quoted key ++ ':' :: (write value ++ writeMembers rest))

end

def text (v : Value) : String := String.ofList v.write

def line (depth : Nat) : List Char := '\n' :: List.replicate (2 * depth) ' '

mutual

def layout (depth : Nat) : Value → List Char
  | array (first :: rest) =>
    '[' :: (line (depth + 1) ++ (layout (depth + 1) first ++ layoutItems depth rest))
  | object ((key, first) :: rest) =>
    '\x7b' :: (line (depth + 1) ++ (quoted key ++ ':' :: ' ' ::
      (layout (depth + 1) first ++ layoutMembers depth rest)))
  | v => write v

def layoutItems (depth : Nat) : List Value → List Char
  | [] => line depth ++ [']']
  | item :: rest =>
    ',' :: (line (depth + 1) ++ (layout (depth + 1) item ++ layoutItems depth rest))

def layoutMembers (depth : Nat) : List (String × Value) → List Char
  | [] => line depth ++ ['\x7d']
  | (key, value) :: rest =>
    ',' :: (line (depth + 1) ++ (quoted key ++ ':' :: ' ' ::
      (layout (depth + 1) value ++ layoutMembers depth rest)))

end

def indented (v : Value) : String := String.ofList (v.layout 0)

mutual

def doc : Value → Doc
  | null => .null
  | bool b => .bool b
  | number n => .number (.natural n)
  | str text => .str (some text)
  | array items => .array (docs items)
  | object members => .object (docMembers members)

def docs : List Value → List Doc
  | [] => []
  | item :: rest => doc item :: docs rest

def docMembers : List (String × Value) → List (Option String × Doc)
  | [] => []
  | (key, value) :: rest => (some key, doc value) :: docMembers rest

end

end Value

end MultiCluster.Json
