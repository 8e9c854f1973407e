import MultiCluster.Json.Number
import MultiCluster.Text.Digits
import MultiCluster.Text.Octets

namespace MultiCluster.Json

inductive Token where
  | openArray
  | closeArray
  | openObject
  | closeObject
  | colon
  | comma
  | null
  | bool (value : Bool)
  | number (value : Number)
  -- A string, unless half a surrogate pair or an octet of no character stands in it.
  | str (text : Option String)
  | refused
  deriving DecidableEq, Repr

inductive Piece where
  | plain (c : Char)
  | unit (n : Nat)
  | stray
  deriving DecidableEq, Repr

namespace Piece

def isHigh (n : Nat) : Bool := 0xD800 ≤ n && n < 0xDC00

def isLow (n : Nat) : Bool := 0xDC00 ≤ n && n < 0xE000

def join : List Piece → Option (List Char)
  | [] => some []
  | .plain c :: rest => (join rest).map (c :: ·)
  | .stray :: _ => none
  | .unit high :: .unit low :: rest =>
    if isHigh high then
      if isLow low then
        (join rest).map (Char.ofNat (0x10000 + (high - 0xD800) * 0x400 + (low - 0xDC00)) :: ·)
      else none
    else if isLow high then none
    else (join (.unit low :: rest)).map (Char.ofNat high :: ·)
  | .unit n :: rest =>
    if isHigh n || isLow n then none else (join rest).map (Char.ofNat n :: ·)

end Piece

inductive Mode where
  | between
  | word (left : List Char) (token : Token)
  | number (phase : Number.Phase) (spelled : List Char)
  | text (pieces : List Piece)
  | escape (pieces : List Piece)
  | unit (pieces : List Piece) (left value : Nat)
  | refused
  deriving DecidableEq, Repr

namespace Mode

def isBlank (c : Char) : Bool := c = ' ' || c = '\n' || c = '\t' || c = '\r'

def escaped? : Char → Option Char
  | '"' => some '"'
  | '\\' => some '\\'
  | '/' => some '/'
  | 'b' => some '\x08'
  | 'f' => some '\x0c'
  | 'n' => some '\n'
  | 'r' => some '\r'
  | 't' => some '\t'
  | _ => none

def refuse : List Token × Mode := ([.refused], .refused)

def start (c : Char) : List Token × Mode :=
  if isBlank c then ([], .between)
  else
    match c with
    | '[' => ([.openArray], .between)
    | ']' => ([.closeArray], .between)
    | '\x7b' => ([.openObject], .between)
    | '\x7d' => ([.closeObject], .between)
    | ':' => ([.colon], .between)
    | ',' => ([.comma], .between)
    | '"' => ([], .text [])
    | 'n' => ([], .word ['u', 'l', 'l'] .null)
    | 't' => ([], .word ['r', 'u', 'e'] (.bool true))
    | 'f' => ([], .word ['a', 'l', 's', 'e'] (.bool false))
    | c =>
      match Number.start? c with
      | some phase => ([], .number phase [c])
      | none => refuse

def step : Mode → Char → List Token × Mode
  | between, c => start c
  | word [x] token, c => if c = x then ([token], between) else refuse
  | word (x :: left) token, c => if c = x then ([], word left token) else refuse
  | word [] _, _ => refuse
  | number phase spelled, c =>
    match Number.advance phase c with
    | .next phase => ([], number phase (c :: spelled))
    | .stop =>
      let (tokens, mode) := start c
      (.number (Number.ofSpelling spelled.reverse) :: tokens, mode)
    | .refuse => refuse
  | text pieces, c =>
    if c = '"' then ([.str ((Piece.join pieces.reverse).map String.ofList)], between)
    else if c = '\\' then ([], escape pieces)
    else if c.toNat < 32 then refuse
    else ([], text (.plain c :: pieces))
  | escape pieces, c =>
    match escaped? c with
    | some d => ([], text (.plain d :: pieces))
    | none => if c = 'u' then ([], unit pieces 4 0) else refuse
  | unit pieces left value, c =>
    match Text.hexDigit? c with
    | some d =>
      if left ≤ 1 then ([], text (.unit (value * 16 + d) :: pieces))
      else ([], unit pieces (left - 1) (value * 16 + d))
    | none => refuse
  | refused, _ => ([], refused)

-- The step over octets that are no character. A string with them can be skipped, but not read.
def stray : Mode → List Token × Mode
  | text pieces => ([], text (.stray :: pieces))
  | mode => mode.step Text.replacement

def finish : Mode → List Token
  | between => []
  | number phase spelled =>
    if phase.isComplete then [.number (Number.ofSpelling spelled.reverse)] else [.refused]
  | refused => []
  | _ => [.refused]

end Mode

structure Lexer where
  mode : Mode
  found : List Token
  deriving DecidableEq, Repr

namespace Lexer

def start : Lexer := ⟨.between, []⟩

def push (l : Lexer) (c : Char) : Lexer :=
  let (tokens, mode) := l.mode.step c
  ⟨mode, tokens.reverse ++ l.found⟩

def pushStray (l : Lexer) : Lexer :=
  let (tokens, mode) := l.mode.stray
  ⟨mode, tokens.reverse ++ l.found⟩

def pushSymbol (l : Lexer) (symbol : Option Char) : Lexer := symbol.elim l.pushStray l.push

def finish (l : Lexer) : List Token := l.found.reverse ++ l.mode.finish

end Lexer

def tokens (text : String) : List Token := (text.toList.foldl Lexer.push .start).finish

def octetTokens (octets : List UInt8) : List Token :=
  ((Text.symbols none octets).foldl Lexer.pushSymbol .start).finish

end MultiCluster.Json
