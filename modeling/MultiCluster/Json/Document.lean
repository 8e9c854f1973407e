import MultiCluster.Json.Token

namespace MultiCluster.Json

inductive Doc where
  | null
  | bool (value : Bool)
  | number (value : Number)
  | str (text : Option String)
  | array (items : List Doc)
  | object (members : List (Option String × Doc))
  -- Here the text is not JSON.
  | broken
  -- Here a value begins where a key should stand.
  | misplaced (value : Doc)
  deriving Repr

instance : Inhabited Doc := ⟨.broken⟩

inductive Frame where
  | array (items : List Doc)
  | object (members : List (Option String × Doc))
  | member (members : List (Option String × Doc)) (key : Option String)
  deriving Repr

namespace Frame

def add (d : Doc) : Frame → Frame
  | array items => array (d :: items)
  | object members => object ((none, d) :: members)
  | member members key => object ((key, d) :: members)

def close : Frame → Doc
  | array items => .array items.reverse
  | object members => .object members.reverse
  | member members _ => .object members.reverse

end Frame

inductive Await where
  | value
  | valueOrClose
  | key
  | keyOrClose
  | colon
  | commaOrClose
  deriving DecidableEq, Repr

inductive Reader where
  | reading (frames : List Frame) (await : Await)
  | ended (value : Doc) (more : Bool)
  deriving Repr

namespace Reader

def start : Reader := reading [] .value

def abandonAt (d : Doc) (frames : List Frame) : Doc :=
  frames.foldl (fun d f => (f.add d).close) d

def abandon (frames : List Frame) : Doc := abandonAt .broken frames

def complete (d : Doc) : List Frame → Reader
  | [] => ended d false
  | f :: outer => reading (f.add d :: outer) .commaOrClose

def value (frames : List Frame) : Token → Reader
  | .openArray => reading (.array [] :: frames) .valueOrClose
  | .openObject => reading (.object [] :: frames) .keyOrClose
  | .null => complete .null frames
  | .bool b => complete (.bool b) frames
  | .number n => complete (.number n) frames
  | .str s => complete (.str s) frames
  | _ => ended (abandon frames) true

def close : List Frame → Token → Reader
  | .array items :: outer, .closeArray => complete (.array items.reverse) outer
  | .object members :: outer, .closeObject => complete (.object members.reverse) outer
  | frames, _ => ended (abandon frames) true

def misplaced : Token → Doc
  | .openArray => .misplaced (.array [])
  | .openObject => .misplaced (.object [])
  | .null => .misplaced .null
  | .bool b => .misplaced (.bool b)
  | .number n => .misplaced (.number n)
  | _ => .broken

def key : List Frame → Token → Reader
  | .object members :: outer, .str k => reading (.member members k :: outer) .colon
  | frames, t => ended (abandonAt (misplaced t) frames) true

def afterComma : List Frame → Await
  | .object _ :: _ => .key
  | _ => .value

def feed : Reader → Token → Reader
  | reading frames .value, t => value frames t
  | reading frames .valueOrClose, .closeArray => close frames .closeArray
  | reading frames .valueOrClose, t => value frames t
  | reading frames .key, t => key frames t
  | reading frames .keyOrClose, .closeObject => close frames .closeObject
  | reading frames .keyOrClose, t => key frames t
  | reading frames .colon, .colon => reading frames .value
  | reading frames .colon, _ => ended (abandon frames) true
  | reading frames .commaOrClose, .comma => reading frames (afterComma frames)
  | reading frames .commaOrClose, t => close frames t
  | ended d _, _ => ended d true

def finish : Reader → Doc × Bool
  | reading frames _ => (abandon frames, false)
  | ended d more => (d, more)

end Reader

namespace Doc

def ofTokens (tokens : List Token) : Doc × Bool := (tokens.foldl Reader.feed .start).finish

def read (text : String) : Doc × Bool := ofTokens (tokens text)

def readOctets (octets : List UInt8) : Doc × Bool := ofTokens (octetTokens octets)

mutual

def isWhole : Doc → Bool
  | broken => false
  | misplaced _ => false
  | array items => areWhole items
  | object members => membersWhole members
  | _ => true

def areWhole : List Doc → Bool
  | [] => true
  | d :: rest => isWhole d && areWhole rest

def membersWhole : List (Option String × Doc) → Bool
  | [] => true
  | (_, d) :: rest => isWhole d && membersWhole rest

end

mutual

def isHoldable (room : Nat) : Doc → Bool
  | null => true
  | bool _ => true
  | number n => n ≠ .excessive
  | str s => s.isSome
  | array items => 0 < room && areHoldable (room - 1) items
  | object members => 0 < room && membersHoldable (room - 1) members
  | broken => false
  | misplaced _ => false

def areHoldable (room : Nat) : List Doc → Bool
  | [] => true
  | d :: rest => isHoldable room d && areHoldable room rest

def membersHoldable (room : Nat) : List (Option String × Doc) → Bool
  | [] => true
  | (k, d) :: rest => k.isSome && isHoldable room d && membersHoldable room rest

end

def greatestRoom : Nat := 127

end Doc

end MultiCluster.Json
