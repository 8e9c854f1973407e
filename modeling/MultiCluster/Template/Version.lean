import MultiCluster.Text.Split
import MultiCluster.Text.Digits

namespace MultiCluster

inductive PrePart where
  | number (n : Nat)
  | word (s : String)
  deriving DecidableEq, Repr

structure Version where
  segments : List Nat
  pre : Option (List PrePart)
  deriving DecidableEq, Repr

namespace PrePart

def read (s : List Char) : PrePart :=
  match Text.readBelow Text.limit64 s with
  | some n => .number n
  | none => .word (String.ofList s)

def compare : PrePart → PrePart → Ordering
  | .number a, .number b => Ord.compare a b
  | .number _, .word _ => .lt
  | .word _, .number _ => .gt
  | .word a, .word b => Ord.compare a b

end PrePart

namespace Version

def readSegments (core : List Char) : Option (List Nat) :=
  (Text.pieces '.' core).mapM (Text.readBelow Text.limit64)

def withoutMark : List Char → List Char
  | 'v' :: rest => rest
  | s => s

def withoutBuild (s : List Char) : List Char :=
  match Text.cut '+' s with
  | some (version, _) => version
  | none => s

def read (raw : String) : Option Version :=
  let s := withoutBuild (withoutMark (Text.trim raw.toList))
  match Text.cut '-' s with
  | none => (readSegments s).map fun segments => ⟨segments, none⟩
  | some (_, []) => none
  | some (core, pre) =>
    (readSegments core).map fun segments =>
      ⟨segments, some ((Text.pieces '.' pre).map PrePart.read)⟩

def compareSegments : List Nat → List Nat → Ordering
  | [], b => if b.all (· = 0) then .eq else .lt
  | a, [] => if a.all (· = 0) then .eq else .gt
  | x :: a, y :: b => (Ord.compare x y).then (compareSegments a b)

def comparePre : Option (List PrePart) → Option (List PrePart) → Ordering
  | none, none => .eq
  | none, some _ => .gt
  | some _, none => .lt
  | some a, some b => List.compareLex PrePart.compare a b

def compare (a b : Version) : Ordering :=
  (compareSegments a.segments b.segments).then (comparePre a.pre b.pre)

end Version

end MultiCluster
