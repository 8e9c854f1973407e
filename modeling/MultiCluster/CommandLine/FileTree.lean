import MultiCluster.Dict
import MultiCluster.Text.Split

namespace MultiCluster.CommandLine

inductive FileFault where
  | missing
  | denied
  | notDirectory
  | directory
  | nameTooLong
  | notText
  | other (message : String)
  deriving DecidableEq, Repr

def FileFault.message : FileFault → String
  | missing => "No such file or directory (os error 2)"
  | denied => "Permission denied (os error 13)"
  | notDirectory => "Not a directory (os error 20)"
  | directory => "Is a directory (os error 21)"
  | nameTooLong => "File name too long (os error 36)"
  | notText => "stream did not contain valid UTF-8"
  | other message => message

abbrev Place := List String

structure FileTree where
  workingPlace : Place
  files : List (Place × String)
  directories : List Place
  deriving DecidableEq, Repr

namespace FileTree

def parts (path : String) : List String := (Text.pieces '/' path.toList).map String.ofList

def isIdle (part : String) : Bool := part.isEmpty || part = "."

def holding (workingPlace : Place) (files : Dict String) : FileTree where
  workingPlace := workingPlace
  files := files.entries.map fun e => (workingPlace ++ (parts e.1).filter (!isIdle ·), e.2)
  directories := [workingPlace]

def file? (t : FileTree) (p : Place) : Option String :=
  (t.files.find? fun f => f.1 = p).map Prod.snd

def isDirectory (t : FileTree) (p : Place) : Bool :=
  p.isEmpty || t.directories.any p.isPrefixOf ||
    t.files.any fun f => p.isPrefixOf f.1 && p.length < f.1.length

def isPresent (t : FileTree) (p : Place) : Bool := t.isDirectory p || (t.file? p).isSome

def longestName : Nat := 255

def longestPath : Nat := 4095

def step (t : FileTree) (here : Place) (part : String) : Except FileFault Place :=
  if !t.isDirectory here then .error .notDirectory
  else if isIdle part then .ok here
  else if part = ".." then .ok here.dropLast
  else if longestName < part.utf8ByteSize then .error .nameTooLong
  else if t.isPresent (here ++ [part]) then .ok (here ++ [part])
  else .error .missing

def follow (t : FileTree) (here : Place) : List String → Except FileFault Place
  | [] => .ok here
  | part :: rest => (t.step here part).bind fun there => t.follow there rest

def read (t : FileTree) (path : String) : Except FileFault String :=
  if path.isEmpty then .error .missing
  else if longestPath < path.utf8ByteSize then .error .nameTooLong
  else
    let start := if path.toList.head? = some '/' then [] else t.workingPlace
    (t.follow start (parts path)).bind fun place =>
      match t.file? place with
      | some text => .ok text
      | none => .error .directory

end FileTree

end MultiCluster.CommandLine
