import MultiCluster.HostName.Spelling
import MultiCluster.Text.Composition
import MultiCluster.Text.Punycode

namespace MultiCluster.HostName

def written? (name : List Char) : Option (List Char) :=
  (name.mapM spelling?).map fun texts => Text.composed texts.flatten

inductive Direction where
  | left
  | right
  | number
  | arabicNumber
  | mark
  | neutral
  deriving DecidableEq, Repr

def arabicNumberRanges : List (Nat × Nat) :=
  [(0x600, 0x605), (0x660, 0x669), (0x66B, 0x66C), (0x6DD, 0x6DD), (0x890, 0x891), (0x8E2, 0x8E2),
   (0x10D30, 0x10D39), (0x10D40, 0x10D49), (0x10E60, 0x10E7E)]

def rightRanges : List (Nat × Nat) :=
  [(0x590, 0x605), (0x608, 0x608), (0x60B, 0x60B), (0x60D, 0x60D), (0x610, 0x669), (0x66B, 0x6DD),
   (0x6DF, 0x6E8), (0x6EA, 0x7F5), (0x7FA, 0x8FF), (0xFB1D, 0xFB28), (0xFB2A, 0xFD3D),
   (0xFD50, 0xFDCE), (0xFDF0, 0xFDFC), (0xFE70, 0xFEFF), (0x10800, 0x1091E), (0x10920, 0x10B38),
   (0x10B40, 0x10FFF), (0x1E800, 0x1EEEF), (0x1EEF2, 0x1EFFF)]

def neutralRanges : List (Nat × Nat) :=
  [(0xA1, 0xA9), (0xAB, 0xB4), (0xB6, 0xB9), (0xBB, 0xBF), (0xD7, 0xD7), (0xF7, 0xF7),
   (0x2B9, 0x2BA), (0x2C2, 0x2CF), (0x2D2, 0x2DF), (0x2E5, 0x2ED), (0x2EF, 0x2FF), (0x375, 0x375),
   (0x606, 0x607), (0x609, 0x60A), (0x60C, 0x60C), (0x60E, 0x60F), (0x66A, 0x66A), (0x6DE, 0x6DE),
   (0x6E9, 0x6E9), (0x7F6, 0x7F9), (0x2010, 0x2BFF), (0x2E00, 0x2FFF), (0x3001, 0x3004),
   (0x3008, 0x3020), (0x3030, 0x3030), (0x30A0, 0x30A0), (0x30FB, 0x30FB), (0x1F000, 0x1F1E5),
   (0x1F300, 0x1FAFF)]

def directionOf (c : Char) : Direction :=
  if Text.isMark c && Text.isInvisible c then .mark
  else if ('0' ≤ c && c ≤ '9') || isIn [(0x6F0, 0x6F9)] c then .number
  else if isIn arabicNumberRanges c then .arabicNumber
  else if isIn rightRanges c then .right
  else if isIn neutralRanges c || (c.toNat < 128 && !c.isAlpha) then .neutral
  else .left

def runsRight (c : Char) : Bool := [.right, .arabicNumber].contains (directionOf c)

def keepsDirection (label : List Char) : Bool :=
  let directions := label.map directionOf
  let last := (directions.filter (· ≠ .mark)).getLast?
  match directions.head? with
  | none => true
  | some .right =>
    !(directions.contains .left) &&
      !(directions.contains .number && directions.contains .arabicNumber) &&
      [some .right, some .number, some .arabicNumber].contains last
  | some .left =>
    !(directions.contains .right) && !(directions.contains .arabicNumber) &&
      [some .left, some .number].contains last
  | some _ => false

def vowelKiller : Nat := 9

def joinerFits (before : List Char) (c : Char) (after : List Char) : Bool :=
  let isBeside (text : List Char) : Bool :=
    (text.find? (!Text.isMark ·)).map directionOf = some .right
  before.head?.map Text.orderClass = some vowelKiller ||
    (c = '\u200c' && isBeside before && isBeside after)

def joinersFit (before : List Char) : List Char → Bool
  | [] => true
  | c :: rest => (!isJoiner c || joinerFits before c rest) && joinersFit (c :: before) rest

def codedMark : List Char := ['x', 'n', '-', '-']

def isSound (label : List Char) : Bool :=
  !(label.head?.map Text.isMark).getD false && joinersFit [] label && !codedMark.isPrefixOf label

def uncoded? (coded : List Char) : Option (List Char) :=
  (Text.Punycode.decode? coded).filter fun label =>
    !label.all Text.Punycode.isAscii && written? label = some label && isSound label

def label? (label : List Char) : Option (List Char × List Char) :=
  if codedMark.isPrefixOf label then
    (uncoded? (label.drop codedMark.length)).map fun whole => (whole, label)
  else if label.all Text.Punycode.isAscii then some (label, label)
  else if isSound label then some (label, codedMark ++ Text.Punycode.encode label)
  else none

def sent? (name : List Char) : Option (List Char) := do
  let written ← written? name
  let labels ← (Text.pieces '.' written).mapM label?
  if (labels.any fun l => l.1.any runsRight) && !(labels.all fun l => keepsDirection l.1) then none
  else return ['.'].intercalate (labels.map Prod.snd)

end MultiCluster.HostName
