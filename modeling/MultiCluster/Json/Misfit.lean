import MultiCluster.Json.Document
import MultiCluster.Text.Quoted

namespace MultiCluster.Json

inductive Misfit where
  | malformed
  | wrongType (found expected : String)
  | wrongValue (found expected : String)
  | wrongLength (length : Nat) (expected : String)
  | missing (key : String)
  | duplicate (key : String)
  | unknownVariant (name : String) (known : List String)
  deriving DecidableEq, Repr

namespace Misfit

def ticked (text : String) : String := "`" ++ text ++ "`"

def oneOf (names : List String) : String :=
  match names with
  | [] => "there are no variants"
  | [a] => "expected " ++ ticked a
  | [a, b] => "expected " ++ ticked a ++ " or " ++ ticked b
  | names => "expected one of " ++ ", ".intercalate (names.map ticked)

def message : Misfit → Option String
  | malformed => none
  | wrongType found expected => some ("invalid type: " ++ found ++ ", expected " ++ expected)
  | wrongValue found expected => some ("invalid value: " ++ found ++ ", expected " ++ expected)
  | wrongLength length expected =>
    some ("invalid length " ++ toString length ++ ", expected " ++ expected)
  | missing key => some ("missing field " ++ ticked key)
  | duplicate key => some ("duplicate field " ++ ticked key)
  | unknownVariant name known => some ("unknown variant " ++ ticked name ++ ", " ++ oneOf known)

end Misfit

def Number.found? : Number → Option String
  | .natural n => some ("integer " ++ Misfit.ticked (toString n))
  | .negative n => some ("integer " ++ Misfit.ticked ("-" ++ toString n))
  | .fractional isNegative x =>
    some ("floating point " ++ Misfit.ticked ((if isNegative then "-" else "") ++ x.text))
  | .excessive => none

def Doc.found? : Doc → Option String
  | .null => some "null"
  | .bool b => some ("boolean " ++ Misfit.ticked (toString b))
  | .number n => n.found?
  | .str text => text.map fun s => "string " ++ Text.quote s
  | .array _ => some "sequence"
  | .object _ => some "map"
  | .broken => none
  | .misplaced _ => none

def Doc.unlike (expected : String) (d : Doc) : Misfit :=
  match d.found? with
  | some found => .wrongType found expected
  | none => .malformed

end MultiCluster.Json
