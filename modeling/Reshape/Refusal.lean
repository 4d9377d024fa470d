import Reshape.Parsing
import Reshape.Syntax.Printer
import Reshape.Text.Blank
import Reshape.Text.Quoted

/-!
# Refusals

Why a text could not be read or a statement could not be carried out. A refusal names its cause;
`Refusal.message` is its one wording.
-/

namespace Reshape

/-- The name of an expectation in messages. -/
def Expectation.code : Expectation → String
  | .char => "Char"
  | .word => "Tag"
  | .charClass => "Satisfy"
  | .oneOf => "OneOf"
  | .digits => "Digit"
  | .accepted => "Verify"
  | .value => "MapRes"
  | .absence => "Not"

/-- The wording of a fault: what was left, or what could not be read there. -/
def Parser.Fault.message : Parser.Fault → String
  | .leftover rest =>
    "Parser did not consume all input. Remainder: '" ++ String.ofList rest ++ "'"
  | .failure ⟨rest, expected⟩ =>
    "Parsing Error: Error \x7b input: " ++ String.ofList (Text.Quoted.encode rest)
      ++ ", code: " ++ expected.code ++ " \x7d"

/-- Why a text could not be read or a statement could not be carried out. -/
inductive Refusal where
  /-- The text does not start with one of these verbs and an arrow. -/
  | unmarked (text : String) (accepted : List Verb)
  /-- The text is not of the form that was asked for. -/
  | unreadable (text : String) (fault : Parser.Fault)
  /-- Only the items of an array can be filtered. -/
  | notAnArray (found : Kind)
  /-- A number that no document can hold was to be stored. -/
  | notFinite (target : Path) (value : Float)

/-- The name of a number that is not finite, in messages. -/
def nameNonFinite (x : Float) : String :=
  if x.isNaN then "NaN" else if 0 < x then "inf" else "-inf"

/-- The wording of a refusal. -/
def Refusal.message : Refusal → String
  | .unmarked text accepted =>
    "Malformed operation: '" ++ String.ofList (Text.trim text.toList)
      ++ "' should start with one of: "
      ++ ", ".intercalate (accepted.map fun v => "'" ++ v.word ++ " ->'")
  | .unreadable text fault => "Parse error in '" ++ text ++ "': " ++ fault.message
  | .notAnArray found =>
    "'" ++ Verb.filter.word ++ "' expected array, found " ++ found.name
  | .notFinite target value =>
    "Non-finite number " ++ nameNonFinite value ++ " cannot be stored in field '"
      ++ target.display ++ "'"

end Reshape
