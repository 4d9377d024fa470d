import Reshape.Json.WellFormed
import Reshape.Syntax.Tree

/-!
# Well-formed trees

Not every tree has a text. The names in it must be names, a text between quotes must lack one kind
of quote, and, as operators of one strength group to the left, the operands must bind tightly
enough: the left one at least as tightly as its operator, the right one more tightly.

Which numbers may occur is left open. Texts are read as trees with `Number.IsStorable` numbers, and
a tree with `Number.IsExact` numbers has a text that is read as this very tree.
-/

namespace Reshape

/-- How tightly the operator binds. -/
def ArithmeticOp.strength : ArithmeticOp → Nat
  | .add | .subtract => 1
  | .multiply | .divide => 2

/-- How tightly the outermost operator of the expression binds. -/
def Expression.strength : Expression → Nat
  | .concat _ _ => 0
  | .arithmetic op _ _ => op.strength
  | _ => 3

/-- How tightly the outermost operator of the predicate binds. -/
def Predicate.strength : Predicate → Nat
  | .or _ _ => 0
  | .and _ _ => 1
  | _ => 2

/-- A name of a field, which is no reserved word. -/
def IsName (name : String) : Prop :=
  match name.toList with
  | [] => False
  | c :: cs => isNameStart c ∧ cs.all isNameChar ∧ ¬isReserved (c :: cs)

/-- Integers that are kept exactly. -/
def Number.IsExact : Number → Prop
  | .int n => exactRange n
  | .double _ => False

section

variable (numbers : Number → Prop)

/-- A literal that can be written. -/
def Literal.WellFormed : Literal → Prop
  | .number n => numbers n
  | .string s => '"' ∉ s.toList ∨ '\'' ∉ s.toList
  | _ => True

mutual

/-- An expression that has a text. -/
def Expression.WellFormed : Expression → Prop
  | .literal value => value.WellFormed numbers
  | .path path => path ≠ [] ∧ StepsWellFormed path
  | .arithmetic op left right =>
    (op.strength ≤ left.strength ∧ op.strength < right.strength) ∧
      Expression.WellFormed left ∧ Expression.WellFormed right
  | .concat left right =>
    0 < right.strength ∧ Expression.WellFormed left ∧ Expression.WellFormed right
  | .group inner => Expression.WellFormed inner

/-- A predicate that has a text. -/
def Predicate.WellFormed : Predicate → Prop
  | .comparison left _ right => Expression.WellFormed left ∧ Expression.WellFormed right
  | .and left right =>
    (1 ≤ left.strength ∧ 1 < right.strength) ∧
      Predicate.WellFormed left ∧ Predicate.WellFormed right
  | .or left right =>
    0 < right.strength ∧ Predicate.WellFormed left ∧ Predicate.WellFormed right
  | .group inner => Predicate.WellFormed inner
  | .prune path => Path.narrows path ∧ StepsWellFormed path

/-- A selector that has a text. -/
def Selector.WellFormed : Selector → Prop
  | .at n => n < Selector.indexBound
  | .matching predicate => Predicate.WellFormed predicate
  | _ => True

/-- A step that has a text. -/
def Segment.WellFormed : Segment → Prop
  | .mk name selector => IsName name ∧ Selector.WellFormed selector

/-- Steps that each have a text. -/
def StepsWellFormed : List Segment → Prop
  | [] => True
  | step :: steps => Segment.WellFormed step ∧ StepsWellFormed steps

end

/-- A path that has a text. -/
def Path.WellFormed (path : Path) : Prop := path ≠ [] ∧ StepsWellFormed numbers path

/-- A statement that has a text. -/
def Statement.WellFormed : Statement → Prop
  | .filter predicate => predicate.WellFormed numbers
  | .assign target value => target.WellFormed numbers ∧ value.WellFormed numbers
  | .append target value => target.WellFormed numbers ∧ value.WellFormed numbers
  | .rename target source => target.WellFormed numbers ∧ source.WellFormed numbers

end

end Reshape
