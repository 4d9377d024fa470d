import Reshape.Operand.Basic
import Reshape.Syntax.Tree

/-!
# Comparison of operands

Two operands that are no lists compare by one of three rules: with `null`, as numbers if both are
numbers, and otherwise as texts. A list passes a comparison when one of its items does, so two
lists pass when some item of one and some item of the other do.
-/

namespace Reshape

namespace Operand

mutual

/-- Whether the operand, or one of the items of a list at any depth, passes the test. -/
def anyLeaf (test : Operand → Bool) : Operand → Bool
  | .list items => anyLeafOfAll test items
  | operand => test operand

/-- Whether one of the operands passes the test at any depth. -/
def anyLeafOfAll (test : Operand → Bool) : List Operand → Bool
  | [] => false
  | item :: items => anyLeaf test item || anyLeafOfAll test items

end

mutual

/-- The operands that are no lists, in the operand, in order. -/
def leaves : Operand → List Operand
  | .list items => leavesOfAll items
  | operand => [operand]

/-- The leaves of all operands. -/
def leavesOfAll : List Operand → List Operand
  | [] => []
  | item :: items => leaves item ++ leavesOfAll items

end

@[simp] theorem anyLeaf_list (test : Operand → Bool) (items : List Operand) :
    (list items).anyLeaf test = items.any (anyLeaf test) := by
  have hall (items : List Operand) : anyLeafOfAll test items = items.any (anyLeaf test) := by
    induction items with
    | nil => rfl
    | cons item items ih => simp [anyLeafOfAll, ih]
  rw [anyLeaf, hall]

@[simp] theorem leaves_list (items : List Operand) :
    (list items).leaves = items.flatMap leaves := by
  have hall (items : List Operand) : leavesOfAll items = items.flatMap leaves := by
    induction items with
    | nil => rfl
    | cons item items ih => simp [leavesOfAll, ih]
  rw [leaves, hall]

end Operand

namespace Comparator

/-- Comparison where a side is `null`; `both` says whether both are. -/
def testNull (op : Comparator) (both : Bool) : Bool :=
  match op with
  | .equal | .strictEqual => both
  | .notEqual | .strictNotEqual => !both
  | .excludes => true
  | _ => false

/-- Comparison of numbers. One number includes another when its text does. -/
def testNumbers (op : Comparator) (left right : Float) (leftText rightText : String) : Bool :=
  match op with
  | .equal | .strictEqual => left == right
  | .notEqual | .strictNotEqual => left != right
  | .greater => right < left
  | .greaterOrEqual => right ≤ left
  | .less => left < right
  | .lessOrEqual => left ≤ right
  | .includes => leftText.contains rightText
  | .excludes => !leftText.contains rightText

/-- Comparison of texts, which are ordered by their characters. -/
def testTexts (op : Comparator) (left right : String) : Bool :=
  match op with
  | .equal => Text.lowercase left == Text.lowercase right
  | .strictEqual => left == right
  | .notEqual => Text.lowercase left != Text.lowercase right
  | .strictNotEqual => left != right
  | .greater => right < left
  | .greaterOrEqual => !(left < right : Bool)
  | .less => left < right
  | .lessOrEqual => !(right < left : Bool)
  | .includes => (Text.lowercase left).contains (Text.lowercase right)
  | .excludes => !(Text.lowercase left).contains (Text.lowercase right)

/-- Comparison of operands that are no lists. -/
def testLeaves (op : Comparator) (left right : Operand) : Bool :=
  if left.isNull || right.isNull then op.testNull (left.isNull && right.isNull)
  else
    match left.asFloat?, right.asFloat? with
    | some l, some r => op.testNumbers l r left.render right.render
    | _, _ => op.testTexts left.render right.render

mutual

/--
Comparison of operands. Two lists compare when some item of one does with some item of the other,
and a list compares with a single operand when some item does.
-/
def test (op : Comparator) : Operand → Operand → Bool
  | .list lefts, .list rights => testItems op lefts rights
  | .list lefts, right => testItems op lefts [right]
  | left, right => right.anyLeaf fun r => op.testLeaves left r

/-- Whether some item of one list compares with some item of the other. -/
def testItems (op : Comparator) : List Operand → List Operand → Bool
  | [], _ => false
  | left :: lefts, rights => rights.any (test op left) || testItems op lefts rights

end

theorem testItems_eq_any (op : Comparator) (lefts rights : List Operand) :
    op.testItems lefts rights
      = lefts.any fun left => rights.any fun right => op.test left right := by
  induction lefts with
  | nil => rfl
  | cons left lefts ih => simp [testItems, ih]

/-- The operator that holds of two leaves just where this one does not, if there is one. -/
def negation? : Comparator → Option Comparator
  | .equal => some .notEqual
  | .strictEqual => some .strictNotEqual
  | .includes => some .excludes
  | _ => none

end Comparator

end Reshape
