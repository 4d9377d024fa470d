import Reshape.Json.Walk
import Reshape.Operand.Comparison

/-!
# Evaluation

What expressions, predicates and paths mean for a document. All of it only reads.

* `Expression.eval` computes an operand;
* `Predicate.holds` decides a condition;
* `Path.select` finds the nodes at the end of a path, step by step: each step takes all nodes found
  so far to the nodes of the next step, in order. What does not fit a step is left out.
-/

namespace Reshape

/-- The operand that a literal stands for. -/
def Literal.operand : Literal → Operand
  | .null => .null
  | .bool b => .bool b
  | .number n => .number n
  | .string s => .text s

/-- The result of arithmetic. The sum of two texts is the text of both; all else is numbers. -/
def ArithmeticOp.apply (op : ArithmeticOp) (left right : Operand) : Operand :=
  if op = .add && left.isText && right.isText then .text (left.render ++ right.render)
  else
    .float
      (match op with
      | .add => left.toFloat + right.toFloat
      | .subtract => left.toFloat - right.toFloat
      | .multiply => left.toFloat * right.toFloat
      | .divide => left.toFloat / right.toFloat)

mutual

/-- The value of an expression. -/
def Expression.eval : Expression → Json → Operand
  | .literal value, _ => value.operand
  | .path path, node => .ofNodes (selectPath path [node])
  | .arithmetic op left right, node =>
    op.apply (Expression.eval left node) (Expression.eval right node)
  | .concat left right, node =>
    .text ((Expression.eval left node).render ++ (Expression.eval right node).render)
  | .group inner, node => Expression.eval inner node

/-- Whether a predicate holds. A path that stands alone does. -/
def Predicate.holds : Predicate → Json → Bool
  | .comparison left op right, node =>
    op.test (Expression.eval left node) (Expression.eval right node)
  | .and left right, node => Predicate.holds left node && Predicate.holds right node
  | .or left right, node => Predicate.holds left node || Predicate.holds right node
  | .group inner, node => Predicate.holds inner node
  | .prune _, _ => true

/-- The nodes that a step leads to. -/
def Segment.select : Segment → Json → List Json
  | .mk name selector, node =>
    (node.valuesAt name).flatMap fun value => Selector.select selector value

/-- The nodes that a selector picks of the value of a field. In brackets, only arrays have any. -/
def Selector.select : Selector → Json → List Json
  | .whole, value => [value]
  | .each, .array items => items
  | .at n, .array items => items[n]?.toList
  | .matching predicate, .array items => items.filter fun item => Predicate.holds predicate item
  | _, _ => []

/-- The nodes at the end of a path that starts from some nodes. -/
def selectPath : List Segment → List Json → List Json
  | [], nodes => nodes
  | step :: path, nodes => selectPath path (nodes.flatMap fun node => Segment.select step node)

end

namespace Path

/-- The nodes at the end of a path that starts from some nodes. -/
def select (path : Path) (nodes : List Json) : List Json := selectPath path nodes

@[simp] theorem select_nil (nodes : List Json) : select [] nodes = nodes := rfl

@[simp] theorem select_cons (step : Segment) (path : Path) (nodes : List Json) :
    select (step :: path) nodes = path.select (nodes.flatMap step.select) := rfl

/-- A path after another starts from the nodes that the first finds. -/
theorem select_append (first second : Path) (nodes : List Json) :
    select (first ++ second) nodes = second.select (first.select nodes) := by
  induction first generalizing nodes with
  | nil => rfl
  | cons step first ih => exact ih _

/-- What a path finds from several nodes is what it finds from each, in order. -/
theorem select_eq_flatMap (path : Path) (nodes : List Json) :
    path.select nodes = nodes.flatMap fun node => path.select [node] := by
  induction path generalizing nodes with
  | nil => simp
  | cons step path ih =>
    have hstep (node : Json) :
        select (step :: path) [node] =
          (step.select node).flatMap fun node => select path [node] := by
      rw [select_cons, List.flatMap_singleton, ih]
    simp only [hstep]
    rw [select_cons, ih, List.flatMap_assoc]

end Path

end Reshape
