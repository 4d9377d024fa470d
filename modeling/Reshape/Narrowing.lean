import Reshape.Visit

/-!
# Narrowing

A filter decides for each item of an array whether it stays. On the way it carries out the paths
that stand alone in its predicate: each narrows the arrays it leads to, and then holds. What a
later clause sees is already narrowed, and it stays narrowed even when the branch of the predicate
that did it comes out false and another one keeps the item.
-/

namespace Reshape

mutual

/-- Decides a predicate and narrows what its paths lead to. Nothing is done after the verdict. -/
def Predicate.sift : Predicate → Json → Bool × Json
  | .comparison left op right, node => (Predicate.holds (.comparison left op right) node, node)
  | .and left right, node =>
    match Predicate.sift left node with
    | (true, node) => Predicate.sift right node
    | (false, node) => (false, node)
  | .or left right, node =>
    match Predicate.sift left node with
    | (true, node) => (true, node)
    | (false, node) => Predicate.sift right node
  | .group inner, node => Predicate.sift inner node
  | .prune path, node => (true, narrowPath path node)

/-- Narrows the arrays that a path leads to: its last step decides what they keep. -/
def narrowPath : List Segment → Json → Json
  | [], node => node
  | .mk name selector :: path, node =>
    node.mapObjects fun fields => fields.modify name fun value =>
      if path.isEmpty then Selector.narrow selector value
      else selector.modify (fun node => narrowPath path node) value

/-- Narrows an array to the items that the selector picks, each of them narrowed in turn. -/
def Selector.narrow : Selector → Json → Json
  | .at n, .array items => .array items[n]?.toList
  | .matching predicate, .array items =>
    .array (items.filterMap fun item =>
      match Predicate.sift predicate item with
      | (true, item) => some item
      | (false, _) => none)
  | _, value => value

end

/-- Narrows the arrays that a path leads to. -/
def Path.narrow (path : Path) (node : Json) : Json := narrowPath path node

/-- The items that a predicate keeps, narrowed. -/
def Predicate.siftAll (predicate : Predicate) (items : List Json) : List Json :=
  items.filterMap fun item =>
    match predicate.sift item with
    | (true, item) => some item
    | (false, _) => none

end Reshape
