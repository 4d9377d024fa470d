import Reshape.Parsing
import Reshape.Syntax.Printer

/-!
# Spellings of syntax trees

A tree can be written in many ways. Between the parts of a text there may be spaces, tabs and line
ends; words are written in either case; a text literal stands between quotes of either kind that
does not occur in it; and assignments have three verbs. `WrittenAs` relates a tree to all of these
texts, `print` chooses one of them.

Nothing may stand inside a path except within its brackets, and a word needs a space only where it
would otherwise run into another one.
-/

namespace Reshape

/-! ## Gaps -/

/-- Spaces that may stand between two parts of a text. -/
def IsGap (text : List Char) : Prop := ∀ c ∈ text, Parser.isSpace c

/-- No word runs from one text into the other. -/
def KeptApart (left right : List Char) : Prop :=
  ∀ a ∈ left.getLast?, ∀ c ∈ right.head?, isNameChar a → ¬isNameChar c

/-- Two texts with a sign or a word between them, and gaps around it. -/
def WrittenAround (sign left right : List Char → Prop) (text : List Char) : Prop :=
  ∃ l before s after r, left l ∧ IsGap before ∧ sign s ∧ IsGap after ∧ right r ∧
    KeptApart l (before ++ s) ∧ KeptApart s (after ++ r) ∧
    text = l ++ (before ++ (s ++ (after ++ r)))

/-- A text and gaps within brackets. -/
def WrittenWithin (opening closing : Char) (inner : List Char → Prop) (text : List Char) : Prop :=
  ∃ before t after, IsGap before ∧ inner t ∧ IsGap after ∧
    text = opening :: (before ++ (t ++ (after ++ [closing])))

/-! ## Trees -/

/-- The texts of a literal. -/
def Literal.WrittenAs : Literal → List Char → Prop
  | .null, t => Text.sameWord "null".toList t
  | .bool true, t => Text.sameWord "true".toList t
  | .bool false, t => Text.sameWord "false".toList t
  | .number n, t => t = n.write
  | .string s, t =>
    ∃ quote, (quote = '"' ∨ quote = '\'') ∧ quote ∉ s.toList ∧ t = quote :: (s.toList ++ [quote])

mutual

/-- The texts of an expression. -/
def Expression.WrittenAs : Expression → List Char → Prop
  | .literal value => value.WrittenAs
  | .path path => fun t => StepsWrittenAs path ('.' :: t)
  | .arithmetic op left right =>
    WrittenAround (· = [op.symbol]) (Expression.WrittenAs left) (Expression.WrittenAs right)
  | .concat left right =>
    WrittenAround (· = "||".toList) (Expression.WrittenAs left) (Expression.WrittenAs right)
  | .group inner => WrittenWithin '(' ')' (Expression.WrittenAs inner)

/-- The texts of a predicate. -/
def Predicate.WrittenAs : Predicate → List Char → Prop
  | .comparison left op right =>
    WrittenAround (· = op.symbol.toList) (Expression.WrittenAs left)
      (Expression.WrittenAs right)
  | .and left right =>
    WrittenAround (Text.sameWord "and".toList ·) (Predicate.WrittenAs left)
      (Predicate.WrittenAs right)
  | .or left right =>
    WrittenAround (Text.sameWord "or".toList ·) (Predicate.WrittenAs left)
      (Predicate.WrittenAs right)
  | .group inner => WrittenWithin '(' ')' (Predicate.WrittenAs inner)
  | .prune path => fun t => StepsWrittenAs path ('.' :: t)

/-- The texts of a selector. -/
def Selector.WrittenAs : Selector → List Char → Prop
  | .whole => (· = [])
  | .each => WrittenWithin '[' ']' (· = [])
  | .at n => WrittenWithin '[' ']' (· = Nat.toDigits 10 n)
  | .matching predicate => WrittenWithin '[' ']' (Predicate.WrittenAs predicate)

/-- The texts of a step of a path. -/
def Segment.WrittenAs : Segment → List Char → Prop
  | .mk name selector => fun t => ∃ s, Selector.WrittenAs selector s ∧ t = name.toList ++ s

/-- The texts of steps, with a dot in front of each. -/
def StepsWrittenAs : List Segment → List Char → Prop
  | [] => (· = [])
  | step :: steps => fun t =>
    ∃ s more, Segment.WrittenAs step s ∧ StepsWrittenAs steps more ∧ t = '.' :: (s ++ more)

end

/-- The texts of a path. There is no dot in front of its first step. -/
def Path.WrittenAs (path : Path) (t : List Char) : Prop := StepsWrittenAs path ('.' :: t)

/-- The verbs that introduce the statement. -/
def Statement.verbs : Statement → List Verb
  | .filter _ => [.filter]
  | .assign _ _ => Verb.assigning
  | .append _ _ => [.append]
  | .rename _ _ => [.rename]

/-- The texts of what a statement says after its marker. -/
def Statement.BodyWrittenAs : Statement → List Char → Prop
  | .filter predicate => predicate.WrittenAs
  | .assign target value => WrittenAround (· = ['=']) target.WrittenAs value.WrittenAs
  | .append target value => WrittenAround (· = ['=']) target.WrittenAs value.WrittenAs
  | .rename target source => WrittenAround (· = ['=']) target.WrittenAs source.WrittenAs

/-- The texts of a statement. -/
def Statement.WrittenAs (s : Statement) (t : List Char) : Prop :=
  ∃ before marked after, IsGap before ∧ IsGap after ∧ t = before ++ (marked ++ after) ∧
    ∃ verb ∈ s.verbs, WrittenAround (· = "->".toList) (Text.sameWord verb.word.toList ·)
      s.BodyWrittenAs marked

end Reshape
