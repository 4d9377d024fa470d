import Reshape.Refusal
import Reshape.Syntax.Grammar

/-!
# Reading texts

What each kind of text is read as. A statement and a program must start with a marker, a verb and
an arrow; this is checked first, and on the text alone. A clause is a statement of a known kind
whose marker may be left out.
-/

namespace Reshape

/-! ## Markers -/

/-- The text before the first arrow, and the text after it. -/
def splitArrow? : List Char → Option (List Char × List Char)
  | [] => none
  | '-' :: '>' :: rest => some ([], rest)
  | c :: rest => (splitArrow? rest).map fun (before, after) => (c :: before, after)

/-- Refuses a text unless one of the verbs stands before its first arrow. -/
def requireMarker (accepted : List Verb) (text : String) : Except Refusal Unit :=
  match splitArrow? text.toList with
  | some (before, _) =>
    if accepted.any fun v => Text.sameWord v.word.toList (Text.trim before) then .ok ()
    else .error (.unmarked text accepted)
  | none => .error (.unmarked text accepted)

/-- A clause without its marker. -/
def dropMarker (accepted : List Verb) (clause : String) : Except Refusal String :=
  match splitArrow? clause.toList with
  | some (_, body) => do
    requireMarker accepted clause
    return String.ofList body
  | none => .ok clause

/-! ## Texts -/

/-- Reads a whole text, apart from blanks at its ends. -/
def readWhole {α : Type} (p : Parser α) (text : String) : Except Refusal α :=
  (Parser.runAll p (Text.trim text.toList)).mapError (.unreadable text)

/-- The grammar of paths. -/
def Path.parser : Parser Path := Grammar.nested Grammar.path

/-- The grammar of expressions. -/
def Expression.parser : Parser Expression := Grammar.nested Grammar.expression

/-- The grammar of predicates. -/
def Predicate.parser : Parser Predicate := Grammar.nested Grammar.predicate

/-- The grammar of statements. -/
def Statement.parser : Parser Statement := Grammar.nested Grammar.statement

/-- The grammar of programs. -/
def Program.parser : Parser Program := Grammar.nested Grammar.program

/-- Reads a path. -/
def Path.read (text : String) : Except Refusal Path := readWhole Path.parser text

/-- Reads an expression. -/
def Expression.read (text : String) : Except Refusal Expression :=
  readWhole Expression.parser text

/-- Reads a predicate. -/
def Predicate.read (text : String) : Except Refusal Predicate := readWhole Predicate.parser text

/-- Reads a statement. -/
def Statement.read (text : String) : Except Refusal Statement := do
  requireMarker Verb.all text
  readWhole Statement.parser text

/-- Reads a program. -/
def Program.read (text : String) : Except Refusal Program := do
  requireMarker Verb.all text
  readWhole Program.parser text

/-- Reads the clause of a filter. -/
def Predicate.readClause (clause : String) : Except Refusal Predicate := do
  readWhole Predicate.parser (← dropMarker [.filter] clause)

/-- Reads the clause of an assignment. -/
def Statement.readAssignment (clause : String) : Except Refusal Statement := do
  let (target, value) ←
    readWhole (Grammar.nested Grammar.assignment) (← dropMarker Verb.assigning clause)
  return .assign target value

end Reshape
