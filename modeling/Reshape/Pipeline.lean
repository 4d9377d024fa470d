import Reshape.Json.Reader
import Reshape.Run
import Reshape.Source

/-!
# Pipelines

A pipeline carries one document from its text through steps to a written result. A step that is
refused ends it.
-/

namespace Reshape

/-- A document on its way, and the policy for the steps to come. -/
structure Pipeline where
  document : Json
  policy : NonFinite := .storeNull

namespace Pipeline

/-- Why a pipeline ended without a result. -/
inductive Error where
  /-- A step was refused. -/
  | refused (refusal : Refusal)
  /-- What was read is no document. -/
  | notJson
  /-- The source with the given name cannot be opened. -/
  | unopened (name : String) (failure : OpenFailure)

/-- The wording of an error. -/
def Error.message : Error → String
  | .refused refusal => "Query failed: " ++ refusal.message
  | .notJson => "JSON error"
  | .unopened name failure =>
    "I/O error: Failed to read document from '" ++ name ++ "': " ++ failure.message

/-- Starts from the text of a document. -/
def ofText (text : String) : Except Error Pipeline :=
  match Json.read? text with
  | some document => .ok { document }
  | none => .error .notJson

/-- Starts from what a source holds. -/
def ofSource : Source → Except Error Pipeline
  | .text content => ofText content
  | .unreadable => .error .notJson

/-- Goes on under another policy. -/
def withPolicy (policy : NonFinite) (p : Pipeline) : Pipeline := { p with policy }

/-- Goes on with what a run leaves behind, unless it was refused. -/
def continueWith (p : Pipeline) (outcome : Outcome) : Except Error Pipeline :=
  match outcome.refusal with
  | none => .ok { p with document := outcome.document }
  | some refusal => .error (.refused refusal)

/-- Carries out a statement. -/
def applyStatement (statement : Statement) (p : Pipeline) : Except Error Pipeline :=
  p.continueWith ((statement.apply p.policy).on p.document)

/-- Filters by a clause, with or without its marker. -/
def filter (clause : String) (p : Pipeline) : Except Error Pipeline := do
  let predicate ← (Predicate.readClause clause).mapError .refused
  p.applyStatement (.filter predicate)

/-- Assigns by a clause, with or without its marker. -/
def assign (clause : String) (p : Pipeline) : Except Error Pipeline := do
  p.applyStatement (← (Statement.readAssignment clause).mapError .refused)

/-- Carries out the statement in a text. -/
def apply (text : String) (p : Pipeline) : Except Error Pipeline :=
  p.continueWith (runText p.policy text p.document)

/-- Carries out the statements in several texts. -/
def applyAll (texts : List String) (p : Pipeline) : Except Error Pipeline :=
  p.continueWith (runBatch p.policy texts p.document)

/-- The document on one line. -/
def toText (p : Pipeline) : String := p.document.compact

/-- The document over several lines. -/
def toIndentedText (p : Pipeline) : String := p.document.indented

/-- A pipeline is rendered as its document on one line. -/
instance toStringPipeline : ToString Pipeline := ⟨toText⟩

/-- What is written as the result, with the end of its last line. -/
def output (pretty : Bool) (p : Pipeline) : String :=
  (if pretty then p.toIndentedText else p.toText) ++ "\n"

end Pipeline

end Reshape
