import Reshape.Change
import Reshape.Syntax.Reading

/-!
# Runs

Statements are carried out one after the other, up to the first refusal. What was done before it
stays done. A batch is different from its texts one by one in that all of them are read before
anything is done.
-/

namespace Reshape

/-! ## Edits -/

/-- Carries out the statements of a program. -/
def Program.apply (policy : NonFinite) (program : Program) : Edit Unit :=
  program.forM (Statement.apply policy)

/-- Reads a statement and carries it out. -/
def applyText (policy : NonFinite) (text : String) : Edit Unit := do
  (← ofExcept (Statement.read text)).apply policy

/-- Reads all texts, and carries out the statements if all could be read. -/
def applyBatch (policy : NonFinite) (texts : List String) : Edit Unit := do
  Program.apply policy (← ofExcept (texts.mapM Statement.read))

/-! ## Outcomes -/

/-- What a program leaves of a document. -/
def Program.run (policy : NonFinite) (program : Program) (document : Json) : Outcome :=
  (program.apply policy).on document

/-- What the statement in a text leaves of a document. -/
def runText (policy : NonFinite) (text : String) (document : Json) : Outcome :=
  (applyText policy text).on document

/-- What the statements in several texts leave of a document. -/
def runBatch (policy : NonFinite) (texts : List String) (document : Json) : Outcome :=
  (applyBatch policy texts).on document

end Reshape
