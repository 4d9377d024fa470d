/-!
# Sources

Where the text of a document comes from, and why there may be none. A source that cannot be opened
is another matter than one that opens and has no text to give.
-/

namespace Reshape

/-- What has been opened to read a document from. -/
inductive Source where
  | text (content : String)
  /-- It holds no text: a folder, or bytes that spell no characters. -/
  | unreadable

/-- Why a source cannot be opened. -/
inductive OpenFailure where
  /-- Nothing has the name. -/
  | absent
  /-- The path goes on below something that is no folder. -/
  | notFolder
  | nameTooLong
  | denied

/-- The wording of a failure to open, with its number. -/
def OpenFailure.message : OpenFailure → String
  | .absent => "No such file or directory (os error 2)"
  | .notFolder => "Not a directory (os error 20)"
  | .nameTooLong => "File name too long (os error 36)"
  | .denied => "Permission denied (os error 13)"

end Reshape
