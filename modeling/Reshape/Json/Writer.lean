import Reshape.Json.Basic

/-!
# Writing documents

A document is written compactly, on one line without spaces, or indented, with each item and each
field on a line of its own. Both forms differ only in the blanks around brackets, commas and
colons, so one function writes both. The compact form is also the text of a document in
expressions.
-/

namespace Reshape.Json

/-! ## Strings -/

/-- How a character is written in a string: only the quote, the backslash and the controls below the
space are escaped. -/
def escapeChar (c : Char) : List Char :=
  if c = '"' then ['\\', '"']
  else if c = '\\' then ['\\', '\\']
  else if c = '\x08' then ['\\', 'b']
  else if c = '\x0c' then ['\\', 'f']
  else if c = '\n' then ['\\', 'n']
  else if c = '\r' then ['\\', 'r']
  else if c = '\t' then ['\\', 't']
  else if c < ' ' then
    ['\\', 'u', '0', '0', Nat.digitChar (c.toNat / 16), Nat.digitChar (c.toNat % 16)]
  else [c]

/-- A string between its quotes. -/
def writeString (s : String) : List Char := '"' :: s.toList.flatMap escapeChar ++ ['"']

/-! ## Documents -/

/-- The two forms of a written document. -/
inductive Style where
  | compact
  | indented

/-- What stands in front of an item or a closing bracket at the given level. -/
def Style.lineBreak : Style → Nat → List Char
  | .compact, _ => []
  | .indented, level => '\n' :: List.replicate (2 * level) ' '

/-- What stands between a key and its value. -/
def Style.colon : Style → List Char
  | .compact => [':']
  | .indented => [':', ' ']

/-- The entries of an array or object between its brackets. -/
def Style.enclose (style : Style) (level : Nat) (opening closing : Char) :
    List (List Char) → List Char
  | [] => [opening, closing]
  | entry :: entries =>
    let gap := style.lineBreak (level + 1)
    opening :: gap ++ entry ++ entries.flatMap (fun entry => ',' :: gap ++ entry)
      ++ style.lineBreak level ++ [closing]

mutual

/-- The text of a document that lies inside `level` brackets. -/
def writeAt (style : Style) (level : Nat) : Json → List Char
  | .null => ['n', 'u', 'l', 'l']
  | .bool true => ['t', 'r', 'u', 'e']
  | .bool false => ['f', 'a', 'l', 's', 'e']
  | .number n => n.write
  | .string s => writeString s
  | .array items => style.enclose level '[' ']' (writeItems style (level + 1) items)
  | .object fields => style.enclose level '\x7b' '\x7d' (writeFields style (level + 1) fields)

/-- The texts of the items of an array. -/
def writeItems (style : Style) (level : Nat) : List Json → List (List Char)
  | [] => []
  | item :: items => writeAt style level item :: writeItems style level items

/-- The texts of the fields of an object. -/
def writeFields (style : Style) (level : Nat) : List (String × Json) → List (List Char)
  | [] => []
  | (key, value) :: fields =>
    (writeString key ++ style.colon ++ writeAt style level value) :: writeFields style level fields

end

/-- The text of a document. -/
def write (style : Style) (document : Json) : String := String.ofList (writeAt style 0 document)

/-- The compact text of a document. -/
def compact (document : Json) : String := document.write .compact

/-- The indented text of a document. -/
def indented (document : Json) : String := document.write .indented

end Reshape.Json
