import Reshape.Decimal.Scaled
import Reshape.Json.Fields
import Reshape.Numeral

/-!
# Reading documents

The JSON grammar, with the choices that it leaves open: integers of 64 bits are exact and all other
numbers are doubles, of several fields with one key the last counts, strings hold characters (so the
two halves of a pair of surrogates must stand together), and there is a limit to the depth.
-/

namespace Reshape.Json

open Reshape.Parser

/-! ## Numbers -/

/-- Digits without a zero in front of others. -/
def wholeDigits : Parser (List Char) :=
  (do return [← char '0']) <|> digits

/-- The number of a document with these parts. Minus zero is a double, as no integer is it. -/
def numberOf? (n : Numeral) : Option Number :=
  if n.isInteger && Number.exactRange n.integer && !(n.negative && n.integer == 0) then
    some (.int n.integer)
  else
    (Decimal.scaleParts? n.whole (n.fraction.getD []) (n.exponent.getD 0)).map fun x =>
      .double (n.withSign x)

/-- A number. -/
def numberParser : Parser Number := converting (Numeral.parser wholeDigits) numberOf?

/-! ## Strings -/

/-- The value of a hexadecimal digit. -/
def hexValue? (c : Char) : Option Nat :=
  if c.isDigit then some (c.toNat - '0'.toNat)
  else if 'a' ≤ c && c ≤ 'f' then some (c.toNat - 'a'.toNat + 10)
  else if 'A' ≤ c && c ≤ 'F' then some (c.toNat - 'A'.toNat + 10)
  else none

/-- One hexadecimal digit. -/
def hexDigit : Parser Nat := converting (satisfy .charClass fun _ => true) hexValue?

/-- A number of four hexadecimal digits. -/
def fourHexDigits : Parser Nat := do
  let a ← hexDigit
  let b ← hexDigit
  let c ← hexDigit
  let d ← hexDigit
  return ((a * 16 + b) * 16 + c) * 16 + d

/-- The character after `\u`: one unit, or the two halves of a pair of surrogates. -/
def unicodeEscape : Parser Char := do
  let unit ← fourHexDigits
  if 0xD800 ≤ unit && unit < 0xDC00 then
    let low ← char '\\' *> char 'u' *> fourHexDigits
    if 0xDC00 ≤ low && low < 0xE000 then
      return Char.ofNat (0x10000 + (unit - 0xD800) * 0x400 + (low - 0xDC00))
    else fail .value
  else if 0xDC00 ≤ unit && unit < 0xE000 then fail .value
  else return Char.ofNat unit

/-- The character that a backslash and `c` stand for. -/
def shortEscape? : Char → Option Char
  | '"' => some '"'
  | '\\' => some '\\'
  | '/' => some '/'
  | 'b' => some '\x08'
  | 'f' => some '\x0c'
  | 'n' => some '\n'
  | 'r' => some '\r'
  | 't' => some '\t'
  | _ => none

/-- One character of a string. -/
def stringChar : Parser Char :=
  satisfy .charClass (fun c => ' ' ≤ c && c != '"' && c != '\\')
    <|> (char '\\' *> (converting (satisfy .charClass fun _ => true) shortEscape?
      <|> (char 'u' *> unicodeEscape)))

/-- A string between its quotes. -/
def stringParser : Parser String := do
  let _ ← char '"'
  let cs ← many stringChar
  let _ ← char '"'
  return String.ofList cs

/-! ## Documents -/

/-- A value without parts. -/
def scalarParser : Parser Json :=
  (do sign "null"; return .null)
    <|> (do sign "true"; return .bool true)
    <|> (do sign "false"; return .bool false)
    <|> (.string <$> stringParser)
    <|> (.number <$> numberParser)

/-- Entries between brackets, separated by commas. -/
def enclosed {α : Type} (opening closing : Char) (entry : Parser α) : Parser (List α) := do
  let _ ← char opening
  (do spaces; let _ ← char closing; return [])
    <|> (do
      let entries ← sepBy1 (spaced entry) (char ',')
      let _ ← char closing
      return entries)

/-- One field of an object. -/
def fieldParser (value : Parser Json) : Parser (String × Json) := do
  let key ← stringParser
  let _ ← spaced (char ':')
  return (key, ← value)

/-- The fields, inserted in turn, so that a later one replaces an earlier one with its key. -/
def ofEntries (entries : List (String × Json)) : Json :=
  .object (entries.foldl (fun fields (key, value) => Fields.insert fields key value) [])

/-- A value with at most `depth` arrays and objects around any of its parts. -/
def valueParser : Nat → Parser Json
  | 0 => scalarParser
  | depth + 1 =>
    (.array <$> enclosed '[' ']' (valueParser depth))
      <|> (ofEntries <$> enclosed '\x7b' '\x7d' (fieldParser (valueParser depth)))
      <|> scalarParser

/-- Reads a document of at most the given depth. -/
def readWithin? (depth : Nat) (text : String) : Option Json :=
  (runAll (spaced (valueParser depth)) text.toList).toOption

/-- The depth that documents may have. -/
def depthLimit : Nat := 127

/-- Reads a document. -/
def read? (text : String) : Option Json := readWithin? depthLimit text

end Reshape.Json
