import Reshape.Text.Visible

/-!
# Quoted text in messages

A message shows a piece of text between double quotes, in such a way that each character can be
seen: the quote, the backslash and the usual controls by a backslash and a sign, whatever else is
not visible by its code point.
-/

namespace Reshape.Text.Quoted

/-- How one character is written between the quotes. -/
def encodeChar (c : Char) : List Char :=
  if c = '"' then ['\\', '"']
  else if c = '\\' then ['\\', '\\']
  else if c = '\n' then ['\\', 'n']
  else if c = '\r' then ['\\', 'r']
  else if c = '\t' then ['\\', 't']
  else if c = '\x00' then ['\\', '0']
  else if isVisible c then [c]
  else ['\\', 'u', '\x7b'] ++ Nat.toDigits 16 c.toNat ++ ['\x7d']

/-- The text between double quotes. -/
def encode (text : List Char) : List Char :=
  '"' :: text.flatMap encodeChar ++ ['"']

end Reshape.Text.Quoted
