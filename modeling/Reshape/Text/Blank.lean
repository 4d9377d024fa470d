import Reshape.Text.CharSet

/-!
# Blanks

The characters with the property White_Space, and the text that is left when they are taken off
its two ends.
-/

namespace Reshape.Text

/-- The characters with the property White_Space. -/
def whiteSpace : CharSet where
  changes :=
    [0x0009, 0x000E, 0x0020, 0x0021, 0x0085, 0x0086, 0x00A0, 0x00A1, 0x1680, 0x1681, 0x2000, 0x200B,
     0x2028, 0x202A, 0x202F, 0x2030, 0x205F, 0x2060, 0x3000, 0x3001]

/-- A blank of any script: spaces, line ends, and the separators. -/
def isBlank (c : Char) : Bool := whiteSpace.contains c

/-- The blanks of ASCII texts are blanks. -/
theorem isBlank_of_isWhitespace {c : Char} (h : c.isWhitespace = true) : isBlank c = true := by
  simp only [Char.isWhitespace, Bool.or_eq_true, decide_eq_true_eq] at h
  rcases h with ((rfl | rfl) | rfl) | rfl <;> rfl

/-- The text without the blanks at its start. -/
def trimStart (text : List Char) : List Char := text.dropWhile isBlank

/-- The text without the blanks at its end. -/
def trimEnd (text : List Char) : List Char := (text.reverse.dropWhile isBlank).reverse

/-- The text without the blanks at its two ends. -/
def trim (text : List Char) : List Char := trimEnd (trimStart text)

end Reshape.Text
