import Reshape.Syntax.Spelling
import Reshape.Text.Blank

/-!
# Classes of characters

How the classes of characters that the grammar asks for lie to each other: blanks are never part of
a name, digits never start one, and a word in either case is made of characters of names.
-/

namespace Reshape

open Reshape.Parser Reshape.Text

/-- What is said of some characters is decided for these, not for all characters there are. -/
instance decidableForallMem {cs : List Char} {description : Char → Prop}
    [DecidablePred description] : Decidable (∀ c ∈ cs, description c) :=
  List.decidableBAll description cs

/-! ## Sets of characters -/

namespace Text

theorem coversFrom_of_lt {inside : Bool} {c n : Nat} {changes : List Nat} (h : n < c) :
    CharSet.coversFrom inside (c :: changes) n = inside := by
  rw [CharSet.coversFrom, if_pos h]

/-- From the first change on, what is inside is outside and the other way round. -/
theorem coversFrom_of_le {inside : Bool} {c n : Nat} {changes : List Nat} (h : c ≤ n) :
    CharSet.coversFrom inside (c :: changes) n = CharSet.coversFrom (!inside) changes n := by
  rw [CharSet.coversFrom, if_neg (Nat.not_lt.2 h)]

/-- The letters of ASCII come first among all letters. -/
theorem alphabetic_changes :
    alphabetic.changes = 0x41 :: 0x5B :: 0x61 :: 0x7B :: alphabetic.changes.drop 4 := rfl

/-- The digits of ASCII come first among all numerals. -/
theorem numeric_changes :
    numeric.changes = 0x30 :: 0x3A :: numeric.changes.drop 2 := rfl

theorem upper_points {c : Char} (h : c.isUpper) : 0x41 ≤ c.toNat ∧ c.toNat < 0x5B := by
  unfold Char.isUpper at h
  rw [decide_eq_true_eq] at h
  exact ⟨UInt32.le_iff_toNat_le.1 h.1, Nat.lt_succ_of_le (UInt32.le_iff_toNat_le.1 h.2)⟩

theorem lower_points {c : Char} (h : c.isLower) : 0x61 ≤ c.toNat ∧ c.toNat < 0x7B := by
  unfold Char.isLower at h
  simp only [Bool.and_eq_true, decide_eq_true_eq] at h
  exact ⟨UInt32.le_iff_toNat_le.1 h.1, Nat.lt_succ_of_le (UInt32.le_iff_toNat_le.1 h.2)⟩

/-- The letters of ASCII are in a set whose first ranges are these letters. -/
theorem coversFrom_of_isAlpha {c : Char} (h : c.isAlpha) (inside : Bool) (changes : List Nat) :
    CharSet.coversFrom inside (0x41 :: 0x5B :: 0x61 :: 0x7B :: changes) c.toNat = !inside := by
  -- capitals end the first range, small letters lie in the second one
  rcases Bool.or_eq_true_iff.1 h with h | h
  · obtain ⟨hlow, hhigh⟩ := upper_points h
    rw [coversFrom_of_le hlow, coversFrom_of_lt hhigh]
  · obtain ⟨hlow, hhigh⟩ := lower_points h
    rw [coversFrom_of_le (by omega), coversFrom_of_le (by omega), coversFrom_of_le hlow,
      coversFrom_of_lt hhigh, Bool.not_not]

theorem isAlphabetic_of_isAlpha {c : Char} (h : c.isAlpha) : isAlphabetic c := by
  rw [isAlphabetic, CharSet.contains, alphabetic_changes, coversFrom_of_isAlpha h, Bool.not_false]

theorem digit_points {c : Char} (h : c.isDigit) : 0x30 ≤ c.toNat ∧ c.toNat < 0x3A := by
  simp only [Char.isDigit, Bool.and_eq_true, decide_eq_true_eq] at h
  exact ⟨UInt32.le_iff_toNat_le.1 h.1, Nat.lt_succ_of_le (UInt32.le_iff_toNat_le.1 h.2)⟩

theorem isNumeric_of_isDigit {c : Char} (h : c.isDigit) : isNumeric c := by
  rw [isNumeric, CharSet.contains, numeric_changes, coversFrom_of_le (digit_points h).1,
    coversFrom_of_lt (digit_points h).2]
  rfl

theorem not_isAlphabetic_of_isDigit {c : Char} (h : c.isDigit) : isAlphabetic c = false := by
  rw [isAlphabetic, CharSet.contains, alphabetic_changes, coversFrom_of_lt]
  have hhigh := (digit_points h).2
  omega

/-- The code points of the blanks. -/
def blankPoints : List Nat :=
  [0x9, 0xA, 0xB, 0xC, 0xD, 0x20, 0x85, 0xA0, 0x1680, 0x2000, 0x2001, 0x2002, 0x2003, 0x2004,
   0x2005, 0x2006, 0x2007, 0x2008, 0x2009, 0x200A, 0x2028, 0x2029, 0x202F, 0x205F, 0x3000]

/-- There are no other blanks than these. -/
theorem mem_blankPoints {c : Char} (h : isBlank c) : c.toNat ∈ blankPoints := by
  simp only [isBlank, CharSet.contains, whiteSpace, CharSet.coversFrom, Bool.not_false,
    Bool.not_true, Bool.if_false_right, Bool.and_true, Bool.if_false_left, Bool.if_true_left,
    Bool.and_eq_true, Bool.not_eq_eq_eq_not, decide_eq_false_iff_not, Nat.not_lt, Bool.or_eq_true,
    decide_eq_true_eq] at h
  simp only [blankPoints, List.mem_cons, List.not_mem_nil, or_false]
  omega

/-- No blank is a letter or a numeral, nor one of the signs that may stand in a name. -/
theorem blankPoints_apart :
    ∀ n ∈ blankPoints, CharSet.coversFrom false alphabetic.changes n = false ∧
      CharSet.coversFrom false numeric.changes n = false ∧ n ≠ '_'.toNat ∧ n ≠ '$'.toNat := by
  decide +kernel

/-! ## Words -/

/-- Words are compared letter by letter, in lower case. -/
theorem sameWord_iff {as bs : List Char} :
    sameWord as bs ↔ as.map Char.toLower = bs.map Char.toLower := by
  induction as generalizing bs with
  | nil => cases bs <;> simp [sameWord]
  | cons a as ih => cases bs <;> simp [sameWord, sameLetter, ih]

/-- A character whose lower case is a letter is one. -/
theorem isAlpha_of_toLower {c : Char} (h : c.toLower.isAlpha) : c.isAlpha := by
  by_cases hupper : c.isUpper
  · unfold Char.isAlpha
    rw [hupper, Bool.true_or]
  · -- only capitals change
    have hsame : c.toLower = c := by
      unfold Char.isUpper at hupper
      unfold Char.toLower
      rw [dif_neg (by simpa only [decide_eq_true_eq] using hupper)]
    rwa [hsame] at h

/-- However a word is written, it is written in letters. -/
theorem isAlpha_of_sameWord {word t : List Char} (hword : ∀ a ∈ word, a.toLower.isAlpha)
    (h : sameWord word t) : ∀ c ∈ t, c.isAlpha := by
  intro c hc
  have hlower : c.toLower ∈ word.map Char.toLower := by
    rw [sameWord_iff.1 h]
    exact List.mem_map_of_mem hc
  obtain ⟨a, ha, hac⟩ := List.mem_map.1 hlower
  exact isAlpha_of_toLower (hac ▸ hword a ha)

end Text

/-! ## Characters of names -/

theorem isNameChar_of_isNameStart {c : Char} (h : isNameStart c) : isNameChar c := by
  simp only [isNameStart, isNameChar, Bool.or_eq_true] at h ⊢
  rcases h with (h | h) | h
  · exact .inl (.inl (.inl h))
  · exact .inl (.inr h)
  · exact .inr h

theorem isNameStart_of_isAlpha {c : Char} (h : c.isAlpha) : isNameStart c := by
  simp [isNameStart, isAlphabetic_of_isAlpha h]

theorem isNameChar_of_isAlpha {c : Char} (h : c.isAlpha) : isNameChar c :=
  isNameChar_of_isNameStart (isNameStart_of_isAlpha h)

theorem isNameChar_of_isDigit {c : Char} (h : c.isDigit) : isNameChar c := by
  simp [isNameChar, isNumeric_of_isDigit h]

theorem not_isNameStart_of_isDigit {c : Char} (h : c.isDigit) : isNameStart c = false := by
  cases hstart : isNameStart c with
  | false => rfl
  | true =>
    simp only [isNameStart, not_isAlphabetic_of_isDigit h, Bool.false_or, Bool.or_eq_true,
      beq_iff_eq] at hstart
    -- neither sign of a name is a digit
    rcases hstart with rfl | rfl <;> exact absurd h (by decide)

theorem not_isNameChar_of_isBlank {c : Char} (h : isBlank c) : isNameChar c = false := by
  obtain ⟨halphabetic, hnumeric, hunderscore, hdollar⟩ :=
    blankPoints_apart c.toNat (mem_blankPoints h)
  have hne (sign : Char) (hsign : c.toNat ≠ sign.toNat) : c ≠ sign := by
    rintro rfl
    exact hsign rfl
  simp [isNameChar, isAlphabetic, isNumeric, CharSet.contains, halphabetic, hnumeric,
    hne _ hunderscore, hne _ hdollar]

theorem not_isBlank_of_isNameChar {c : Char} (h : isNameChar c) : ¬isBlank c := by
  intro hblank
  rw [not_isNameChar_of_isBlank hblank] at h
  exact absurd h Bool.false_ne_true

/-! ## Spaces -/

theorem isSpace_iff {c : Char} :
    isSpace c ↔ c = ' ' ∨ c = '\t' ∨ c = '\r' ∨ c = '\n' := by
  simp [isSpace, or_assoc]

theorem isBlank_of_isSpace {c : Char} (h : isSpace c) : isBlank c := by
  rcases isSpace_iff.1 h with rfl | rfl | rfl | rfl <;> rfl

theorem not_isNameChar_of_isSpace {c : Char} (h : isSpace c) : isNameChar c = false :=
  not_isNameChar_of_isBlank (isBlank_of_isSpace h)

theorem not_isSpace_of_isDigit {c : Char} (h : c.isDigit) : ¬isSpace c := by
  intro hspace
  rcases isSpace_iff.1 hspace with rfl | rfl | rfl | rfl <;> exact absurd h (by decide)

end Reshape
