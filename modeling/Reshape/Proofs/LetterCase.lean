import Mathlib
import Reshape.Proofs.Characters
import Reshape.Proofs.Lowercase

/-!
# The case of ASCII letters

Lowercase asks three things of a character: whether it matters for case, whether it is cased, and
what its own lowercase is. None of the three tells an ASCII letter from the same letter in the other
case. So two texts that differ only in the case of ASCII letters have one lowercase
(`lowercase_eq_of_recased`), also where a capital sigma looks at the letters beside it, and the
operators that compare lowercases cannot tell the texts apart.
-/

namespace Reshape

namespace Text

/--
The second text is the first with some of its ASCII letters, at any places, in the other case: no
other character has another `toUpper` or `toLower` than itself.
-/
def Recased (a b : String) : Prop :=
  List.Forall₂ (fun c d => d = c ∨ d = c.toUpper ∨ d = c.toLower) a.toList b.toList

theorem Recased.map_toLower {a b : String} (h : Recased a b) :
    a.toList.map Char.toLower = b.toList.map Char.toLower := by
  unfold Recased at h
  generalize a.toList = as, b.toList = bs at h ⊢
  induction h with
  | nil => rfl
  | cons hcd _ ih =>
    rw [List.map_cons, List.map_cons, ih]
    rcases hcd with rfl | rfl | rfl
    · rfl
    · rw [Char.toLower_toUpper_eq_toLower]
    · rw [Char.toLower_toLower_eq_toLower]

/-! ## One character -/

theorem not_isUpper_of_not_isAlpha {c : Char} (h : ¬c.isAlpha) : ¬c.isUpper := by
  intro hupper
  exact h (Bool.or_eq_true_iff.2 (.inl hupper))

/-- What is alike for all ASCII letters does not depend on the case of a letter. -/
theorem apply_toLower {β : Type} {f : Char → β} {b : β} (h : ∀ c : Char, c.isAlpha → f c = b)
    (c : Char) : f c.toLower = f c := by
  by_cases hc : c.isAlpha
  -- the small letter is a letter as well, and what is no letter is left as it is
  · rw [h c hc, h c.toLower (by rwa [Char.isAlpha_toLower_eq_isAlpha])]
  · rw [Char.toLower_eq_of_not_isUpper (not_isUpper_of_not_isAlpha hc)]

/-- The letters of ASCII come first among the cased characters. -/
theorem cased_changes : cased.changes = 0x41 :: 0x5B :: 0x61 :: 0x7B :: cased.changes.drop 4 := rfl

theorem cased_toLower (c : Char) : cased.contains c.toLower = cased.contains c := by
  refine apply_toLower (b := true) (fun c hc => ?_) c
  rw [CharSet.contains, cased_changes, coversFrom_of_isAlpha hc, Bool.not_false]

/-- The characters of ASCII that do not matter for case are signs. -/
theorem caseIgnorable_changes :
    caseIgnorable.changes = 0x27 :: 0x28 :: 0x2E :: 0x2F :: 0x3A :: 0x3B :: 0x5E :: 0x5F :: 0x60 ::
      0x61 :: 0xA8 :: caseIgnorable.changes.drop 11 := rfl

theorem caseIgnorable_toLower (c : Char) :
    caseIgnorable.contains c.toLower = caseIgnorable.contains c := by
  refine apply_toLower (b := false) (fun c hc => ?_) c
  rw [CharSet.contains, caseIgnorable_changes]
  rcases Bool.or_eq_true_iff.1 hc with hc | hc
  · obtain ⟨hlow, hhigh⟩ := upper_points hc
    simp (disch := omega) only [coversFrom_of_le, coversFrom_of_lt, Bool.not_false, Bool.not_true]
  · obtain ⟨hlow, hhigh⟩ := lower_points hc
    simp (disch := omega) only [coversFrom_of_le, coversFrom_of_lt, Bool.not_false, Bool.not_true]

theorem toLower_eq_sigma_iff {c : Char} : c.toLower = 'Σ' ↔ c = 'Σ' := by
  have hletter (c : Char) (hc : c.isAlpha) : (c = 'Σ') = False := by
    refine eq_false ?_
    rintro rfl
    exact absurd hc (by decide)
  exact iff_of_eq (apply_toLower hletter c)

/-- The lowercase of an ASCII letter is the small letter. -/
theorem lowerChar_of_isAlpha {c : Char} (h : c.isAlpha) : lowerChar c = [c.toLower] := by
  have hne : c ≠ 'İ' := by
    rintro rfl
    exact absurd h (by decide)
  -- the first run is that of the capitals, and the next one begins behind the small letters
  have hruns : caseRuns = ⟨0x41, 0x5A, 1, 32⟩ :: ⟨0xC0, 0xD6, 1, 32⟩ :: caseRuns.drop 2 := rfl
  rw [lowerChar, if_neg hne, hruns, lowerIn]
  rcases Bool.or_eq_true_iff.1 h with hc | hc
  · obtain ⟨hlow, hhigh⟩ := upper_points hc
    have hin : CaseRun.contains ⟨0x41, 0x5A, 1, 32⟩ c.toNat := by
      simp only [CaseRun.contains, Nat.mod_one, beq_self_eq_true, Bool.and_true, Bool.and_eq_true,
        decide_eq_true_eq]
      omega
    rw [if_neg (Nat.not_lt.2 hlow), if_pos hin, Char.toLower_eq_of_isUpper hc]
    rfl
  · obtain ⟨hlow, hhigh⟩ := lower_points hc
    have hout : ¬CaseRun.contains ⟨0x41, 0x5A, 1, 32⟩ c.toNat := by
      simp only [CaseRun.contains, Bool.and_eq_true, decide_eq_true_eq]
      omega
    have hsame : c.toLower = c := Char.toLower_eq_of_not_isUpper (Char.not_isUpper_of_isLower hc)
    rw [if_neg (by dsimp only; omega), if_neg hout, lowerIn, if_pos (by dsimp only; omega), hsame,
      Char.ofNat_toNat]

theorem lowerChar_toLower (c : Char) : lowerChar c.toLower = lowerChar c := by
  by_cases hc : c.isAlpha
  · have hlower : c.toLower.isAlpha := by rwa [Char.isAlpha_toLower_eq_isAlpha]
    rw [lowerChar_of_isAlpha hc, lowerChar_of_isAlpha hlower, Char.toLower_toLower_eq_toLower]
  · rw [Char.toLower_eq_of_not_isUpper (not_isUpper_of_not_isAlpha hc)]

/-! ## Whole texts -/

theorem startsCased_map_toLower (text : List Char) :
    startsCased (text.map Char.toLower) = startsCased text := by
  have hignorable : caseIgnorable.contains ∘ Char.toLower = caseIgnorable.contains :=
    funext caseIgnorable_toLower
  rw [startsCased, startsCased, List.dropWhile_map, hignorable]
  cases text.dropWhile caseIgnorable.contains with
  | nil => rfl
  | cons c rest => exact cased_toLower c

/-- The lowercase of a text, after any other, is that of the text in small ASCII letters. -/
theorem lowerAfter_map_toLower (before text : List Char) :
    lowerAfter (before.map Char.toLower) (text.map Char.toLower) = lowerAfter before text := by
  induction text generalizing before with
  | nil => rfl
  | cons c rest ih =>
    -- the characters before the current one are small as well, so the induction is on any of them
    rw [List.map_cons, lowerAfter, lowerAfter, ← List.map_cons, ih]
    simp only [toLower_eq_sigma_iff, startsCased_map_toLower, lowerChar_toLower]

theorem lowercase_eq_of_recased {a b : String} (h : Recased a b) : lowercase a = lowercase b := by
  rw [lowercase, lowercase, ← lowerAfter_map_toLower [] a.toList, h.map_toLower,
    lowerAfter_map_toLower [] b.toList]

end Text

open Text

/--
**The operators that ignore case do not see the case of ASCII letters**, whatever other characters
stand around the letters, on either side.
-/
theorem comparison_ignores_case {left left' right right' : String} (hleft : Recased left left')
    (hright : Recased right right') :
    ∀ op ∈ [Comparator.equal, .notEqual, .includes, .excludes],
      op.test (.text left) (.text right) = op.test (.text left') (.text right') := by
  have hl := lowercase_eq_of_recased hleft
  have hr := lowercase_eq_of_recased hright
  have htest (op : Comparator) (a b : String) :
      op.test (.text a) (.text b) = op.testTexts a b := rfl
  intro op hop
  simp only [List.mem_cons, List.not_mem_nil, or_false] at hop
  rw [htest, htest]
  rcases hop with rfl | rfl | rfl | rfl <;>
    rw [Comparator.testTexts, Comparator.testTexts, hl, hr]

/--
A sigma between letters, at the end of a word, and in a word before an apostrophe. In either case
the one text includes the other, and the two are not equal.
-/
theorem comparison_ignores_case_sigmas :
    Recased "oΣa ΣoΣ K\u0307Σ'b" "OΣA ΣOΣ k\u0307Σ'B" ∧ Recased "ΣoΣ k" "ΣOΣ K"
    ∧ Comparator.includes.test (.text "oΣa ΣoΣ K\u0307Σ'b") (.text "ΣoΣ k") = true
    ∧ Comparator.includes.test (.text "OΣA ΣOΣ k\u0307Σ'B") (.text "ΣOΣ K") = true
    ∧ Comparator.equal.test (.text "oΣa ΣoΣ K\u0307Σ'b") (.text "ΣoΣ k") = false
    ∧ Comparator.equal.test (.text "OΣA ΣOΣ k\u0307Σ'B") (.text "ΣOΣ K") = false := by
  have hleft : Recased "oΣa ΣoΣ K\u0307Σ'b" "OΣA ΣOΣ k\u0307Σ'B" := by
    unfold Recased
    decide
  have hright : Recased "ΣoΣ k" "ΣOΣ K" := by
    unfold Recased
    decide
  have hincludes : Comparator.includes.test (.text "oΣa ΣoΣ K\u0307Σ'b") (.text "ΣoΣ k")
      = true := by
    rw [Comparator.test_includes_iff]
    decide +kernel
  have hequal : Comparator.equal.test (.text "oΣa ΣoΣ K\u0307Σ'b") (.text "ΣoΣ k") = false := by
    decide +kernel
  have hsame := comparison_ignores_case hleft hright
  exact ⟨hleft, hright, hincludes, (hsame .includes (by decide)).symm.trans hincludes, hequal,
    (hsame .equal (by decide)).symm.trans hequal⟩

end Reshape
