import Reshape.Operand.Comparison

/-!
# The lowercase of a part of a text

Lowercase goes from character to character, and looks at what stands around a character only if
this is a capital sigma. So the lowercase of a text contains the lowercase of each part of it, as
long as the capital sigmas of the part end a word in the part just where they do in the whole text
(`lowerBetween_eq_iff`). A part that begins or ends inside a word may not be found again: `ΑΣ`
becomes `ας`, and `Σ` alone becomes `σ`.
-/

namespace Reshape

namespace Text

/-- Whether a sigma between the two texts, the first of them nearest first, ends a word. -/
def endsWord (before after : List Char) : Bool := startsCased before && !startsCased after

/-- Lowercase of a text between two others, the first of them nearest first. -/
def lowerBetween (before after : List Char) : List Char → List Char
  | [] => []
  | c :: rest =>
    (if c = 'Σ' then [if endsWord before (rest ++ after) then 'ς' else 'σ'] else lowerChar c)
      ++ lowerBetween (c :: before) after rest

/-- Each capital sigma of the text ends a word between the two others just if it does alone. -/
def SigmasAlike (left right text : List Char) : Prop :=
  ∀ before after, text = before ++ 'Σ' :: after →
    endsWord (before.reverse ++ left.reverse) (after ++ right) = endsWord before.reverse after

/-- The lowercase of a text is put together from those of its parts, each in its place. -/
theorem lowerAfter_append (before text after : List Char) :
    lowerAfter before (text ++ after)
      = lowerBetween before after text ++ lowerAfter (text.reverse ++ before) after := by
  induction text generalizing before with
  | nil => rfl
  | cons c rest ih =>
    rw [List.cons_append, lowerAfter, ih, lowerBetween, List.append_assoc, List.reverse_cons,
      List.append_assoc]
    rfl

theorem lowerAfter_eq_lowerBetween (before text : List Char) :
    lowerAfter before text = lowerBetween before [] text := by
  have happend := lowerAfter_append before text []
  rwa [List.append_nil, lowerAfter, List.append_nil] at happend

/--
A text has the same lowercase between two others as without them just if each capital sigma in it
ends a word in both cases or in none.
-/
theorem lowerBetween_eq_iff (before left right text : List Char) :
    lowerBetween (before ++ left) right text = lowerBetween before [] text ↔
      ∀ p s, text = p ++ 'Σ' :: s →
        endsWord (p.reverse ++ (before ++ left)) (s ++ right)
          = endsWord (p.reverse ++ before) s := by
  induction text generalizing before with
  | nil => simp [lowerBetween]
  | cons c rest ih =>
    have hmore := ih (c :: before)
    -- the texts for the first character are equally long, so they are compared apart from the rest
    have hsigma (a b : Bool) :
        [if a then 'ς' else 'σ'] = [if b then 'ς' else 'σ'] ↔ a = b := by
      cases a <;> cases b <;> decide
    rw [lowerBetween, lowerBetween, List.append_nil]
    constructor
    · intro h p s hsplit
      obtain ⟨hfirst, hrest⟩ := List.append_inj h (by split <;> rfl)
      rcases List.cons_eq_append_iff.1 hsplit with ⟨rfl, hc⟩ | ⟨p, rfl, hp⟩
      · obtain ⟨rfl, rfl⟩ := List.cons.inj hc
        rw [if_pos rfl, if_pos rfl] at hfirst
        exact (hsigma _ _).1 hfirst
      · simpa using hmore.1 hrest p s hp
    · intro h
      rw [← List.cons_append, hmore.2 fun p s hp => by simpa using h (c :: p) s (by rw [hp]; rfl)]
      congr 1
      split
      · next hc => exact (hsigma _ _).2 (h [] rest (by rw [hc]; rfl))
      · rfl

theorem sigmasAlike_iff {left right text : List Char} :
    SigmasAlike left right text ↔
      lowerBetween left.reverse right text = lowerBetween [] [] text := by
  have hiff := lowerBetween_eq_iff [] left.reverse right text
  simp only [List.nil_append, List.append_nil] at hiff
  exact hiff.symm

instance decidableSigmasAlike (left right text : List Char) :
    Decidable (SigmasAlike left right text) :=
  decidable_of_iff _ sigmasAlike_iff.symm

theorem sigmasAlike_of_not_mem {text : List Char} (h : 'Σ' ∉ text) (left right : List Char) :
    SigmasAlike left right text := by
  rintro before after rfl
  exact absurd (List.mem_append_right before List.mem_cons_self) h

/-- The lowercase of a part whose capital sigmas are alike is a part of the lowercase. -/
theorem contains_lowercase {text part : String} {left right : List Char}
    (htext : text.toList = left ++ part.toList ++ right)
    (halike : SigmasAlike left right part.toList) :
    (lowercase part).toList <:+: (lowercase text).toList := by
  rw [lowercase, lowercase, String.toList_ofList, String.toList_ofList, htext, List.append_assoc,
    lowerAfter_append, lowerAfter_append, List.append_nil, sigmasAlike_iff.1 halike,
    lowerAfter_eq_lowerBetween [], ← List.append_assoc]
  exact List.infix_append _ _ _

end Text

open Text

namespace Comparator

theorem test_includes_iff (left right : String) :
    includes.test (.text left) (.text right)
      ↔ (lowercase right).toList <:+: (lowercase left).toList :=
  String.contains_string_iff

theorem test_excludes (left right : String) :
    excludes.test (.text left) (.text right) = !includes.test (.text left) (.text right) := rfl

end Comparator

/--
**A text includes each part of itself in which the capital sigmas are alike**: those that end a word
in the text, and no others, are the ones that end a word in the part on its own.
-/
theorem includes_part {text part : String} {left right : List Char}
    (htext : text.toList = left ++ part.toList ++ right)
    (halike : SigmasAlike left right part.toList) :
    Comparator.includes.test (.text text) (.text part) = true
      ∧ Comparator.excludes.test (.text text) (.text part) = false := by
  have hincludes : Comparator.includes.test (.text text) (.text part) = true :=
    (Comparator.test_includes_iff text part).2 (contains_lowercase htext halike)
  exact ⟨hincludes, by rw [Comparator.test_excludes, hincludes]; rfl⟩

/-- A whole word with a sigma at each end of it, and a part that has none. -/
theorem includes_part_words :
    (Comparator.includes.test (.text "ΑΣ ΣΑΣ") (.text "ΣΑΣ") = true
      ∧ Comparator.excludes.test (.text "ΑΣ ΣΑΣ") (.text "ΣΑΣ") = false)
    ∧ Comparator.includes.test (.text "İΑΣ") (.text "İΑ") = true
      ∧ Comparator.excludes.test (.text "İΑΣ") (.text "İΑ") = false := by
  have hwhole : SigmasAlike "ΑΣ ".toList [] "ΣΑΣ".toList := by decide +kernel
  have hnone : 'Σ' ∉ "İΑ".toList := by decide
  exact ⟨includes_part (by decide) hwhole,
    includes_part (by decide) (sigmasAlike_of_not_mem hnone [] "Σ".toList)⟩

/-- The sigma ends a word in the one text, and does not in the other. -/
theorem final_sigma_excluded :
    "Σ".toList <:+: "ΑΣ".toList
    ∧ Comparator.includes.test (.text "ΑΣ") (.text "Σ") = false
    ∧ Comparator.excludes.test (.text "ΑΣ") (.text "Σ") = true := by
  have hnot : Comparator.includes.test (.text "ΑΣ") (.text "Σ") = false := by
    rw [← Bool.not_eq_true, Comparator.test_includes_iff]
    decide +kernel
  exact ⟨by decide, hnot, by rw [Comparator.test_excludes, hnot]; rfl⟩

end Reshape
