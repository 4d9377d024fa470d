import Reshape.Proofs.Characters

/-!
# Where texts begin and end

A text that a tree is written as begins and ends with a character that says what it is. So gaps
before it are skipped and nothing of it, and whether what comes after it could be read as a part of
it is decided by two characters: its last one, and the first one of what comes after.
-/

namespace Reshape

open Reshape.Parser

/-! ## First and last characters -/

/-- The text has a first character, and this is as described. -/
def StartsWith (description : Char → Prop) (t : List Char) : Prop := ∃ c ∈ t.head?, description c

/-- The text has a last character, and this is as described. -/
def EndsWith (description : Char → Prop) (t : List Char) : Prop :=
  ∃ c ∈ t.getLast?, description c

section

variable {description weaker : Char → Prop} {t : List Char}

theorem startsWith_cons {c : Char} (h : description c) (t : List Char) :
    StartsWith description (c :: t) :=
  ⟨c, rfl, h⟩

/-- Only the front of a text counts for its first character. -/
theorem StartsWith.append (h : StartsWith description t) (rest : List Char) :
    StartsWith description (t ++ rest) := by
  obtain ⟨c, hc, hdescription⟩ := h
  refine ⟨c, ?_, hdescription⟩
  rw [List.head?_append, Option.mem_def.1 hc]
  rfl

theorem StartsWith.mono (h : StartsWith description t) (hweaker : ∀ c, description c → weaker c) :
    StartsWith weaker t := by
  obtain ⟨c, hc, hdescription⟩ := h
  exact ⟨c, hc, hweaker c hdescription⟩

/-- The first character is the only one there is to describe. -/
theorem StartsWith.head (h : StartsWith description t) : ∀ c ∈ t.head?, description c := by
  obtain ⟨c, hc, hdescription⟩ := h
  intro c' hc'
  rwa [Option.mem_unique hc' hc]

theorem StartsWith.ne_nil (h : StartsWith description t) : t ≠ [] := by
  rintro rfl
  obtain ⟨c, hc, -⟩ := h
  exact absurd hc (by simp)

/-- If all characters are as described, the first one is. -/
theorem startsWith_of_forall (hne : t ≠ []) (h : ∀ c ∈ t, description c) :
    StartsWith description t := by
  obtain ⟨c, t, rfl⟩ := List.exists_cons_of_ne_nil hne
  exact startsWith_cons (h c List.mem_cons_self) t

/-- Only the back of a text counts for its last character. -/
theorem EndsWith.append_left (h : EndsWith description t) (l : List Char) :
    EndsWith description (l ++ t) := by
  obtain ⟨c, hc, hdescription⟩ := h
  refine ⟨c, ?_, hdescription⟩
  rw [List.getLast?_append, Option.mem_def.1 hc]
  rfl

/-- The last character lies in the second part, unless this is empty. -/
theorem EndsWith.of_append {l : List Char} (h : EndsWith description (l ++ t)) (hne : t ≠ []) :
    EndsWith description t := by
  obtain ⟨c, hc, hdescription⟩ := h
  refine ⟨c, ?_, hdescription⟩
  rw [List.getLast?_append, List.getLast?_eq_some_getLast hne] at hc
  rwa [List.getLast?_eq_some_getLast hne]

theorem EndsWith.mono (h : EndsWith description t) (hweaker : ∀ c, description c → weaker c) :
    EndsWith weaker t := by
  obtain ⟨c, hc, hdescription⟩ := h
  exact ⟨c, hc, hweaker c hdescription⟩

theorem endsWith_of_forall (hne : t ≠ []) (h : ∀ c ∈ t, description c) :
    EndsWith description t :=
  ⟨_, List.getLast?_eq_some_getLast hne, h _ (List.getLast_mem hne)⟩

end

/-! ## Runs of characters -/

/-- The run takes in the whole text and ends with it. -/
theorem takeWhile_run {test : Char → Bool} {t rest : List Char} (ht : ∀ c ∈ t, test c)
    (hrest : ∀ c ∈ rest.head?, ¬test c) : (t ++ rest).takeWhile test = t := by
  rw [List.takeWhile_append_of_pos ht]
  cases rest with
  | nil => simp
  | cons c rest => simp [hrest c rfl]

/-- What is left begins where the run ends. -/
theorem dropWhile_run {test : Char → Bool} {t rest : List Char} (ht : ∀ c ∈ t, test c)
    (hrest : ∀ c ∈ rest.head?, ¬test c) : (t ++ rest).dropWhile test = rest := by
  rw [List.dropWhile_append_of_pos ht]
  cases rest with
  | nil => rfl
  | cons c rest => simp [hrest c rfl]

/-- Where a run ends in front of the second text, nothing is taken off it. -/
theorem dropWhile_append_of_head {test : Char → Bool} {t : List Char}
    (h : ∀ c ∈ t.head?, ¬test c) (s : List Char) :
    (s ++ t).dropWhile test = s.dropWhile test ++ t := by
  have hstop : t.dropWhile test = t := dropWhile_run (t := []) (by simp) h
  rw [List.dropWhile_append]
  -- the run takes in all of `s`, or it ends inside `s`
  split
  · next hempty => rw [hstop, List.isEmpty_iff.1 hempty, List.nil_append]
  · rfl

/-- What is left of a text does not begin with what was dropped. -/
theorem head_dropWhile (test : Char → Bool) (t : List Char) :
    ∀ c ∈ (t.dropWhile test).head?, ¬test c := by
  induction t with
  | nil => simp
  | cons c t ih =>
    by_cases hc : test c
    · rwa [List.dropWhile_cons_of_pos hc]
    · rw [List.dropWhile_cons_of_neg hc]
      simpa using hc

/-! ## Gaps -/

/-- The text begins with something else than a space. -/
abbrev Begins (t : List Char) : Prop := StartsWith (fun c => ¬isSpace c) t

theorem isGap_nil : IsGap [] := by simp [IsGap]

theorem isGap_space : IsGap [' '] := by simp [IsGap, isSpace]

theorem IsGap.append {gap more : List Char} (h : IsGap gap) (hmore : IsGap more) :
    IsGap (gap ++ more) := by
  intro c hc
  rcases List.mem_append.1 hc with hc | hc
  · exact h c hc
  · exact hmore c hc

theorem skipSpaces_eq_self {t : List Char} (h : ∀ c ∈ t.head?, ¬isSpace c) : skipSpaces t = t :=
  dropWhile_run (t := []) (by simp) h

theorem skipSpaces_of_begins {t : List Char} (h : Begins t) : skipSpaces t = t :=
  skipSpaces_eq_self h.head

/-- A gap in front of a text is skipped, and nothing else. -/
theorem skipSpaces_gap {gap t : List Char} (hgap : IsGap gap) (h : Begins t) :
    skipSpaces (gap ++ t) = t :=
  dropWhile_run hgap h.head

theorem skipSpaces_of_gap {gap : List Char} (hgap : IsGap gap) : skipSpaces gap = [] := by
  have hrun : (gap ++ []).dropWhile isSpace = [] := dropWhile_run hgap (by simp)
  rwa [List.append_nil] at hrun

/-- Spaces in the first text are skipped, and the second one has none to skip. -/
theorem skipSpaces_append {t : List Char} (h : Begins t) (s : List Char) :
    skipSpaces (s ++ t) = skipSpaces s ++ t :=
  dropWhile_append_of_head h.head s

theorem head_skipSpaces (t : List Char) : ∀ c ∈ (skipSpaces t).head?, ¬isSpace c :=
  head_dropWhile isSpace t

theorem skipSpaces_skipSpaces (t : List Char) : skipSpaces (skipSpaces t) = skipSpaces t :=
  skipSpaces_eq_self (head_skipSpaces t)

/-- A text begins with a space, or with what comes after the spaces. -/
theorem isSpace_or_head {t : List Char} {c : Char} (h : c ∈ t.head?) :
    isSpace c ∨ c ∈ (skipSpaces t).head? := by
  by_cases hc : isSpace c
  · exact .inl hc
  · -- the text begins with `c`, which is no space, so there is nothing to skip
    rw [skipSpaces_eq_self]
    · exact .inr h
    · intro c' hc'
      rwa [Option.mem_unique hc' h]

/-! ## Texts side by side -/

/-- After a text that ends like a name, nothing goes on like one. -/
theorem KeptApart.head {t rest : List Char} (h : KeptApart t rest)
    (ht : EndsWith (fun c => isNameChar c) t) : ∀ c ∈ rest.head?, ¬isNameChar c := by
  obtain ⟨a, ha, hname⟩ := ht
  exact fun c hc => h a ha c hc hname

theorem KeptApart.of_append {l r rest : List Char} (h : KeptApart (l ++ r) rest) :
    KeptApart r rest := by
  intro a ha
  refine h a ?_
  -- the last character of `r` is that of `l ++ r`
  rw [List.getLast?_append, Option.mem_def.1 ha]
  rfl

/-- What is kept apart from a text is so from a longer one that begins with it. -/
theorem KeptApart.append {l r : List Char} (h : KeptApart l r) (hr : r ≠ []) (rest : List Char) :
    KeptApart l (r ++ rest) := by
  intro a ha c hc
  cases r with
  | nil => exact absurd rfl hr
  | cons c' r => exact h a ha c hc

/-- Behind what is no part of a name, no name can have been torn apart. -/
theorem keptApart_of_head {rest : List Char} (h : ∀ c ∈ rest.head?, ¬isNameChar c)
    (t : List Char) : KeptApart t rest :=
  fun _ _ c hc _ => h c hc

/-! ## Texts around a sign and within brackets -/

section

variable {sign left right inner : List Char → Prop} {description : Char → Prop}
  {opening closing : Char} {t : List Char}

/-- What is written around a sign begins like its left side. -/
theorem WrittenAround.startsWith (h : WrittenAround sign left right t)
    (hleft : ∀ l, left l → StartsWith description l) : StartsWith description t := by
  obtain ⟨l, before, s, after, r, hl, -, -, -, -, -, -, rfl⟩ := h
  exact (hleft l hl).append _

theorem WrittenAround.endsWith (h : WrittenAround sign left right t)
    (hright : ∀ r, right r → EndsWith description r) : EndsWith description t := by
  obtain ⟨l, before, s, after, r, -, -, -, -, hr, -, -, rfl⟩ := h
  exact ((((hright r hr).append_left after).append_left s).append_left before).append_left l

theorem WrittenWithin.startsWith (h : WrittenWithin opening closing inner t) :
    StartsWith (fun c => c = opening) t := by
  obtain ⟨before, s, after, -, -, -, rfl⟩ := h
  exact ⟨opening, rfl, rfl⟩

/-- What is written within brackets ends with the closing one. -/
theorem WrittenWithin.endsWith (h : WrittenWithin opening closing inner t) :
    EndsWith (fun c => c = closing) t := by
  obtain ⟨before, s, after, -, -, -, rfl⟩ := h
  have hclosing : EndsWith (fun c => c = closing) [closing] := ⟨closing, rfl, rfl⟩
  have hend := hclosing.append_left (opening :: (before ++ (s ++ after)))
  simpa only [List.cons_append, List.append_assoc] using hend

end

end Reshape
