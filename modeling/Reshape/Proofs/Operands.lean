import Reshape.Proofs.Tokens

/-!
# What trees begin with, and what ends them

The first character of a text tells which alternative of the grammar reads it, and the first
character of what comes after it tells that nothing more is read. This file says which characters
these are, and that literals are read back where such a character comes after.
-/

namespace Reshape

open Reshape.Parser Reshape.Text

/-! ## First characters -/

/-- A character that the text of an expression or a predicate begins with. -/
def isOpening (c : Char) : Bool :=
  isNameStart c || c.isDigit || ['-', '(', '"', '\''].contains c

/-- The text begins like one of an expression or a predicate. -/
abbrev Opens (t : List Char) : Prop := StartsWith (fun c => isOpening c) t

theorem isOpening_of_isNameStart {c : Char} (h : isNameStart c) : isOpening c := by
  simp [isOpening, h]

theorem not_isSpace_of_isOpening {c : Char} (h : isOpening c) : ¬isSpace c := by
  intro hspace
  rcases isSpace_iff.1 hspace with rfl | rfl | rfl | rfl <;> exact absurd h (by decide)

/-- No space is an opening character. -/
theorem begins_of_opens {t : List Char} (h : Opens t) : Begins t :=
  h.mono fun _ => not_isSpace_of_isOpening

theorem head_ne_of_opens {t : List Char} (h : Opens t) {c : Char} (hc : ¬isOpening c) :
    c ∉ t.head? :=
  fun hmem => hc (h.head c hmem)

/-! ## First characters of trees -/

/-- A literal begins with a letter or a quote, unless it is a number. -/
theorem Literal.startsWith {value : Literal} {t : List Char}
    (hvalue : value.WellFormed Number.IsExact) (ht : value.WrittenAs t) :
    StartsWith (fun c => c.isAlpha ∨ c = '"' ∨ c = '\'') t ∨ ∃ n, t = (Number.int n).write := by
  have hword {w : String} (hw : Grammar.IsWord w) (h : sameWord w.toList t) :
      StartsWith (fun c => c.isAlpha ∨ c = '"' ∨ c = '\'') t :=
    (hw.startsWith h).mono fun _ => .inl
  match value with
  | .null => exact .inl (hword (by decide) ht)
  | .bool true => exact .inl (hword (by decide) ht)
  | .bool false => exact .inl (hword (by decide) ht)
  | .number (.int n) => exact .inr ⟨n, ht⟩
  | .string s =>
    obtain ⟨quote, hquote, -, rfl⟩ := ht
    exact .inl (startsWith_cons (.inr hquote) _)

/-- A literal begins like an expression. -/
theorem Literal.opens {value : Literal} {t : List Char} (hvalue : value.WellFormed Number.IsExact)
    (ht : value.WrittenAs t) : Opens t := by
  rcases value.startsWith hvalue ht with hstart | ⟨n, rfl⟩
  · refine hstart.mono fun c hc => ?_
    -- a letter or a quote
    rcases hc with halpha | rfl | rfl
    · exact isOpening_of_isNameStart (isNameStart_of_isAlpha halpha)
    · decide
    · decide
  · refine (Grammar.startsWith_write n).mono fun c hc => ?_
    rcases hc with hdigit | rfl
    · simp [isOpening, hdigit]
    · decide

/-- A path that is written has a step. -/
theorem Path.WrittenAs.ne_nil {path : Path} {t : List Char} (ht : path.WrittenAs t) :
    path ≠ [] := by
  rintro rfl
  exact absurd ht (by simp [Path.WrittenAs, StepsWrittenAs])

/-- A path is written as its first step and what follows it. -/
theorem Path.WrittenAs.steps {path : Path} {t : List Char} (ht : path.WrittenAs t) :
    ∃ n selector steps s more, path = .mk n selector :: steps ∧ Selector.WrittenAs selector s ∧
      StepsWrittenAs steps more ∧ t = n.toList ++ s ++ more := by
  match path with
  | [] => exact absurd rfl ht.ne_nil
  | .mk n selector :: steps =>
    obtain ⟨step, more, ⟨s, hs, rfl⟩, hmore, htext⟩ := ht
    exact ⟨n, selector, steps, s, more, rfl, hs, hmore, by simpa using htext⟩

theorem IsName.startsWith {n : String} (h : IsName n) :
    StartsWith (fun c => isNameStart c) n.toList := by
  obtain ⟨c, cs, hcs, hstart, -⟩ := Grammar.isName_cons h
  rw [hcs]
  exact startsWith_cons hstart cs

theorem IsName.endsWith {n : String} (h : IsName n) :
    EndsWith (fun c => isNameChar c) n.toList :=
  endsWith_of_forall h.startsWith.ne_nil (Grammar.isNameChar_of_isName h)

/-- A selector begins with its bracket. -/
theorem Selector.startsWith {selector : Selector} {t : List Char} (hwhole : selector ≠ .whole)
    (ht : selector.WrittenAs t) : StartsWith (fun c => c = '[') t := by
  match selector with
  | .whole => exact absurd rfl hwhole
  | .each | .at _ | .matching _ => exact WrittenWithin.startsWith ht

/-- A path begins with a name. -/
theorem Path.startsWith {path : Path} {t : List Char} {numbers : Number → Prop}
    (hpath : StepsWellFormed numbers path) (ht : path.WrittenAs t) :
    StartsWith (fun c => isNameStart c) t := by
  obtain ⟨n, selector, steps, s, more, rfl, -, -, rfl⟩ := ht.steps
  exact (hpath.1.1.startsWith.append s).append more

theorem Path.opens {path : Path} {t : List Char} {numbers : Number → Prop}
    (hpath : StepsWellFormed numbers path) (ht : path.WrittenAs t) : Opens t :=
  (path.startsWith hpath ht).mono fun _ => isOpening_of_isNameStart

/-- After a gap, a tree does not begin with another character than trees do. -/
theorem not_mem_head_of_gap {gap t : List Char} (hgap : IsGap gap) (ht : Opens t) {c : Char}
    (hspace : ¬isSpace c) (hc : ¬isOpening c) : c ∉ (gap ++ t).head? := by
  intro hmem
  rcases isSpace_or_head hmem with h | h
  · exact hspace h
  · rw [skipSpaces_gap hgap (begins_of_opens ht)] at h
    exact head_ne_of_opens ht hc h

theorem opens_of_writtenWithin {closing : Char} {inner : List Char → Prop} {t : List Char}
    (h : WrittenWithin '(' closing inner t) : Opens t :=
  h.startsWith.mono fun c hc => by rw [hc]; decide

/-- An expression begins as its first operand does. -/
theorem Expression.opens {e : Expression} {t : List Char}
    (he : e.WellFormed Number.IsExact) (ht : e.WrittenAs t) : Opens t := by
  match e with
  | .literal value => exact value.opens he ht
  | .path steps => exact Path.opens he.2 ht
  | .arithmetic _ left _ => exact WrittenAround.startsWith ht fun _ hl => left.opens he.2.1 hl
  | .concat left _ => exact WrittenAround.startsWith ht fun _ hl => left.opens he.2.1 hl
  | .group _ => exact opens_of_writtenWithin ht

/-- A predicate begins as its first operand does. -/
theorem Predicate.opens {p : Predicate} {t : List Char}
    (hp : p.WellFormed Number.IsExact) (ht : p.WrittenAs t) : Opens t := by
  match p with
  | .comparison left _ _ => exact WrittenAround.startsWith ht fun _ hl => left.opens hp.1 hl
  | .and left _ => exact WrittenAround.startsWith ht fun _ hl => left.opens hp.2.1 hl
  | .or left _ => exact WrittenAround.startsWith ht fun _ hl => left.opens hp.2.1 hl
  | .group _ => exact opens_of_writtenWithin ht
  | .prune steps => exact Path.opens hp.2 ht

/-! ## What comes after -/

/-- What comes after the text of an operand is not read as a part of it. -/
structure Detached (t rest : List Char) : Prop where
  apart : KeptApart t rest
  no_dot : '.' ∉ rest.head?
  no_bracket : '[' ∉ rest.head?

theorem Detached.of_append {l r rest : List Char} (h : Detached (l ++ r) rest) :
    Detached r rest :=
  ⟨h.apart.of_append, h.no_dot, h.no_bracket⟩

/-- After a digit, neither digits nor a point nor a power of ten go on. -/
theorem Detached.endsNumber {t rest : List Char} (h : Detached t rest)
    (ht : EndsWith (fun c => isNameChar c) t) : Grammar.EndsNumber rest := by
  have hrest := h.apart.head ht
  refine ⟨fun c hc hdigit => hrest c hc (isNameChar_of_isDigit hdigit), h.no_dot, ?_⟩
  intro c hc hmem
  simp only [List.mem_cons, List.not_mem_nil, or_false] at hmem
  rcases hmem with rfl | rfl <;> exact hrest _ hc (by decide)

/-- Nothing or a closing bracket comes next. -/
def Enclosed (rest : List Char) : Prop := ∀ c ∈ (skipSpaces rest).head?, c = ')' ∨ c = ']'

theorem enclosed_nil : Enclosed [] := by simp [Enclosed, skipSpaces]

/-- A closing bracket may come after a gap. -/
theorem enclosed_of_gap {gap rest : List Char} {closing : Char} (hgap : IsGap gap)
    (hclosing : closing = ')' ∨ closing = ']') : Enclosed (gap ++ closing :: rest) := by
  have hbegins : Begins (closing :: rest) :=
    startsWith_cons (by rcases hclosing with rfl | rfl <;> decide) rest
  intro c hc
  rw [skipSpaces_gap hgap hbegins] at hc
  obtain rfl : closing = c := Option.some.inj hc
  exact hclosing

/-- What comes after is no part of a text when, apart from spaces, no name, dot or bracket does. -/
theorem detached_of_skipSpaces {rest : List Char}
    (h : ∀ c ∈ (skipSpaces rest).head?, ¬isNameChar c ∧ c ≠ '.' ∧ c ≠ '[') (t : List Char) :
    Detached t rest := by
  have hhead : ∀ c ∈ rest.head?, ¬isNameChar c ∧ c ≠ '.' ∧ c ≠ '[' := by
    intro c hc
    -- what comes next is a space, or what comes after the spaces
    rcases isSpace_or_head hc with hspace | hc
    · refine ⟨by simp [not_isNameChar_of_isSpace hspace], ?_, ?_⟩ <;>
        · rintro rfl
          exact absurd hspace (by decide)
    · exact h c hc
  exact ⟨keptApart_of_head (fun c hc => (hhead c hc).1) t,
    fun hc => (hhead _ hc).2.1 rfl, fun hc => (hhead _ hc).2.2 rfl⟩

/-- A closing bracket is no part of the text before it. -/
theorem Enclosed.detached {rest : List Char} (h : Enclosed rest) (t : List Char) :
    Detached t rest := by
  refine detached_of_skipSpaces (fun c hc => ?_) t
  rcases h c hc with rfl | rfl <;> decide

/-! ## Signs and words between two texts -/

/-- A character that a sign or a word between two texts begins with. -/
def isJoint (c : Char) : Bool :=
  c.isAlpha || ['|', '+', '-', '*', '/', '=', '!', '>', '<', '~'].contains c

/-- No space, dot or bracket joins two texts. -/
theorem not_isJoint {c : Char} (h : isJoint c) : ¬isSpace c ∧ c ∉ ['.', '[', ']', ')'] := by
  refine ⟨fun hspace => ?_, fun hmem => ?_⟩
  · rcases isSpace_iff.1 hspace with rfl | rfl | rfl | rfl <;> exact absurd h (by decide)
  · simp only [List.mem_cons, List.not_mem_nil, or_false] at hmem
    rcases hmem with rfl | rfl | rfl | rfl <;> exact absurd h (by decide)

theorem begins_of_joint {s : List Char} (hs : StartsWith (fun c => isJoint c) s) : Begins s :=
  hs.mono fun _ h => (not_isJoint h).1

section

variable {l before s : List Char} (hbefore : IsGap before) (hs : StartsWith (fun c => isJoint c) s)
include hbefore hs

/-- Behind a gap, the sign or the word comes next. -/
theorem skipSpaces_joint (rest : List Char) : skipSpaces (before ++ (s ++ rest)) = s ++ rest :=
  skipSpaces_gap hbefore ((begins_of_joint hs).append rest)

theorem not_mem_head_of_joint {c : Char} (hc : ¬isJoint c) (rest : List Char) :
    c ∉ (skipSpaces (before ++ (s ++ rest))).head? := by
  rw [skipSpaces_joint hbefore hs]
  exact fun hmem => hc ((hs.append rest).head c hmem)

/-- Where a sign or a word begins after a gap, it is not read as a part of the text before. -/
theorem detached_of_joint (hapart : KeptApart l (before ++ s)) (rest : List Char) :
    Detached l (before ++ (s ++ rest)) := by
  have hne : before ++ s ≠ [] := by simp [hs.ne_nil]
  have hhead {c : Char} (hspace : ¬isSpace c) (hc : ¬isJoint c) :
      c ∉ (before ++ (s ++ rest)).head? := fun hmem =>
    (isSpace_or_head hmem).elim hspace (not_mem_head_of_joint hbefore hs hc rest)
  -- the gap may be empty, and then the word must not go on a name
  refine ⟨?_, hhead (by decide) (by decide), hhead (by decide) (by decide)⟩
  rw [← List.append_assoc]
  exact hapart.append hne rest

end

theorem isJoint_of_word {w : String} {s : List Char} (hw : Grammar.IsWord w)
    (hs : sameWord w.toList s) : StartsWith (fun c => isJoint c) s :=
  (hw.startsWith hs).mono fun c hc => by simp [isJoint, hc]

theorem startsWith_symbol (op : Comparator) :
    StartsWith (fun c => isJoint c) op.symbol.toList := by
  cases op <;> exact startsWith_cons (by decide) _

/-! ## Literals -/

namespace Grammar

section

variable {t rest text : List Char}

/-- Where no letter stands, no word is read. -/
theorem words_fail (h : ∀ c ∈ text.head?, ¬c.isAlpha) :
    ∀ w ∈ reservedWords, (keyword w).Fails text :=
  fun w hw => keyword_fails_of_head (isWord_of_mem_reservedWords w hw) h

/-- Where no word is read, a literal is a number or a text between quotes. -/
theorem literal_of_words_fail (h : ∀ w ∈ reservedWords, (keyword w).Fails text) :
    literal text =
      ((.number <$> number) <|> (.string <$> (quoted '"' <|> quoted '\'')) : Parser Literal)
        text := by
  rw [literal, orElse_next (h "null" (by decide)).bind, orElse_next (h "true" (by decide)).bind,
    orElse_next (h "false" (by decide)).bind]

/-- A literal is a word, a number or a text between quotes. -/
theorem literal_fails (hwords : ∀ w ∈ reservedWords, (keyword w).Fails text)
    (hnumber : number.Fails text) (hdouble : '"' ∉ text.head?) (hsingle : '\'' ∉ text.head?) :
    literal.Fails text := by
  rw [Fails, literal_of_words_fail hwords]
  exact (hnumber.map _).orElse (((quoted_fails hdouble).orElse (quoted_fails hsingle)).map _)

/-- A literal is read back where what comes after it is no part of it. -/
theorem literal_ok {value : Literal} (hvalue : value.WellFormed Number.IsExact)
    (ht : value.WrittenAs t) (hrest : Detached t rest) :
    literal (t ++ rest) = .ok (value, rest) := by
  match value with
  | .null =>
    have hnull := keyword_ok (by decide) ht hrest.apart
    exact orElse_ok (bind_ok hnull)
  | .bool true =>
    have htrue := keyword_ok (by decide) ht hrest.apart
    have hnull : (keyword "null").Fails (t ++ rest) :=
      keyword_fails_of_word (by decide) (by decide) (by decide) ht hrest.apart
    rw [literal, orElse_next hnull.bind]
    exact orElse_ok (bind_ok htrue)
  | .bool false =>
    have hfalse := keyword_ok (by decide) ht hrest.apart
    have hnull : (keyword "null").Fails (t ++ rest) :=
      keyword_fails_of_word (by decide) (by decide) (by decide) ht hrest.apart
    have htrue : (keyword "true").Fails (t ++ rest) :=
      keyword_fails_of_word (by decide) (by decide) (by decide) ht hrest.apart
    rw [literal, orElse_next hnull.bind, orElse_next htrue.bind]
    exact orElse_ok (bind_ok hfalse)
  | .number (.int n) =>
    obtain rfl : t = (Number.int n).write := ht
    have hnumber := number_ok hvalue (hrest.endsNumber (endsWith_write n))
    -- a digit or a minus sign comes first, so no word is read
    have hnoLetter : ∀ c ∈ ((Number.int n).write ++ rest).head?, ¬c.isAlpha := by
      refine (((startsWith_write n).append rest).mono fun c hc halpha => ?_).head
      have hstart := isNameStart_of_isAlpha halpha
      rcases hc with hdigit | rfl
      · exact absurd hstart (by simp [not_isNameStart_of_isDigit hdigit])
      · exact absurd hstart (by decide)
    rw [literal_of_words_fail (words_fail hnoLetter)]
    exact orElse_ok (map_ok _ hnumber)
  | .string s =>
    obtain ⟨quote, hquote, hfree, rfl⟩ := ht
    have hread := quoted_ok hfree rest
    have htext : quote :: (s.toList ++ [quote]) ++ rest =
        quote :: (s.toList ++ (quote :: rest)) := by
      simp
    -- a quote is neither a letter nor a digit nor a minus sign
    have hnumber : number.Fails (quote :: (s.toList ++ (quote :: rest))) := by
      refine number_fails ?_ ?_ <;> rcases hquote with rfl | rfl <;> simp
    have hwords : ∀ w ∈ reservedWords,
        (keyword w).Fails (quote :: (s.toList ++ (quote :: rest))) := by
      refine words_fail ?_
      rcases hquote with rfl | rfl <;> simp
    rw [htext, literal_of_words_fail hwords, orElse_next (hnumber.map _)]
    refine map_ok _ ?_
    rcases hquote with rfl | rfl
    · exact orElse_ok hread
    · rw [orElse_next (quoted_fails (by simp))]
      exact hread

end

end Grammar

end Reshape
