import Reshape.Proofs.Separation

/-!
# Where expressions and predicates end

What stands in parentheses may be read as an expression and as a predicate. `Inner.Agrees` says that
both then end at the same closing parenthesis. It follows that what is read as a clause is never
the left side of a comparison by accident: the expression ends where the clause does.
-/

namespace Reshape.Grammar

open Reshape.Parser Reshape.Text

/-! ## Spaces in front -/

section

variable {α β : Type} {p q : Parser α}

/-- Spaces in front of a text make no difference to the parser. -/
def IgnoresSpaces (p : Parser α) : Prop := ∀ text, p (skipSpaces text) = p text

/-- A spaced parser skips the spaces first. -/
theorem ignoresSpaces_spaced (p : Parser α) : IgnoresSpaces (spaced p) := by
  intro text
  rw [spaced, bind_ok (spaces_ok (skipSpaces text)), bind_ok (spaces_ok text),
    skipSpaces_skipSpaces]

theorem IgnoresSpaces.bind (h : IgnoresSpaces p) (f : α → Parser β) : IgnoresSpaces (p >>= f) := by
  intro text
  rw [run_bind, run_bind, h]

theorem IgnoresSpaces.orElse (hp : IgnoresSpaces p) (hq : IgnoresSpaces q) :
    IgnoresSpaces (p <|> q) := by
  intro text
  rw [run_orElse, run_orElse, hp, hq]

theorem IgnoresSpaces.leaves {text : List Char} {description : List Char → Prop}
    (h : IgnoresSpaces p) (hleaves : p.Leaves (skipSpaces text) description) :
    p.Leaves text description := by
  rwa [Leaves, h] at hleaves

end

theorem ignoresSpaces_expression (inner : Inner) : IgnoresSpaces (expression inner) :=
  (((ignoresSpaces_spaced _).bind _).bind _).bind _

/-! ## Clauses that are no comparisons -/

section

variable {inner : Inner} {text rest : List Char}

/-- A path begins with a name or with a pair of brackets. -/
theorem path_starts {steps : Path} (h : path inner text = .ok (steps, rest)) :
    '[' ∈ text.head? ∨ ∃ n left, IsName n ∧ text = n.toList ++ left ∧
      ∀ c ∈ left.head?, ¬isNameChar c := by
  obtain ⟨brackets, between, hbrackets, hsteps⟩ := bind_eq_ok h
  rcases optional_eq_ok hbrackets with ⟨_, hread, -⟩ | ⟨-, rfl⟩
  · obtain ⟨_, left, hsign, -⟩ := bind_eq_ok hread
    rw [sign_eq_ok hsign]
    exact .inl rfl
  · obtain ⟨step, left, hstep, -⟩ := bind_eq_ok hsteps
    obtain ⟨n, left', hname, -⟩ := bind_eq_ok hstep
    exact .inr ⟨n, left', name_eq_ok hname⟩

/-- A path begins with a bracket or a name. -/
theorem startsWith_of_path {steps : Path} (h : path inner text = .ok (steps, rest)) :
    StartsWith (fun c => c = '[' ∨ isNameStart c) text := by
  rcases path_starts h with hc | ⟨n, left, hn, rfl, -⟩
  · exact ⟨'[', hc, .inl rfl⟩
  · exact (hn.startsWith.append left).mono fun _ => .inr

theorem begins_of_path {steps : Path} (h : path inner text = .ok (steps, rest)) : Begins text := by
  refine (startsWith_of_path h).mono fun c hc => ?_
  rcases hc with rfl | hc
  · decide
  · exact not_isSpace_of_isOpening (isOpening_of_isNameStart hc)

theorem parenthesized_fails_of_path {α : Type} {steps : Path}
    (h : path inner text = .ok (steps, rest)) (p : Parser α) : (parenthesized p).Fails text := by
  refine parenthesized_fails fun hmem => ?_
  rw [skipSpaces_of_begins (begins_of_path h)] at hmem
  exact absurd ((startsWith_of_path h).head _ hmem) (by decide)

/-- What is read in parentheses stands between them. -/
theorem parenthesized_eq_ok {α : Type} {p : Parser α} {a : α}
    (h : parenthesized p text = .ok (a, rest)) :
    ∃ inside left tail, skipSpaces text = '(' :: inside ∧ p (skipSpaces inside) = .ok (a, left) ∧
      skipSpaces left = ')' :: tail ∧ rest = skipSpaces tail := by
  obtain ⟨_, between, hbefore, hinside⟩ := bind_eq_ok h
  obtain ⟨inside, hopen, rfl⟩ := spaced_eq_ok hbefore
  obtain ⟨b, left, hread, hmore⟩ := bind_eq_ok hinside
  obtain ⟨_, between, hafter, hend⟩ := bind_eq_ok hmore
  obtain ⟨tail, hclose, rfl⟩ := spaced_eq_ok hafter
  obtain ⟨rfl, rfl⟩ := Prod.mk.inj (Except.ok.inj hend)
  exact ⟨inside, left, tail, char_eq_ok hopen, hread, char_eq_ok hclose, rfl⟩

/-- What stands in parentheses is no literal. -/
theorem literal_fails_of_group {α : Type} {p : Parser α} {a : α}
    (h : parenthesized p text = .ok (a, rest)) : literal.Fails text := by
  obtain ⟨inside, left, tail, hopen, -⟩ := parenthesized_eq_ok h
  cases text with
  | nil => exact absurd hopen (by simp [skipSpaces])
  | cons c text =>
    -- spaces may come before the parenthesis
    have hhead : c = '(' ∨ isSpace c := by
      rcases isSpace_or_head (t := c :: text) rfl with hc | hc
      · exact .inr hc
      · rw [hopen] at hc
        exact .inl (Option.some.inj hc).symm
    rw [isSpace_iff] at hhead
    rcases hhead with rfl | rfl | rfl | rfl | rfl <;>
      exact literal_fails (words_fail (by simp)) (number_fails (by simp) (by simp)) (by simp)
        (by simp)

theorem literal_fails_of_path {steps : Path} (h : path inner text = .ok (steps, rest)) :
    literal.Fails text := by
  rcases path_starts h with hc | ⟨n, left, hn, rfl, hleft⟩
  · obtain ⟨tail, rfl⟩ := List.head?_eq_some_iff.1 hc
    exact literal_fails (words_fail (by simp)) (number_fails (by simp) (by simp)) (by simp)
      (by simp)
  · have hstart := (hn.startsWith.append left).head
    -- a name is no reserved word, though it may begin like one
    refine literal_fails (fun w hw => keyword_fails_of_name hw hn hleft)
      (number_fails (fun c hc hdigit => ?_) ?_) ?_ ?_
    · have hname := hstart c hc
      simp [not_isNameStart_of_isDigit hdigit] at hname
    · exact fun hc => absurd (hstart _ hc) (by decide)
    · exact fun hc => absurd (hstart _ hc) (by decide)
    · exact fun hc => absurd (hstart _ hc) (by decide)

/-- What a clause may be. -/
theorem clause_eq_ok {p : Predicate} (h : clause inner text = .ok (p, rest)) :
    ∃ left, rest = skipSpaces left ∧
      (comparison inner (skipSpaces text) = .ok (p, left) ∨
        (∃ q, parenthesized inner.predicate (skipSpaces text) = .ok (q, left)) ∨
        ∃ steps, path inner (skipSpaces text) = .ok (steps, left)) := by
  obtain ⟨left, hread, rfl⟩ := spaced_eq_ok h
  refine ⟨left, rfl, ?_⟩
  -- the alternatives in the order in which they are tried
  rcases orElse_eq_ok hread with hread | ⟨-, hread⟩
  · exact .inl hread
  · rcases orElse_eq_ok hread with hread | ⟨-, hread⟩
    · obtain ⟨q, hread, -⟩ := map_eq_ok hread
      exact .inr (.inl ⟨q, hread⟩)
    · obtain ⟨steps, hread, -⟩ := map_eq_ok hread
      exact .inr (.inr ⟨steps, (accepting_eq_ok hread).1⟩)

/-- In parentheses, an expression and a predicate end at the same closing one. -/
def Inner.Agrees (inner : Inner) : Prop :=
  ∀ text p rest e left, inner.predicate text = .ok (p, rest) →
    inner.expression text = .ok (e, left) → ')' ∈ (skipSpaces rest).head? →
    ')' ∈ (skipSpaces left).head? → skipSpaces left = skipSpaces rest

/-- A predicate in parentheses, read as an operand, ends at the same parenthesis. -/
theorem primary_leaves_of_group (hagrees : inner.Agrees) {p : Predicate}
    (h : parenthesized inner.predicate text = .ok (p, rest)) :
    (primary inner).Leaves text fun left => left = skipSpaces rest := by
  obtain ⟨inside, behind, tail, hopen, hpredicate, hclose, rfl⟩ := parenthesized_eq_ok h
  have hgroup : (parenthesized inner.expression).Leaves (skipSpaces text)
      fun left => left = skipSpaces tail := by
    intro e left hread
    obtain ⟨inside', behind', tail', hopen', hexpression, hclose', rfl⟩ := parenthesized_eq_ok hread
    rw [skipSpaces_skipSpaces, hopen] at hopen'
    obtain rfl := (List.cons.inj hopen').2
    -- the texts inside agree, so the same parenthesis comes after them
    have hsame := hagrees _ p behind e behind' hpredicate hexpression (by rw [hclose]; rfl)
      (by rw [hclose']; rfl)
    rw [hclose, hclose'] at hsame
    rw [(List.cons.inj hsame).2]
  have hliteral : literal.Fails (skipSpaces text) := by
    rw [hopen]
    exact literal_fails_of_parenthesis rfl
  have hpath : (path inner).Fails (skipSpaces text) := by
    rw [hopen]
    exact path_fails (by simp; decide) (by simp)
  refine Leaves.spaced (((hliteral.map _).leaves _).orElse
    ((hgroup.map _).orElse ((hpath.map _).leaves _))) fun left hleft => ?_
  rw [hleft]

/-- A path that is a clause, read as an operand, ends where it did. -/
theorem primary_leaves_of_path {steps : Path} (h : path inner text = .ok (steps, rest)) :
    (primary inner).Leaves text fun left => left = skipSpaces rest := by
  have hliteral := literal_fails_of_path h
  have hgroup := parenthesized_fails_of_path h inner.expression
  have hread : (path inner).Leaves text fun left => left = rest := leaves_of_ok h rfl
  rw [← skipSpaces_of_begins (begins_of_path h)] at hliteral hgroup hread
  refine Leaves.spaced (((hliteral.map _).leaves _).orElse
    (((hgroup.map _).leaves _).orElse (hread.map _))) fun left hleft => ?_
  rw [hleft]

/-- Where a clause is no comparison, the first operand of an expression ends with it. -/
theorem primary_leaves_of_clause (hagrees : inner.Agrees) {p : Predicate}
    (h : clause inner text = .ok (p, rest)) :
    (∃ e left op behind, expression inner text = .ok (e, left) ∧
      comparator (skipSpaces left) = .ok (op, behind)) ∨
    (primary inner).Leaves text fun left => left = rest := by
  obtain ⟨left, rfl, hread | ⟨q, hread⟩ | ⟨steps, hread⟩⟩ := clause_eq_ok h
  · obtain ⟨e, behind, hexpression, hmore⟩ := bind_eq_ok hread
    obtain ⟨op, behind', hop, -⟩ := bind_eq_ok hmore
    obtain ⟨tail, hop, -⟩ := spaced_eq_ok hop
    rw [ignoresSpaces_expression] at hexpression
    exact .inl ⟨e, behind, op, tail, hexpression, hop⟩
  · exact .inr ((ignoresSpaces_spaced _).leaves (primary_leaves_of_group hagrees hread))
  · exact .inr ((ignoresSpaces_spaced _).leaves (primary_leaves_of_path hread))

/-! ## However deep -/

/--
A predicate and an expression of one text end together if a closing parenthesis comes after both.
-/
theorem predicate_agrees (hinner : inner.LeavesSuffix) (hagrees : inner.Agrees) {p : Predicate}
    {e : Expression} {left : List Char} (hp : predicate inner text = .ok (p, rest))
    (he : expression inner text = .ok (e, left)) (hrest : ')' ∈ (skipSpaces rest).head?)
    (hleft : ')' ∈ (skipSpaces left).head?) : skipSpaces left = skipSpaces rest := by
  obtain ⟨q, between, hconjunction, -⟩ := bind_eq_ok hp
  obtain ⟨r, behind, hclause, -⟩ := bind_eq_ok hconjunction
  rcases primary_leaves_of_clause hagrees hclause with ⟨e', left', op, tail, he', hop⟩ | hprimary
  · -- a sign of comparison comes after the expression, not a parenthesis
    obtain ⟨-, rfl⟩ := Prod.mk.inj (Except.ok.inj (he.symm.trans he'))
    obtain ⟨f, hf⟩ : comparator.Fails (skipSpaces left) := by
      refine comparator_fails fun c hc hmem => ?_
      rw [Option.mem_unique hc hleft] at hmem
      exact absurd hmem (by decide)
    exact absurd (hop.symm.trans hf) (by simp)
  · obtain ⟨left', -, rfl⟩ := spaced_eq_ok hclause
    -- without a word after the clause, the predicate ends with it
    have hpredicate (hword : ∀ c ∈ (skipSpaces left').head?, ¬c.isAlpha) :
        rest = skipSpaces left' := by
      have hleaves : ((predicateLadder hinner).tier 2).Leaves text
          fun left => left = skipSpaces left' := leaves_of_ok hclause rfl
      refine Ladder.leaves_descend (Nat.le_refl 2) (Nat.zero_le 2) hleaves (fun k _ _ => ?_) p rest
        hp
      match k with
      | 0 => exact (keyword_fails_of_head (by decide) hword).bind
      | _ + 1 => exact (keyword_fails_of_head (by decide) hword).bind
    by_cases hsign : ∃ c ∈ (skipSpaces left').head?, ∃ k, c ∈ operatorHeads k
    · -- a sign is no word, so this sign comes after the predicate, not a parenthesis
      obtain ⟨c, hc, k, hk⟩ := hsign
      have hmem := mem_of_mem_operatorHeads hk
      have hend : rest = skipSpaces left' := hpredicate fun c' hc' halpha => by
        rw [Option.mem_unique hc' hc] at halpha
        simp only [List.mem_cons, List.not_mem_nil, or_false] at hmem
        rcases hmem with rfl | rfl | rfl | rfl | rfl <;> exact absurd halpha (by decide)
      rw [hend, skipSpaces_skipSpaces] at hrest
      rw [Option.mem_unique hc hrest] at hmem
      exact absurd hmem (by decide)
    · have hleaves : ((expressionLadder hinner).tier 3).Leaves text
          fun left => left = skipSpaces left' := hprimary
      -- without a sign after the clause, the expression ends with it too
      have hend : left = skipSpaces left' :=
        Ladder.leaves_descend (Nat.le_refl 3) (Nat.zero_le 3) hleaves
          (fun k _ _ => expressionOperator_fails fun c hc hk => hsign ⟨c, hc, k, hk⟩) e left he
      rw [hend, skipSpaces_skipSpaces] at hleft
      have hsame : rest = skipSpaces left' := hpredicate fun c hc => by
        rw [Option.mem_unique hc hleft]
        decide
      rw [hend, hsame]

end

/-- **In parentheses, however deep, expressions and predicates end at the same place.** -/
theorem inner_agrees (depth : Nat) : (inner depth).Agrees := by
  induction depth with
  | zero => exact fun _ _ _ _ _ hrun => absurd hrun (by simp [inner, fail])
  | succ depth ih =>
    have hinner := inner_leavesSuffix depth
    exact fun _ _ _ _ _ hp he hrest hleft => predicate_agrees hinner ih hp he hrest hleft

end Reshape.Grammar
