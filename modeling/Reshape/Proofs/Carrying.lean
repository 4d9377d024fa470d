import Reshape.Proofs.Agreement

/-!
# What comes after does not matter

A text that is read as an expression or a predicate is read alike when a separator and more text
come after it. Every level of the grammar carries over, if nothing is left that it would have gone
on with: `PathEnds`, `ExpressionEnds` and `PredicateEnds` say what this is. Where brackets or
parentheses close, and at the end of the text, all of them hold.

Earlier alternatives that have failed must fail again. For the alternatives of an operand this is
so since a later one reads the longer text; that a clause in parentheses is not taken for the left
side of a comparison is what the agreement of expressions and predicates is for.
-/

namespace Reshape

open Reshape.Parser Reshape.Text

namespace Grammar

/-! ## Where the levels end -/

/-- No step of a path is added in front of the text. -/
def PathEnds (rest : List Char) : Prop := ∀ c ∈ (skipSpaces rest).head?, c ∉ ['[', '.']

/-- No operator of the tier or a tighter one comes next. -/
def ExpressionEnds (k : Nat) (rest : List Char) : Prop :=
  PathEnds rest ∧ ∀ c ∈ (skipSpaces rest).head?, ∀ j, k ≤ j → j < 3 → c ∉ operatorHeads j

/-- Neither a sign of an expression nor of a comparison comes next, nor a word that the tier or a
tighter one reads. -/
structure PredicateEnds (k : Nat) (rest : List Char) : Prop where
  expression : ExpressionEnds 0 rest
  no_comparator : ∀ c ∈ (skipSpaces rest).head?, c ∉ comparatorHeads
  no_word : ∀ j, k ≤ j → j < 2 → (predicateOperator j).Fails (skipSpaces rest)

/-- The parsers inside brackets carry over, if a bracket closes after them. -/
structure Inner.Carries (more : List Char) (inner : Inner) : Prop where
  leavesSuffix : inner.LeavesSuffix
  agrees : inner.Agrees
  predicate : Parser.Carries more inner.predicate Enclosed
  expression : Parser.Carries more inner.expression Enclosed

section

variable {more text longer rest : List Char}

/-- Neither a bracket nor a dot comes right behind a path that ends. -/
theorem PathEnds.head (h : PathEnds rest) : ∀ c ∈ rest.head?, c ∉ ['[', '.'] := by
  intro c hc hmem
  rcases isSpace_or_head hc with hspace | hc
  · simp only [List.mem_cons, List.not_mem_nil, or_false] at hmem
    rcases hmem with rfl | rfl <;> exact absurd hspace (by decide)
  · exact h c hc hmem

/-- Spaces behind a path do not matter for its end. -/
theorem PathEnds.of_skipSpaces (h : PathEnds (skipSpaces rest)) : PathEnds rest := by
  rwa [PathEnds, skipSpaces_skipSpaces] at h

theorem PredicateEnds.of_skipSpaces {k : Nat} (h : PredicateEnds k (skipSpaces rest)) :
    PredicateEnds k rest := by
  obtain ⟨⟨hpath, hexpression⟩, hcomparator, hword⟩ := h
  rw [PathEnds] at hpath
  simp only [skipSpaces_skipSpaces] at hpath hexpression hcomparator hword
  exact ⟨⟨hpath, hexpression⟩, hcomparator, hword⟩

/-- No sign comes next where a word does. -/
theorem ends_of_word {w : String} {t left : List Char} (hw : IsWord w)
    (ht : sameWord w.toList t) (h : skipSpaces rest = t ++ left) :
    ExpressionEnds 0 rest ∧ ∀ c ∈ (skipSpaces rest).head?, c ∉ comparatorHeads := by
  have hhead := ((hw.startsWith ht).append left).head
  rw [← h] at hhead
  have hsigns : ∀ c ∈ ['[', '.'] ++ ['|', '+', '-', '*', '/'] ++ comparatorHeads, ¬c.isAlpha := by
    decide
  have hsign {c : Char} (hc : c ∈ (skipSpaces rest).head?)
      (hmem : c ∈ ['[', '.'] ++ ['|', '+', '-', '*', '/'] ++ comparatorHeads) : False :=
    hsigns c hmem (hhead c hc)
  refine ⟨⟨fun c hc hmem => hsign hc ?_, fun c hc j _ _ hmem => hsign hc ?_⟩,
    fun c hc hmem => hsign hc (List.mem_append_right _ hmem)⟩
  · exact List.mem_append_left _ (List.mem_append_left _ hmem)
  · exact List.mem_append_left _ (List.mem_append_right _ (mem_of_mem_operatorHeads hmem))

/-- Nothing of a predicate comes next where a bracket closes, or at the end. -/
theorem predicateEnds_of_enclosed (h : Enclosed rest) : PredicateEnds 0 rest := by
  have hheads : ∀ c ∈ [')', ']'], c ∉ ['[', '.'] ∧ (∀ j < 3, c ∉ operatorHeads j) ∧
      c ∉ comparatorHeads ∧ ¬c.isAlpha := by decide
  have hhead : ∀ c ∈ (skipSpaces rest).head?, c ∈ [')', ']'] := by
    intro c hc
    rcases h c hc with rfl | rfl <;> decide
  refine ⟨⟨fun c hc => (hheads c (hhead c hc)).1,
    fun c hc j _ hj => (hheads c (hhead c hc)).2.1 j hj⟩,
    fun c hc => (hheads c (hhead c hc)).2.2.1, fun j _ _ => ?_⟩
  have hword : ∀ c ∈ (skipSpaces rest).head?, ¬c.isAlpha :=
    fun c hc => (hheads c (hhead c hc)).2.2.2
  -- two words join clauses, and neither begins with a bracket
  match j with
  | 0 => exact (keyword_fails_of_head (by decide) hword).bind
  | _ + 1 => exact (keyword_fails_of_head (by decide) hword).bind

/-- What is in parentheses ends at the closing one, so nothing behind it counts. -/
theorem carries_parenthesized (hmore : Severs more) {α : Type} {p : Parser α}
    (h : Parser.Carries more p Enclosed) : Carries more (parenthesized p) fun _ => True := by
  have hsign {c : Char} (hc : ∀ d ∈ separators ++ verbHeads, ¬(d == c)) :
      Carries more (spaced (char c)) fun _ => True :=
    (steady_char (hmore.bars hc)).spaced.reads
  refine (hsign (by decide)).bind_any fun _ => h.bind (fun a => (hsign (by decide)).bind_pure _) ?_
  -- behind the inner tree comes the closing parenthesis
  intro a text b rest hrun _
  obtain ⟨_, left, hclose, -⟩ := bind_eq_ok hrun
  obtain ⟨tail, hclose, -⟩ := spaced_eq_ok hclose
  intro c hc
  rw [char_eq_ok hclose] at hc
  exact .inl (Option.some.inj hc).symm

end

section

variable {more : List Char} {inner : Inner} (hmore : Severs more)
  (hinner : inner.Carries more)
include hmore hinner

/-! ## Paths -/

theorem carries_selector : Carries more (selector inner) fun _ => True := by
  have hclose {α : Type} (a : α) : Steady more (do let _ ← char ']'; return a : Parser α) :=
    (steady_char (hmore.bars (by decide))).bind fun _ => steady_pure a
  have hopen : Steady more (char '[') := steady_char (hmore.bars (by decide))
  refine hopen.reads.bind_any fun _ => ?_
  refine (steady_spaces.bind fun _ => hclose _).orElse_carries
    ((hmore.steady_index.spaced.bind fun n => hclose _).orElse_carries ?_)
  -- the predicate in a selector ends at the closing bracket
  refine hinner.predicate.bind (fun p => (hclose _).reads) fun p text s rest hrun _ => ?_
  obtain ⟨_, left, hread, -⟩ := bind_eq_ok hrun
  rw [char_eq_ok hread]
  exact enclosed_of_gap isGap_nil (.inr rfl)

/-- A step goes on with a bracket, if with anything. -/
theorem carries_segment : Carries more (segment inner) fun rest => '[' ∉ rest.head? := by
  have hselector : Carries more (selector inner) fun rest => '[' ∉ rest.head? :=
    (carries_selector hmore hinner).mono fun _ _ => trivial
  have hoptional := hselector.optional fun text longer hlonger hrest => by
    have hbars : Bars more (· == '[') := hmore.bars (by decide)
    have hhead := hlonger.not_head hbars fun c hc heq => hrest (by rwa [← eq_of_beq heq])
    have hother : '[' ∉ longer.head? := fun hc => hhead _ hc (by decide)
    exact (char_fails hother).bind
  exact hmore.carries_name.bind_any fun n => hoptional.bind_pure _

/-- A path goes on with a dot or a bracket, if with anything. -/
theorem carries_path : Carries more (path inner) PathEnds := by
  have hbrackets : Steady more (Parser.optional (do sign "[]"; Parser.optional (char '.'))) :=
    ((steady_sign (by decide) (hmore.bars (by decide))).bind fun _ =>
      (steady_char (hmore.bars (by decide))).optional).optional
  have hbars : Bars more (· == '.') := hmore.bars (by decide)
  have hsegment := carries_segment hmore hinner
  have hpiece := (steady_char hbars).reads.seqRight hsegment
  have hconsumes : (char '.' *> segment inner).Consumes :=
    ((advances_char '.').seqRight (advances_segment hinner.leavesSuffix).leavesSuffix).consumes
  -- after a step comes a dot, or the end of the path
  have hnext (text : List Char) (step : Segment) (rest : List Char)
      (hrun : (char '.' *> segment inner) text = .ok (step, rest)) : '[' ∉ text.head? := by
    rw [seqRight_as_bind] at hrun
    obtain ⟨_, left, hdot, -⟩ := bind_eq_ok hrun
    rw [char_eq_ok hdot]
    simp
  have hlast (rest : List Char) (hrest : PathEnds rest) : '[' ∉ rest.head? :=
    fun hc => hrest.head _ hc (by decide)
  have hmany := hpiece.many hconsumes hnext hlast fun text longer hlonger hrest => by
    have hhead := hlonger.not_head hbars fun c hc heq =>
      hrest.head c hc (by rw [eq_of_beq heq]; decide)
    have hother : '.' ∉ longer.head? := fun hc => hhead _ hc (by decide)
    exact (char_fails hother).seqRight
  refine hbrackets.reads.bind_any fun _ => hsegment.bind (fun step => hmany.bind_pure _) ?_
  intro step text steps rest hrun hrest
  obtain ⟨more, left, hsteps, hend⟩ := bind_eq_ok hrun
  obtain ⟨-, rfl⟩ := Prod.mk.inj (Except.ok.inj hend)
  rcases many_eq_ok hconsumes hsteps with ⟨-, rfl⟩ | ⟨next, -, between, -, hread, -⟩
  · exact hlast _ hrest
  · exact hnext text next between hread

/-! ## Expressions -/

/-- Operands are tried in the order of the grammar, with the same result for the longer text. -/
theorem carries_primary : Carries more (primary inner) PathEnds := by
  have hliteral : Carries more (Expression.literal <$> literal) PathEnds :=
    (hmore.carries_literal.map _).mono fun _ _ => trivial
  have hgroup : Carries more (Expression.group <$> parenthesized inner.expression) PathEnds :=
    ((carries_parenthesized hmore hinner.expression).map _).mono fun _ _ => trivial
  have hpath := (carries_path hmore hinner).map Expression.path
  -- of the longer text, the earlier alternatives fail since a later one reads it
  have hother := hgroup.orElse hpath fun text longer e rest hlonger _ hrun hrest => by
    obtain ⟨left, hread, -⟩ := hpath text longer e rest hlonger hrun hrest
    obtain ⟨steps, hread, -⟩ := map_eq_ok hread
    exact (parenthesized_fails_of_path hread _).map _
  have hall := hliteral.orElse hother fun text longer e rest hlonger _ hrun hrest => by
    obtain ⟨left, hread, -⟩ := hother text longer e rest hlonger hrun hrest
    rcases orElse_eq_ok hread with hread | ⟨-, hread⟩
    · obtain ⟨_, hread, -⟩ := map_eq_ok hread
      exact (literal_fails_of_group hread).map _
    · obtain ⟨_, hread, -⟩ := map_eq_ok hread
      exact (literal_fails_of_path hread).map _
  exact hall.spaced fun rest hrest => hrest.of_skipSpaces

omit hmore hinner in
/-- An operator is told by its first character. -/
theorem head_of_expressionOperator {k : Nat} {text : List Char}
    {r : (Expression → Expression → Expression) × List Char}
    (h : expressionOperator k text = .ok r) : ∃ c ∈ text.head?, c ∈ operatorHeads k := by
  refine Classical.byContradiction fun hnone => ?_
  obtain ⟨e, he⟩ := expressionOperator_fails fun c hc hmem => hnone ⟨c, hc, hmem⟩
  exact absurd (he.symm.trans h) (by simp)

omit hmore hinner in
theorem head_of_comparator {text : List Char} {r : Comparator × List Char}
    (h : comparator text = .ok r) : ∃ c ∈ text.head?, c ∈ comparatorHeads := by
  refine Classical.byContradiction fun hnone => ?_
  obtain ⟨e, he⟩ := comparator_fails fun c hc hmem => hnone ⟨c, hc, hmem⟩
  exact absurd (he.symm.trans h) (by simp)

omit hinner in
/-- An expression ends where none of its operators comes next. -/
theorem expression_endsBefore (hinner : inner.LeavesSuffix) :
    (expressionLadder hinner).EndsBefore more ExpressionEnds where
  operator := hmore.carries_expressionOperator
  next := by
    intro k text join rest hk hrun
    have hheads : ∀ k < 3, ∀ c ∈ operatorHeads k, c ∉ ['[', '.'] ∧
        ∀ j < 3, k + 1 ≤ j → c ∉ operatorHeads j := by decide
    obtain ⟨c, hc, hmem⟩ := head_of_expressionOperator hrun
    refine ⟨fun d hd => ?_, fun d hd j hkj hj => ?_⟩
    · rw [Option.mem_unique hd hc]
      exact (hheads k hk c hmem).1
    · rw [Option.mem_unique hd hc]
      exact (hheads k hk c hmem).2 j hj hkj
  last := fun k rest hrest => ⟨hrest.1, fun c hc j hj => hrest.2 c hc j (Nat.le_of_succ_le hj)⟩
  stop := by
    intro k text longer hk hlonger hrest
    exact hmore.expressionOperator_fails hlonger fun c hc => hrest.2 c hc k (Nat.le_refl k) hk

theorem carries_expression : Carries more (expression inner) (ExpressionEnds 0) := by
  have hprimary : Carries more ((expressionLadder hinner.leavesSuffix).tier 3) (ExpressionEnds 3) :=
    (carries_primary hmore hinner).mono fun _ hrest => hrest.1
  exact (expression_endsBefore hmore hinner.leavesSuffix).descend (Nat.le_refl 3) (Nat.zero_le 3)
    hprimary

/-! ## Predicates -/

/-- Between the sides of a comparison there is its sign, which ends the left one. -/
theorem carries_comparison : Carries more (comparison inner) (ExpressionEnds 0) := by
  have hexpression := carries_expression hmore hinner
  refine hexpression.bind (fun left => ?_) ?_
  · exact hmore.steady_comparator.spaced.reads.bind_any fun op => hexpression.bind_pure _
  · -- a sign of comparison comes after the left operand
    intro left text p rest hrun _
    have hheads : ∀ c ∈ comparatorHeads, c ∉ ['[', '.'] ∧ ∀ j < 3, c ∉ operatorHeads j := by decide
    obtain ⟨op, between, hop, -⟩ := bind_eq_ok hrun
    obtain ⟨behind, hop, -⟩ := spaced_eq_ok hop
    obtain ⟨c, hc, hmem⟩ := head_of_comparator hop
    refine ⟨fun d hd => ?_, fun d hd j _ hj => ?_⟩
    · rw [Option.mem_unique hd hc]
      exact (hheads c hmem).1
    · rw [Option.mem_unique hd hc]
      exact (hheads c hmem).2 j hj

/-- A clause that is no comparison stays none with more text behind it. -/
theorem carries_clause : Carries more (clause inner) (PredicateEnds 2) := by
  have hcomparison : Carries more (comparison inner) (PredicateEnds 2) :=
    (carries_comparison hmore hinner).mono fun _ hrest => hrest.expression
  have hgroup : Carries more (Predicate.group <$> parenthesized inner.predicate)
      (PredicateEnds 2) :=
    ((carries_parenthesized hmore hinner.predicate).map _).mono fun _ _ => trivial
  have hpath : Carries more (Predicate.prune <$> accepting (path inner) Path.narrows)
      (PredicateEnds 2) :=
    (((carries_path hmore hinner).accepting _).map _).mono fun _ hrest => hrest.expression.1
  have hother := hgroup.orElse hpath fun text longer p rest hlonger _ hrun hrest => by
    obtain ⟨left, hread, -⟩ := hpath text longer p rest hlonger hrun hrest
    obtain ⟨steps, hread, -⟩ := map_eq_ok hread
    exact (parenthesized_fails_of_path (accepting_eq_ok hread).1 _).map _
  have hall := hcomparison.orElse hother fun text longer p rest hlonger _ hrun hrest => by
    obtain ⟨left, hread, hleft⟩ := hother text longer p rest hlonger hrun hrest
    have hprimary : ((expressionLadder hinner.leavesSuffix).tier 3).Leaves longer
        fun behind => behind = skipSpaces left := by
      rcases orElse_eq_ok hread with hread | ⟨-, hread⟩
      · obtain ⟨_, hread, -⟩ := map_eq_ok hread
        exact primary_leaves_of_group hinner.agrees hread
      · obtain ⟨_, hread, -⟩ := map_eq_ok hread
        exact primary_leaves_of_path (accepting_eq_ok hread).1
    -- the expression ends where the clause does, and no sign of comparison comes there
    have hexpression := Ladder.leaves_descend (Nat.le_refl 3) (Nat.zero_le 3) hprimary fun k _ hk =>
      hmore.expressionOperator_fails hleft fun c hc => hrest.expression.2 c hc k (Nat.zero_le k) hk
    refine comparison_fails fun e behind hrun => ?_
    obtain rfl := hexpression e behind hrun
    simp only [skipSpaces_skipSpaces]
    exact hmore.comparator_fails hleft hrest.no_comparator
  exact hall.spaced fun rest hrest => hrest.of_skipSpaces

omit hinner in
/-- A predicate ends where none of its words comes next. -/
theorem predicate_endsBefore (hinner : inner.LeavesSuffix) :
    (predicateLadder hinner).EndsBefore more PredicateEnds where
  operator := fun k => (hmore.steady_predicateOperator k).reads
  next := by
    intro k text join rest hk hrun
    match k with
    | 0 =>
      obtain ⟨_, left, hread, -⟩ := bind_eq_ok hrun
      obtain ⟨t, htext, hsame, hleft⟩ := keyword_eq_ok hread
      obtain ⟨hexpression, hcomparator⟩ := ends_of_word (by decide) hsame htext
      refine ⟨hexpression, hcomparator, fun j hj hlt => ?_⟩
      -- the only tighter word is another one
      obtain rfl : j = 1 := by omega
      rw [htext]
      exact (keyword_fails_of_word (by decide) (by decide) (by decide) hsame
        (keptApart_of_head hleft t)).bind
    | 1 =>
      obtain ⟨_, left, hread, -⟩ := bind_eq_ok hrun
      obtain ⟨t, htext, hsame, -⟩ := keyword_eq_ok hread
      obtain ⟨hexpression, hcomparator⟩ := ends_of_word (by decide) hsame htext
      exact ⟨hexpression, hcomparator, fun j hj hlt => by omega⟩
  last := fun k rest hrest =>
    ⟨hrest.expression, hrest.no_comparator, fun j hj => hrest.no_word j (Nat.le_of_succ_le hj)⟩
  stop := by
    intro k text longer hk hlonger hrest
    exact (hmore.steady_predicateOperator k).fails _ _ hlonger.skipSpaces
      (hrest.no_word k (Nat.le_refl k) hk)

theorem carries_predicate : Carries more (predicate inner) (PredicateEnds 0) := by
  have hclause : Carries more ((predicateLadder hinner.leavesSuffix).tier 2) (PredicateEnds 2) :=
    carries_clause hmore hinner
  exact (predicate_endsBefore hmore hinner.leavesSuffix).descend (Nat.le_refl 2) (Nat.zero_le 2)
    hclause

end

/-! ## However deep -/

/-- What holds outside of brackets holds inside, by induction on how deep they may be nested. -/
theorem carries_inner {more : List Char} (hmore : Severs more) (depth : Nat) :
    (inner depth).Carries more := by
  have hleaves := inner_leavesSuffix
  induction depth with
  | zero =>
    exact ⟨hleaves 0, inner_agrees 0, fun _ _ _ _ _ hrun => absurd hrun (by simp [inner, fail]),
      fun _ _ _ _ _ hrun => absurd hrun (by simp [inner, fail])⟩
  | succ depth ih =>
    exact ⟨hleaves _, inner_agrees _,
      (carries_predicate hmore ih).mono fun _ => predicateEnds_of_enclosed,
      (carries_expression hmore ih).mono fun _ hrest =>
        (predicateEnds_of_enclosed hrest).expression⟩

end Grammar

end Reshape
