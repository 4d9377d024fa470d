import Reshape.Proofs.Brackets
import Reshape.Proofs.Ladder

/-!
# Expressions and predicates are read back

The operators of expressions are a ladder of three tiers, those of predicates one of two, and a
comparison joins the two ladders. Each reads its trees back as long as what applies inside brackets
does.

An opening parenthesis may begin an expression or a predicate, and both are tried. So it matters too
what the parser of expressions makes of the text of a predicate: it may read the whole of it or a
part, but after a part no closing parenthesis comes.
-/

namespace Reshape.Grammar

open Reshape.Parser Reshape.Text

/-! ## Parentheses -/

section

variable {α : Type} {p : Parser α} {before t after : List Char}

/-- Between parentheses, the parser is run after the gap. -/
theorem parenthesized_eq (hbefore : IsGap before) (ht : Begins t) (rest : List Char) :
    parenthesized p ('(' :: (before ++ (t ++ (after ++ [')']))) ++ rest) =
      (do let a ← p; let _ ← spaced (char ')'); return a : Parser α)
        (t ++ (after ++ ')' :: rest)) := by
  simp only [List.cons_append, List.append_assoc, List.nil_append]
  refine bind_ok (a := '(') ?_
  rw [spaced_ok (char_ok '(' _), skipSpaces_gap hbefore (ht.append _)]

/-- After a gap, the closing parenthesis is read. -/
theorem closing_ok (hafter : IsGap after) (rest : List Char) :
    spaced (char ')') (skipSpaces (after ++ ')' :: rest)) = .ok (')', skipSpaces rest) := by
  have hend : skipSpaces (after ++ ')' :: rest) = ')' :: rest :=
    skipSpaces_gap hafter (startsWith_cons (by decide) rest)
  rw [hend]
  exact spaced_ok (char_ok ')' rest)

/-- A parser that reads up to the closing parenthesis reads the whole between parentheses. -/
theorem parenthesized_ok {a : α} {rest : List Char} (hbefore : IsGap before) (ht : Begins t)
    (hafter : IsGap after)
    (h : p (t ++ (after ++ ')' :: rest)) = .ok (a, skipSpaces (after ++ ')' :: rest))) :
    parenthesized p ('(' :: (before ++ (t ++ (after ++ [')']))) ++ rest) =
      .ok (a, skipSpaces rest) := by
  rw [parenthesized_eq hbefore ht, bind_ok h, bind_ok (closing_ok hafter rest)]
  rfl

/--
If the parser inside stops short of the end, the closing parenthesis is missing. So whatever is
read, it goes up to the end of the parentheses.
-/
theorem parenthesized_leaves {rest : List Char} (hbefore : IsGap before) (ht : Begins t)
    (hafter : IsGap after)
    (h : p.Leaves (t ++ (after ++ ')' :: rest)) fun left =>
      left = skipSpaces (after ++ ')' :: rest) ∨ ')' ∉ (skipSpaces left).head?) :
    (parenthesized p).Leaves ('(' :: (before ++ (t ++ (after ++ [')']))) ++ rest)
      fun left => left = skipSpaces rest := by
  rw [Leaves, parenthesized_eq hbefore ht]
  refine h.bind fun a left hleft => ?_
  -- the closing parenthesis comes next only after the whole text
  rcases hleft with rfl | hleft
  · exact leaves_of_ok (bind_ok (closing_ok hafter rest)) rfl
  · exact ((char_fails hleft).spaced.bind).leaves _

theorem parenthesized_fails {text : List Char} (h : '(' ∉ (skipSpaces text).head?) :
    (parenthesized p).Fails text :=
  (char_fails h).spaced.bind

end

/-! ## The ladder of expressions -/

/-- The parsers of expressions, the loosest operators first. -/
def expressionTier (inner : Inner) : Nat → Parser Expression
  | 0 => expression inner
  | 1 => sum inner
  | 2 => product inner
  | _ => primary inner

/-- The operators of the tiers. -/
def expressionOperator : Nat → Parser (Expression → Expression → Expression)
  | 0 => do sign "||"; return .concat
  | 1 => arithmeticOp .add <|> arithmeticOp .subtract
  | _ => arithmeticOp .multiply <|> arithmeticOp .divide

/-- The characters that the operators of the tiers begin with. -/
def operatorHeads : Nat → List Char
  | 0 => ['|']
  | 1 => ['+', '-']
  | _ => ['*', '/']

/-- The tiers of expressions. -/
def expressionLadder {inner : Inner} (hinner : inner.LeavesSuffix) : Ladder Expression where
  height := 3
  tier := expressionTier inner
  operator := expressionOperator
  tier_eq
    | 0, _ => rfl
    | 1, _ => rfl
    | 2, _ => rfl
  tier_advances
    | 0 => advances_expression hinner
    | 1 => advances_sum hinner
    | 2 => advances_product hinner
    | _ + 3 => advances_primary hinner
  operator_advances
    | 0 => (advances_sign (by decide)).bind fun _ => leavesSuffix_pure _
    | 1 => (advances_arithmeticOp _).orElse (advances_arithmeticOp _)
    | _ + 2 => (advances_arithmeticOp _).orElse (advances_arithmeticOp _)

theorem expressionOperator_fails {k : Nat} {text : List Char}
    (h : ∀ c ∈ text.head?, c ∉ operatorHeads k) : (expressionOperator k).Fails text := by
  match k with
  | 0 => exact (sign_fails_of_head rfl fun hc => h _ hc (by decide)).bind
  | 1 =>
    exact (arithmeticOp_fails fun hc => h _ hc (by decide)).orElse
      (arithmeticOp_fails fun hc => h _ hc (by decide))
  | _ + 2 =>
    exact (arithmeticOp_fails fun hc => h _ hc List.mem_cons_self).orElse
      (arithmeticOp_fails fun hc => h _ hc (List.mem_cons_of_mem _ List.mem_cons_self))

theorem mem_of_mem_operatorHeads {k : Nat} {c : Char} (h : c ∈ operatorHeads k) :
    c ∈ ['|', '+', '-', '*', '/'] := by
  match k with
  | 0 | 1 | _ + 2 =>
    simp only [operatorHeads, List.mem_cons, List.not_mem_nil, or_false] at h
    rcases h with rfl | rfl <;> decide

/-- No operator of expressions begins like a comparison. -/
theorem expressionOperator_fails_of_comparator (op : Comparator) (rest : List Char) (k : Nat) :
    (expressionOperator k).Fails (op.symbol.toList ++ rest) := by
  refine expressionOperator_fails fun c hc hmem => ?_
  have hhead := mem_of_mem_operatorHeads hmem
  have hop : StartsWith (fun c => c ∉ ['|', '+', '-', '*', '/']) op.symbol.toList := by
    cases op <;> exact startsWith_cons (by decide) _
  exact (hop.append rest).head c hc hhead

/-- Every arithmetic operator is read on the tier of its strength. -/
theorem expressionOperator_arithmetic (op : ArithmeticOp) (rest : List Char) :
    expressionOperator op.strength (op.symbol :: rest) = .ok (.arithmetic op, rest) := by
  cases op with
  | add => exact orElse_ok (arithmeticOp_ok .add rest)
  -- the second operator of a tier is tried where the first one fails
  | subtract =>
    have hother : (arithmeticOp .add).Fails (ArithmeticOp.subtract.symbol :: rest) :=
      arithmeticOp_fails (by simp [ArithmeticOp.symbol])
    exact (orElse_next hother).trans (arithmeticOp_ok .subtract rest)
  | multiply => exact orElse_ok (arithmeticOp_ok .multiply rest)
  | divide =>
    have hother : (arithmeticOp .multiply).Fails (ArithmeticOp.divide.symbol :: rest) :=
      arithmeticOp_fails (by simp [ArithmeticOp.symbol])
    exact (orElse_next hother).trans (arithmeticOp_ok .divide rest)

theorem expressionOperator_concat (rest : List Char) :
    expressionOperator 0 ("||".toList ++ rest) = .ok (.concat, rest) :=
  bind_ok (sign_ok "||" rest)

/-! ## Expressions -/

theorem isJoint_of_mem_operatorHeads {k : Nat} {c : Char} (h : c ∈ operatorHeads k) :
    isJoint c := by
  have hmem := mem_of_mem_operatorHeads h
  simp only [List.mem_cons, List.not_mem_nil, or_false] at hmem
  rcases hmem with rfl | rfl | rfl | rfl | rfl <;> decide

/-- The sign of an operator between two texts is read as this operator, and as no tighter one. -/
theorem joins_expression {inner : Inner} (hinner : inner.LeavesSuffix) {k : Nat}
    {join : Expression → Expression → Expression} {l before s after r : List Char}
    (hs : StartsWith (fun c => c ∈ operatorHeads k ∧ ∀ j < 3, k < j → c ∉ operatorHeads j) s)
    (hreads : ∀ rest, expressionOperator k (s ++ rest) = .ok (join, rest))
    (hbefore : IsGap before) (hafter : IsGap after) (hr : Opens r)
    (hapart : KeptApart l (before ++ s)) :
    Ladder.Joins (expressionLadder hinner) Detached k join l before s after r := by
  have hjoint : StartsWith (fun c => isJoint c) s :=
    hs.mono fun c hc => isJoint_of_mem_operatorHeads hc.1
  have hbegins := begins_of_joint hjoint
  refine ⟨hbefore, hbegins, hafter, begins_of_opens hr, fun rest => hreads _,
    fun rest j hj hlt => ?_, fun rest => detached_of_joint hbefore hjoint hapart _⟩
  rw [skipSpaces_of_begins (hbegins.append _)]
  exact expressionOperator_fails fun c hc => ((hs.append _).head c hc).2 j hlt hj

section

variable {inner : Inner} {size : Nat} (hinner : inner.ReadsBack size)
include hinner

theorem primary_literal {value : Literal} {t : List Char}
    (hvalue : value.WellFormed Number.IsExact) (ht : value.WrittenAs t) :
    (expressionLadder hinner.toLeavesSuffix).Reads Detached 3 (.literal value) t := by
  intro text rest htext hrest _
  refine spaced_ok ?_
  rw [htext]
  exact orElse_ok (map_ok _ (literal_ok hvalue ht hrest))

/-- A path is read as an operand, and not as a literal or a number that it begins like. -/
theorem primary_path {path : Path} {t : List Char} (hpath : StepsWellFormed Number.IsExact path)
    (ht : path.WrittenAs t) (hsize : t.length ≤ size) :
    (expressionLadder hinner.toLeavesSuffix).Reads Detached 3 (.path path) t := by
  intro text rest htext hrest _
  have hopens := (path.opens hpath ht).append rest
  have hstart := ((path.startsWith hpath ht).append rest).head
  -- a name may begin with a word, but it goes on after it
  have hliteral : literal.Fails (t ++ rest) := by
    refine literal_fails (words_fail_of_path hpath ht hrest)
      (number_fails (fun c hc hdigit => ?_) ?_) ?_ ?_
    · have hname := hstart c hc
      simp [not_isNameStart_of_isDigit hdigit] at hname
    · exact fun hc => absurd (hstart _ hc) (by decide)
    · exact fun hc => absurd (hstart _ hc) (by decide)
    · exact fun hc => absurd (hstart _ hc) (by decide)
  have hgroup : (parenthesized inner.expression).Fails (t ++ rest) := by
    refine parenthesized_fails ?_
    rw [skipSpaces_of_begins (begins_of_opens hopens)]
    exact fun hc => absurd (hstart _ hc) (by decide)
  refine spaced_ok ?_
  rw [htext, orElse_next (hliteral.map _), orElse_next (hgroup.map _)]
  exact map_ok _ (path_ok hinner hpath ht hsize hrest)

omit hinner in
theorem literal_fails_of_parenthesis {text : List Char} (h : '(' ∈ text.head?) :
    literal.Fails text := by
  obtain ⟨rest, rfl⟩ := List.head?_eq_some_iff.1 h
  exact literal_fails (words_fail (by simp)) (number_fails (by simp) (by simp)) (by simp) (by simp)

/-- An expression in parentheses is read as an operand, if it is read inside. -/
theorem primary_group {e : Expression} {t : List Char} (he : e.WellFormed Number.IsExact)
    (ht : (Expression.group e).WrittenAs t) (hsize : t.length ≤ size) :
    (expressionLadder hinner.toLeavesSuffix).Reads Detached 3 (.group e) t := by
  intro text rest htext hrest _
  obtain ⟨before, s, after, hbefore, hs, hafter, rfl⟩ := ht
  have hbegins := begins_of_opens (e.opens he hs)
  -- the text inside is shorter by the two parentheses
  have hinside := hinner.reads_expression he hs
    (by simp only [List.length_cons, List.length_append] at hsize; omega)
    (skipSpaces_of_begins (hbegins.append (after ++ ')' :: rest)))
    (enclosed_of_gap hafter (.inl rfl))
  have hgroup := parenthesized_ok hbefore hbegins hafter hinside
  refine spaced_ok_skipped ?_
  rw [htext, orElse_next ((literal_fails_of_parenthesis rfl).map _)]
  exact orElse_ok (map_ok _ hgroup)

/-- **Expressions are read back with their precedence**: on every tier up to their strength. -/
theorem placed_expression {e : Expression} {t : List Char} (he : e.WellFormed Number.IsExact)
    (ht : e.WrittenAs t) (hsize : t.length ≤ size) :
    (expressionLadder hinner.toLeavesSuffix).Placed Detached e.strength e t := by
  match e with
  | .literal value => exact .operand (primary_literal hinner he ht)
  | .path steps => exact .operand (primary_path hinner he.2 ht hsize)
  | .group e => exact .operand (primary_group hinner he ht hsize)
  | .arithmetic op left right =>
    obtain ⟨⟨hleft, hright⟩, heleft, heright⟩ := he
    obtain ⟨l, before, s, after, r, hl, hbefore, rfl, hafter, hr, hapart, -, rfl⟩ := ht
    simp only [List.length_append] at hsize
    -- the sign belongs to this tier and to none that binds tighter
    have hsign : StartsWith (fun c => c ∈ operatorHeads op.strength ∧
        ∀ j < 3, op.strength < j → c ∉ operatorHeads j) [op.symbol] := by
      refine startsWith_cons ?_ []
      cases op <;> decide
    have hstrength : op.strength < 3 := by cases op <;> decide
    exact .node hstrength (placed_expression heleft hl (by omega)) hleft
      (placed_expression heright hr (by omega)) hright
      (joins_expression _ hsign (expressionOperator_arithmetic op) hbefore hafter
        (right.opens heright hr) hapart)
      fun _ _ hrest => hrest.of_append
  | .concat left right =>
    obtain ⟨hright, heleft, heright⟩ := he
    obtain ⟨l, before, s, after, r, hl, hbefore, rfl, hafter, hr, hapart, -, rfl⟩ := ht
    simp only [List.length_append] at hsize
    have hsign : StartsWith (fun c => c ∈ operatorHeads 0 ∧
        ∀ j < 3, 0 < j → c ∉ operatorHeads j) "||".toList :=
      ⟨'|', rfl, by decide, by decide⟩
    exact .node (Nat.zero_lt_succ 2) (placed_expression heleft hl (by omega)) (Nat.zero_le _)
      (placed_expression heright hr (by omega)) hright
      (joins_expression _ hsign expressionOperator_concat hbefore hafter
        (right.opens heright hr) hapart)
      fun _ _ hrest => hrest.of_append

/-- All of an expression is read where no operator and no part of its last operand comes next. -/
theorem expression_ok {e : Expression} {t text rest : List Char}
    (he : e.WellFormed Number.IsExact) (ht : e.WrittenAs t) (hsize : t.length ≤ size)
    (htext : skipSpaces text = t ++ rest) (hrest : Detached t rest)
    (hstops : ∀ k, (expressionOperator k).Fails (skipSpaces rest)) :
    expression inner text = .ok (e, skipSpaces rest) :=
  (placed_expression hinner he ht hsize).reads 0 (Nat.zero_le _) (Nat.zero_le _) text rest htext
    hrest fun k _ _ => hstops k

end

/-! ## The ladder of predicates -/

/-- The parsers of predicates, the loosest operator first. -/
def predicateTier (inner : Inner) : Nat → Parser Predicate
  | 0 => predicate inner
  | 1 => conjunction inner
  | _ => clause inner

/-- The operators of the tiers. -/
def predicateOperator : Nat → Parser (Predicate → Predicate → Predicate)
  | 0 => do keyword "or"; return .or
  | _ => do keyword "and"; return .and

/-- The tiers of predicates. -/
def predicateLadder {inner : Inner} (hinner : inner.LeavesSuffix) : Ladder Predicate where
  height := 2
  tier := predicateTier inner
  operator := predicateOperator
  tier_eq
    | 0, _ => rfl
    | 1, _ => rfl
  tier_advances
    | 0 => advances_predicate hinner
    | 1 => advances_conjunction hinner
    | _ + 2 => advances_clause hinner
  operator_advances
    | 0 => (advances_keyword (by decide)).bind fun _ => leavesSuffix_pure _
    | _ + 1 => (advances_keyword (by decide)).bind fun _ => leavesSuffix_pure _

/-- What comes after a clause is no part of its last operand, and does not begin with a sign. -/
structure AfterClause (t rest : List Char) : Prop where
  detached : Detached t rest
  no_operator : ∀ k, (expressionOperator k).Fails (skipSpaces rest)
  no_comparator : comparator.Fails (skipSpaces rest)

theorem AfterClause.of_append {l r rest : List Char} (h : AfterClause (l ++ r) rest) :
    AfterClause r rest :=
  ⟨h.detached.of_append, h.no_operator, h.no_comparator⟩

/-! ## Clauses -/

section

variable {inner : Inner} {size : Nat} (hinner : inner.ReadsBack size)

/-- A comparison fails where no sign comes after what is read as its left operand. -/
theorem comparison_fails {text : List Char}
    (h : (expression inner).Leaves text fun left => comparator.Fails (skipSpaces left)) :
    (comparison inner).Fails text :=
  fails_of_leaves (h.bind fun _ _ hleft => hleft.spaced.bind.leaves _)

include hinner

/-- The left operand of a comparison ends where its sign begins. -/
theorem expression_before_comparator {e : Expression} {l before text rest : List Char}
    (op : Comparator) (he : e.WellFormed Number.IsExact) (hl : e.WrittenAs l)
    (hsize : l.length ≤ size) (hbefore : IsGap before)
    (hapart : KeptApart l (before ++ op.symbol.toList))
    (htext : skipSpaces text = l ++ (before ++ (op.symbol.toList ++ rest))) :
    expression inner text = .ok (e, op.symbol.toList ++ rest) := by
  have hjoint := startsWith_symbol op
  have hskip := skipSpaces_joint hbefore hjoint rest
  rw [← hskip]
  refine expression_ok hinner he hl hsize htext (detached_of_joint hbefore hjoint hapart _) ?_
  rw [hskip]
  exact expressionOperator_fails_of_comparator op rest

/-- A comparison is read operand by operand. -/
theorem comparison_ok {left right : Expression} {op : Comparator} {t text rest : List Char}
    (hp : (Predicate.comparison left op right).WellFormed Number.IsExact)
    (ht : (Predicate.comparison left op right).WrittenAs t) (hsize : t.length ≤ size)
    (htext : skipSpaces text = t ++ rest) (hrest : AfterClause t rest) :
    comparison inner text = .ok (.comparison left op right, skipSpaces rest) := by
  obtain ⟨l, before, s, after, r, hl, hbefore, rfl, hafter, hr, hapart, -, rfl⟩ := ht
  simp only [List.length_append] at hsize
  simp only [List.append_assoc] at htext
  have hopens := (right.opens hp.2 hr).append rest
  have hleft := expression_before_comparator hinner op hp.1 hl (by omega) hbefore hapart htext
  have hsign := skipSpaces_of_begins
    ((begins_of_joint (startsWith_symbol op)).append (after ++ (r ++ rest)))
  have hread := comparator_ok op
    (not_mem_head_of_gap hafter hopens (by decide) (by decide))
  have hop : spaced comparator (op.symbol.toList ++ (after ++ (r ++ rest))) =
      .ok (op, r ++ rest) := by
    rw [spaced_ok (hsign.symm ▸ hread), skipSpaces_gap hafter (begins_of_opens hopens)]
  -- what comes after the comparison comes after its right operand
  have hdetached : Detached (l ++ before ++ op.symbol.toList ++ after ++ r) rest := by
    simpa only [List.append_assoc] using hrest.detached
  have hnext := expression_ok hinner hp.2 hr (by omega)
    (skipSpaces_of_begins (begins_of_opens hopens)) hdetached.of_append hrest.no_operator
  rw [comparison, bind_ok hleft, bind_ok hop, bind_ok hnext]
  rfl

theorem clause_comparison {left right : Expression} {op : Comparator} {t : List Char}
    (hp : (Predicate.comparison left op right).WellFormed Number.IsExact)
    (ht : (Predicate.comparison left op right).WrittenAs t) (hsize : t.length ≤ size) :
    (predicateLadder hinner.toLeavesSuffix).Reads AfterClause 2 (.comparison left op right) t := by
  intro text rest htext hrest _
  have hbegins := (begins_of_opens (Predicate.opens hp ht)).append rest
  have hread := comparison_ok hinner hp ht hsize (skipSpaces_of_begins hbegins) hrest
  refine spaced_ok_skipped ?_
  rw [htext]
  exact orElse_ok hread

/-- A predicate in parentheses that is read as an expression is read as one in parentheses. -/
theorem expression_leaves_group {p : Predicate} {t text rest : List Char}
    (hp : p.WellFormed Number.IsExact) (ht : (Predicate.group p).WrittenAs t)
    (hsize : t.length ≤ size) (htext : skipSpaces text = t ++ rest)
    (hstops : ∀ k, (expressionOperator k).Fails (skipSpaces rest)) :
    (expression inner).Leaves text fun left => left = skipSpaces rest := by
  obtain ⟨before, s, after, hbefore, hs, hafter, rfl⟩ := ht
  have hbegins := begins_of_opens (p.opens hp hs)
  have hinside := hinner.strays hp hs
    (by simp only [List.length_cons, List.length_append] at hsize; omega)
    (skipSpaces_of_begins (hbegins.append (after ++ ')' :: rest)))
    (enclosed_of_gap hafter (.inl rfl))
  have hgroup := parenthesized_leaves hbefore hbegins hafter hinside
  have hliteral : literal.Fails ('(' :: (before ++ (s ++ (after ++ [')']))) ++ rest) :=
    literal_fails_of_parenthesis rfl
  have hpath : (path inner).Fails ('(' :: (before ++ (s ++ (after ++ [')']))) ++ rest) :=
    path_fails (by simp; decide) (by simp)
  -- neither a literal nor a path begins with a parenthesis
  have hprimary : ((expressionLadder hinner.toLeavesSuffix).tier 3).Leaves text
      fun left => left = skipSpaces rest := by
    refine Leaves.spaced (htext ▸ ((hliteral.map _).leaves _).orElse
      ((hgroup.map _).orElse ((hpath.map _).leaves _))) fun left hleft => ?_
    rw [hleft, skipSpaces_skipSpaces]
  exact Ladder.leaves_descend (Nat.le_refl 3) (Nat.zero_le 3) hprimary fun k _ _ => hstops k

theorem clause_group {p : Predicate} {t : List Char} (hp : p.WellFormed Number.IsExact)
    (ht : (Predicate.group p).WrittenAs t) (hsize : t.length ≤ size) :
    (predicateLadder hinner.toLeavesSuffix).Reads AfterClause 2 (.group p) t := by
  intro text rest htext hrest _
  have hbegins := begins_of_opens (Predicate.opens (p := .group p) hp ht)
  -- the text may be read as an expression, but no sign of a comparison comes after it
  have hcomparison : (comparison inner).Fails (t ++ rest) := by
    refine comparison_fails fun a left hrun => ?_
    obtain rfl := expression_leaves_group hinner hp ht hsize
      (skipSpaces_of_begins (hbegins.append rest)) hrest.no_operator a left hrun
    simp only [skipSpaces_skipSpaces]
    exact hrest.no_comparator
  obtain ⟨before, s, after, hbefore, hs, hafter, rfl⟩ := ht
  have hbegins := begins_of_opens (p.opens hp hs)
  have hinside := hinner.reads_predicate hp hs
    (by simp only [List.length_cons, List.length_append] at hsize; omega)
    (skipSpaces_of_begins (hbegins.append (after ++ ')' :: rest)))
    (enclosed_of_gap hafter (.inl rfl))
  have hgroup := parenthesized_ok hbefore hbegins hafter hinside
  refine spaced_ok_skipped ?_
  rw [htext, orElse_next hcomparison]
  exact orElse_ok (map_ok _ hgroup)

/-- A path alone is read as a clause that prunes. -/
theorem clause_prune {path : Path} {t : List Char}
    (hp : (Predicate.prune path).WellFormed Number.IsExact) (ht : path.WrittenAs t)
    (hsize : t.length ≤ size) :
    (predicateLadder hinner.toLeavesSuffix).Reads AfterClause 2 (.prune path) t := by
  intro text rest htext hrest _
  have hbegins := begins_of_opens ((path.opens hp.2 ht).append rest)
  have hstart := ((path.startsWith hp.2 ht).append rest).head
  -- as an expression the path is read whole, and no sign of a comparison comes after it
  have hcomparison : (comparison inner).Fails (t ++ rest) := by
    have hread := expression_ok hinner (e := .path path)
      ⟨fun hnil => by simp [hnil, Path.WrittenAs, StepsWrittenAs] at ht, hp.2⟩ ht hsize
      (skipSpaces_of_begins hbegins) hrest.detached hrest.no_operator
    refine comparison_fails (leaves_of_ok hread ?_)
    rw [skipSpaces_skipSpaces]
    exact hrest.no_comparator
  have hgroup : (parenthesized inner.predicate).Fails (t ++ rest) := by
    refine parenthesized_fails ?_
    rw [skipSpaces_of_begins hbegins]
    exact fun hc => absurd (hstart _ hc) (by decide)
  refine spaced_ok ?_
  rw [htext, orElse_next hcomparison, orElse_next (hgroup.map _)]
  exact map_ok _ (accepting_ok (path_ok hinner hp.2 ht hsize hrest.detached) hp.1)

omit hinner in
/-- No sign of an expression or a comparison stands where a word does. -/
theorem afterClause_of_word {w : String} {l before s : List Char} (hw : IsWord w)
    (hs : sameWord w.toList s) (hbefore : IsGap before) (hapart : KeptApart l (before ++ s))
    (rest : List Char) : AfterClause l (before ++ (s ++ rest)) := by
  have hjoint := isJoint_of_word hw hs
  have hhead := ((hw.startsWith hs).append rest).head
  have hskip := skipSpaces_joint hbefore hjoint rest
  refine ⟨detached_of_joint hbefore hjoint hapart rest, fun k => ?_, ?_⟩
  · rw [hskip]
    refine expressionOperator_fails fun c hc hmem => ?_
    have hsigns := mem_of_mem_operatorHeads hmem
    simp only [List.mem_cons, List.not_mem_nil, or_false] at hsigns
    -- a word begins with a letter, and no sign does
    rcases hsigns with rfl | rfl | rfl | rfl | rfl <;> exact absurd (hhead _ hc) (by decide)
  · rw [hskip]
    refine comparator_fails fun c hc hmem => ?_
    simp only [comparatorHeads, List.mem_cons, List.not_mem_nil, or_false] at hmem
    rcases hmem with rfl | rfl | rfl | rfl | rfl <;> exact absurd (hhead _ hc) (by decide)

omit hinner in
/-- A word between two texts is read as its operator, and as no tighter one. -/
theorem joins_predicate (hleaves : inner.LeavesSuffix) {k : Nat} {w : String}
    {join : Predicate → Predicate → Predicate} {l before s after r : List Char} (hw : IsWord w)
    (hs : sameWord w.toList s)
    (hreads : ∀ rest, KeptApart s rest → predicateOperator k (s ++ rest) = .ok (join, rest))
    (htighter : ∀ j < 2, k < j → ∀ rest, KeptApart s rest →
      (predicateOperator j).Fails (s ++ rest))
    (hbefore : IsGap before) (hafter : IsGap after) (hr : Opens r)
    (hapart : KeptApart l (before ++ s)) (hapart' : KeptApart s (after ++ r)) :
    Ladder.Joins (predicateLadder hleaves) AfterClause k join l before s after r := by
  have hbegins := begins_of_joint (isJoint_of_word hw hs)
  -- the word is kept apart from its right operand, whatever comes after that
  have hrest (rest : List Char) : KeptApart s (after ++ (r ++ rest)) := by
    rw [← List.append_assoc]
    exact hapart'.append (by simp [hr.ne_nil]) rest
  refine ⟨hbefore, hbegins, hafter, begins_of_opens hr, fun rest => hreads _ (hrest rest),
    fun rest j hj hlt => ?_, fun rest => afterClause_of_word hw hs hbefore hapart _⟩
  rw [skipSpaces_of_begins (hbegins.append _)]
  exact htighter j hlt hj _ (hrest rest)

/-- **Predicates are read back with their precedence**: on every tier up to their strength. -/
theorem placed_predicate {p : Predicate} {t : List Char} (hp : p.WellFormed Number.IsExact)
    (ht : p.WrittenAs t) (hsize : t.length ≤ size) :
    (predicateLadder hinner.toLeavesSuffix).Placed AfterClause p.strength p t := by
  match p with
  | .comparison left op right => exact .operand (clause_comparison hinner hp ht hsize)
  | .group p => exact .operand (clause_group hinner hp ht hsize)
  | .prune steps => exact .operand (clause_prune hinner hp ht hsize)
  | .and left right =>
    obtain ⟨⟨hleft, hright⟩, hpleft, hpright⟩ := hp
    obtain ⟨l, before, s, after, r, hl, hbefore, hs, hafter, hr, hapart, hapart', rfl⟩ := ht
    simp only [List.length_append] at hsize
    have hword : IsWord "and" := by decide
    have hreads (rest : List Char) (hrest : KeptApart s rest) :
        predicateOperator 1 (s ++ rest) = .ok (.and, rest) := bind_ok (keyword_ok hword hs hrest)
    -- no operator binds tighter than `and`
    have hjoins := joins_predicate hinner.toLeavesSuffix hword hs hreads
      (fun j hlt hj => by omega) hbefore hafter (right.opens hpright hr) hapart hapart'
    exact .node (Nat.lt_succ_self 1) (placed_predicate hpleft hl (by omega)) hleft
      (placed_predicate hpright hr (by omega)) hright hjoins fun _ _ hrest => hrest.of_append
  | .or left right =>
    obtain ⟨hright, hpleft, hpright⟩ := hp
    obtain ⟨l, before, s, after, r, hl, hbefore, hs, hafter, hr, hapart, hapart', rfl⟩ := ht
    simp only [List.length_append] at hsize
    have hword : IsWord "or" := by decide
    have hreads (rest : List Char) (hrest : KeptApart s rest) :
        predicateOperator 0 (s ++ rest) = .ok (.or, rest) := bind_ok (keyword_ok hword hs hrest)
    have htighter : ∀ j < 2, 0 < j → ∀ rest, KeptApart s rest →
        (predicateOperator j).Fails (s ++ rest) := by
      -- the only tighter one is `and`, another word
      intro j hlt hj rest hrest
      obtain rfl : j = 1 := by omega
      exact (keyword_fails_of_word (by decide) hword (by decide) hs hrest).bind
    have hjoins := joins_predicate hinner.toLeavesSuffix hword hs hreads htighter
      hbefore hafter (right.opens hpright hr) hapart hapart'
    exact .node (Nat.zero_lt_succ 1) (placed_predicate hpleft hl (by omega)) (Nat.zero_le _)
      (placed_predicate hpright hr (by omega)) hright hjoins fun _ _ hrest => hrest.of_append

omit hinner in
/-- Neither all nor a part of what stands before a word is followed by a closing parenthesis. -/
theorem no_parenthesis_before_word {w : String} {before s left rest : List Char} (hw : IsWord w)
    (hs : sameWord w.toList s) (hbefore : IsGap before)
    (hleft : left = skipSpaces (before ++ (s ++ rest)) ∨ ')' ∉ (skipSpaces left).head?) :
    ')' ∉ (skipSpaces left).head? := by
  rcases hleft with rfl | hleft
  · rw [skipSpaces_skipSpaces]
    exact not_mem_head_of_joint hbefore (isJoint_of_word hw hs) (by decide) rest
  · exact hleft

/-- What is read as an expression of a predicate is all of it, or no closing parenthesis comes
next. -/
theorem expression_strays {p : Predicate} {t text rest : List Char}
    (hp : p.WellFormed Number.IsExact) (ht : p.WrittenAs t) (hsize : t.length ≤ size)
    (htext : skipSpaces text = t ++ rest) (hrest : AfterClause t rest) :
    (expression inner).Leaves text fun left =>
      left = skipSpaces rest ∨ ')' ∉ (skipSpaces left).head? := by
  match p with
  | .comparison left op right =>
    -- the left operand is read, and the sign that comes next is no parenthesis
    obtain ⟨l, before, s, after, r, hl, hbefore, rfl, -, -, hapart, -, rfl⟩ := ht
    simp only [List.length_append] at hsize
    simp only [List.append_assoc] at htext
    have hleft := expression_before_comparator hinner op hp.1 hl (by omega) hbefore hapart htext
    have hsign := not_mem_head_of_joint isGap_nil (startsWith_symbol op) (c := ')') (by decide)
    exact leaves_of_ok hleft (.inr (hsign _))
  | .and left _ =>
    obtain ⟨l, before, s, after, r, hl, hbefore, hs, -, -, hapart, -, rfl⟩ := ht
    simp only [List.length_append] at hsize
    simp only [List.append_assoc] at htext
    have hword : IsWord "and" := by decide
    -- the left operand may be read whole, but then the word comes next
    have hafter := afterClause_of_word hword hs hbefore hapart (after ++ (r ++ rest))
    exact (expression_strays hp.2.1 hl (by omega) htext hafter).mono fun _ hleft =>
      .inr (no_parenthesis_before_word hword hs hbefore hleft)
  | .or left _ =>
    obtain ⟨l, before, s, after, r, hl, hbefore, hs, -, -, hapart, -, rfl⟩ := ht
    simp only [List.length_append] at hsize
    simp only [List.append_assoc] at htext
    have hword : IsWord "or" := by decide
    have hafter := afterClause_of_word hword hs hbefore hapart (after ++ (r ++ rest))
    exact (expression_strays hp.2.1 hl (by omega) htext hafter).mono fun _ hleft =>
      .inr (no_parenthesis_before_word hword hs hbefore hleft)
  | .group p =>
    exact (expression_leaves_group hinner (p := p) hp ht hsize htext hrest.no_operator).mono
      fun _ => .inl
  | .prune steps =>
    -- the path is read as an expression that is a path alone
    have hpath := Path.WrittenAs.ne_nil ht
    exact leaves_of_ok (expression_ok hinner (e := .path steps) ⟨hpath, hp.2⟩ ht hsize htext
      hrest.detached hrest.no_operator) (.inl rfl)

end

/-! ## However deep -/

/-- The end of the brackets ends every clause. -/
theorem afterClause_of_enclosed {rest : List Char} (h : Enclosed rest) (t : List Char) :
    AfterClause t rest := by
  refine ⟨h.detached t, fun k => expressionOperator_fails fun c hc hmem => ?_,
    comparator_fails fun c hc hmem => ?_⟩
  · have hsigns := mem_of_mem_operatorHeads hmem
    rcases h c hc with rfl | rfl <;> exact absurd hsigns (by decide)
  · rcases h c hc with rfl | rfl <;> exact absurd hmem (by decide)

/-- No word joins on behind the end of the brackets. -/
theorem stops_of_enclosed {inner : Inner} (hinner : inner.LeavesSuffix) {rest : List Char}
    (h : Enclosed rest) : (predicateLadder hinner).Stops 0 rest := by
  have hhead : ∀ c ∈ (skipSpaces rest).head?, ¬c.isAlpha := by
    intro c hc
    rcases h c hc with rfl | rfl <;> decide
  intro k _ _
  match k with
  | 0 => exact (keyword_fails_of_head (by decide) hhead).bind
  | _ + 1 => exact (keyword_fails_of_head (by decide) hhead).bind

/-- All of a predicate is read up to the end of the brackets. -/
theorem predicate_ok {inner : Inner} {size : Nat} (hinner : inner.ReadsBack size) {p : Predicate}
    {t text rest : List Char} (hp : p.WellFormed Number.IsExact) (ht : p.WrittenAs t)
    (hsize : t.length ≤ size) (htext : skipSpaces text = t ++ rest) (hrest : Enclosed rest) :
    predicate inner text = .ok (p, skipSpaces rest) :=
  (placed_predicate hinner hp ht hsize).reads 0 (Nat.zero_le _) (Nat.zero_le _) text rest htext
    (afterClause_of_enclosed hrest t) (stops_of_enclosed _ hrest)

/-- **What applies inside `depth` brackets reads back all texts shorter than that.** -/
theorem readsBack_inner (depth : Nat) : (Grammar.inner depth).ReadsBack depth := by
  induction depth with
  | zero =>
    -- no text is that short
    exact ⟨⟨leavesSuffix_fail _, leavesSuffix_fail _⟩, fun _ _ h => absurd h (Nat.not_lt_zero _),
      fun _ _ h => absurd h (Nat.not_lt_zero _), fun _ _ h => absurd h (Nat.not_lt_zero _)⟩
  | succ depth ih =>
    refine ⟨⟨(advances_predicate ih.toLeavesSuffix).leavesSuffix,
      (advances_expression ih.toLeavesSuffix).leavesSuffix⟩, ?_, ?_, ?_⟩
    · -- each of the three facts is what the tiers say of one bracket more
      intro e t text rest he ht hsize htext hrest
      exact expression_ok ih he ht (Nat.le_of_lt_succ hsize) htext (hrest.detached t)
        (afterClause_of_enclosed hrest t).no_operator
    · intro p t text rest hp ht hsize htext hrest
      exact predicate_ok ih hp ht (Nat.le_of_lt_succ hsize) htext hrest
    · intro p t text rest hp ht hsize htext hrest
      have hafter := afterClause_of_enclosed hrest t
      exact expression_strays ih hp ht (Nat.le_of_lt_succ hsize) htext hafter

end Reshape.Grammar
