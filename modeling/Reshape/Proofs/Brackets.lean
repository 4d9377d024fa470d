import Reshape.Proofs.Operands

/-!
# Paths are read back

The brackets of a path lead back to the parser of predicates. `Inner.ReadsBack bound` says that what
applies inside brackets reads back every tree with a text shorter than `bound`, and then paths are
read back whose texts are no longer than that. Nor is a predicate in brackets taken for an index,
although both may begin with digits.
-/

namespace Reshape

open Reshape.Parser Reshape.Text

namespace Grammar

/-- Inside brackets, every tree with a text shorter than `bound` is read back. -/
structure Inner.ReadsBack (inner : Inner) (bound : Nat) : Prop extends inner.LeavesSuffix where
  reads_expression : ∀ {e : Expression} {t text rest : List Char}, e.WellFormed Number.IsExact →
    e.WrittenAs t → t.length < bound → skipSpaces text = t ++ rest → Enclosed rest →
    inner.expression text = .ok (e, skipSpaces rest)
  reads_predicate : ∀ {p : Predicate} {t text rest : List Char}, p.WellFormed Number.IsExact →
    p.WrittenAs t → t.length < bound → skipSpaces text = t ++ rest → Enclosed rest →
    inner.predicate text = .ok (p, skipSpaces rest)
  /-- Of a predicate, an expression is all or something that no closing parenthesis comes after. -/
  strays : ∀ {p : Predicate} {t text rest : List Char}, p.WellFormed Number.IsExact →
    p.WrittenAs t → t.length < bound → skipSpaces text = t ++ rest → Enclosed rest →
    inner.expression.Leaves text fun left => left = skipSpaces rest ∨ ')' ∉ (skipSpaces left).head?

/-! ## Indexes and predicates in brackets -/

section

variable {t rest text : List Char}

/-- Something that a closing bracket comes after. -/
theorem closed_ok {α β : Type} {p : Parser α} {f : α → β} {a : α}
    (h : p text = .ok (a, ']' :: rest)) :
    (do let a ← p; let _ ← char ']'; return f a : Parser β) text = .ok (f a, rest) := by
  rw [bind_ok h, bind_ok (char_ok ']' rest)]
  rfl

theorem closed_fails {α β : Type} {p : Parser α} {f : α → β}
    (h : p.Leaves text fun left => ']' ∉ left.head?) :
    (do let a ← p; let _ ← char ']'; return f a : Parser β).Fails text := by
  refine fails_of_leaves (h.bind fun a left hleft => ?_)
  exact (char_fails hleft).bind.leaves _

theorem index_leaves_of_head (h : ∀ c ∈ text.head?, ¬c.isDigit) (description : List Char → Prop) :
    index.Leaves text description := by
  obtain ⟨e, he⟩ := digits_fails h
  exact Fails.leaves ⟨e, by rw [index, he]⟩ description

theorem index_leaves_of_startsWith {description : Char → Prop} (ht : StartsWith description t)
    (hdescription : ∀ c, description c → ¬c.isDigit) (left : List Char → Prop) :
    index.Leaves (t ++ rest) left :=
  index_leaves_of_head ((ht.append rest).mono hdescription).head left

theorem index_leaves_literal {value : Literal} (hvalue : value.WellFormed Number.IsExact)
    (ht : value.WrittenAs t) (hrest : Detached t rest)
    (hclosing : ']' ∉ (skipSpaces rest).head?) :
    index.Leaves (t ++ rest) fun left => ']' ∉ (skipSpaces left).head? := by
  rcases value.startsWith hvalue ht with hstart | ⟨n, rfl⟩
  · refine index_leaves_of_startsWith hstart (fun c hc hdigit => ?_) _
    rcases hc with halpha | rfl | rfl
    · have hstart := isNameStart_of_isAlpha halpha
      simp [not_isNameStart_of_isDigit hdigit] at hstart
    · exact absurd hdigit (by decide)
    · exact absurd hdigit (by decide)
  · obtain ⟨negative, m, hwrite, -⟩ := write_int n
    have hend := hrest.endsNumber (endsWith_write n)
    rw [hwrite]
    cases negative with
    | true => exact index_leaves_of_head (by simp) _
    | false =>
      -- all digits are read, and the bracket does not come after them
      intro k left hrun
      rw [if_neg Bool.false_ne_true, List.nil_append, index,
        digits_ok isDigit_toDigits Nat.toDigits_ne_nil hend.no_digit] at hrun
      simp only at hrun
      split at hrun
      · obtain ⟨-, rfl⟩ := Prod.mk.inj (Except.ok.inj hrun)
        exact hclosing
      · exact absurd hrun (by simp)

/-- An expression is not an index that a closing bracket comes after. -/
theorem index_leaves_expression {e : Expression} {t rest : List Char}
    (he : e.WellFormed Number.IsExact) (ht : e.WrittenAs t) (hrest : Detached t rest)
    (hclosing : ']' ∉ (skipSpaces rest).head?) :
    index.Leaves (t ++ rest) fun left => ']' ∉ (skipSpaces left).head? := by
  match e with
  | .literal value => exact index_leaves_literal he ht hrest hclosing
  | .path steps =>
    exact index_leaves_of_startsWith (Path.startsWith he.2 ht)
      (fun c hc hdigit => by simp [not_isNameStart_of_isDigit hdigit] at hc) _
  | .arithmetic op left _ =>
    obtain ⟨l, before, s, after, r, hl, hbefore, rfl, -, -, hapart, -, rfl⟩ := ht
    have hs : StartsWith (fun c => isJoint c) [op.symbol] :=
      startsWith_cons (by cases op <;> decide) []
    simp only [List.append_assoc]
    exact index_leaves_expression he.2.1 hl (detached_of_joint hbefore hs hapart _)
      (not_mem_head_of_joint hbefore hs (by decide) _)
  | .concat left _ =>
    obtain ⟨l, before, s, after, r, hl, hbefore, rfl, -, -, hapart, -, rfl⟩ := ht
    have hs : StartsWith (fun c => isJoint c) "||".toList := startsWith_cons (by decide) _
    simp only [List.append_assoc]
    exact index_leaves_expression he.2.1 hl (detached_of_joint hbefore hs hapart _)
      (not_mem_head_of_joint hbefore hs (by decide) _)
  | .group _ =>
    have hopening := WrittenWithin.startsWith ht
    exact index_leaves_of_startsWith hopening (fun c hc => by rw [hc]; decide) _

/-- A predicate is not an index that a closing bracket comes after. -/
theorem index_leaves_predicate {p : Predicate} {t : List Char}
    (hp : p.WellFormed Number.IsExact) (ht : p.WrittenAs t) (rest : List Char) :
    index.Leaves (t ++ rest) fun left => ']' ∉ (skipSpaces left).head? := by
  match p with
  | .comparison left op _ =>
    obtain ⟨l, before, s, after, r, hl, hbefore, rfl, -, -, hapart, -, rfl⟩ := ht
    have hs : StartsWith (fun c => isJoint c) op.symbol.toList := startsWith_symbol op
    simp only [List.append_assoc]
    exact index_leaves_expression hp.1 hl (detached_of_joint hbefore hs hapart _)
      (not_mem_head_of_joint hbefore hs (by decide) _)
  | .and left _ =>
    obtain ⟨l, _, _, _, _, hl, _, _, _, _, _, _, rfl⟩ := ht
    rw [List.append_assoc]
    exact index_leaves_predicate hp.2.1 hl _
  | .or left _ =>
    obtain ⟨l, _, _, _, _, hl, _, _, _, _, _, _, rfl⟩ := ht
    rw [List.append_assoc]
    exact index_leaves_predicate hp.2.1 hl _
  | .group _ =>
    have hopening := WrittenWithin.startsWith ht
    exact index_leaves_of_startsWith hopening (fun c hc => by rw [hc]; decide) _
  | .prune steps =>
    exact index_leaves_of_startsWith (Path.startsWith hp.2 ht)
      (fun c hc hdigit => by simp [not_isNameStart_of_isDigit hdigit] at hc) _

end

section

variable {inner : Inner} {size : Nat} {text : List Char} (hinner : inner.ReadsBack size)
include hinner

/-! ## Paths -/

theorem selector_ok {selector : Selector} {t rest : List Char}
    (hselector : selector.WellFormed Number.IsExact) (ht : selector.WrittenAs t)
    (hwhole : selector ≠ .whole) (hsize : t.length ≤ size) :
    Grammar.selector inner (t ++ rest) = .ok (selector, rest) := by
  rw [Grammar.selector]
  match selector with
  | .whole => exact absurd rfl hwhole
  | .each =>
    obtain ⟨before, t, after, hbefore, rfl, hafter, rfl⟩ := ht
    have hskip : skipSpaces (before ++ (after ++ ']' :: rest)) = ']' :: rest := by
      rw [← List.append_assoc]
      exact skipSpaces_gap (hbefore.append hafter) (startsWith_cons (by decide) rest)
    simp only [List.cons_append, List.append_assoc, List.nil_append]
    rw [bind_ok (char_ok '[' _)]
    exact orElse_ok (closed_ok (f := fun _ => Selector.each) (by rw [spaces_ok, hskip]))
  | .at n =>
    obtain ⟨before, t, after, hbefore, rfl, hafter, rfl⟩ := ht
    have hdigits := (startsWith_toDigits n).append (after ++ ']' :: rest)
    have hskip : skipSpaces (before ++ (Nat.toDigits 10 n ++ (after ++ ']' :: rest))) =
        Nat.toDigits 10 n ++ (after ++ ']' :: rest) :=
      skipSpaces_gap hbefore (hdigits.mono fun _ => not_isSpace_of_isDigit)
    have hend : skipSpaces (after ++ ']' :: rest) = ']' :: rest :=
      skipSpaces_gap hafter (startsWith_cons (by decide) rest)
    have hindex : index (Nat.toDigits 10 n ++ (after ++ ']' :: rest)) =
        .ok (n, after ++ ']' :: rest) :=
      index_ok hselector
        (((enclosed_of_gap hafter (.inr rfl)).detached _).endsNumber (endsWith_toDigits n)).no_digit
    simp only [List.cons_append, List.append_assoc, List.nil_append]
    rw [bind_ok (char_ok '[' _), orElse_next]
    -- the index is read in second place; a pair of brackets with nothing in it would come first
    · exact orElse_ok (closed_ok (by rw [spaced_ok (hskip.symm ▸ hindex), hend]))
    · refine closed_fails (leaves_of_ok (spaces_ok _) fun hclosing => ?_)
      rw [hskip] at hclosing
      exact absurd (hdigits.head _ hclosing) (by decide)
  | .matching p =>
    obtain ⟨before, t, after, hbefore, ht, hafter, rfl⟩ := ht
    have hopens := (p.opens hselector ht).append (after ++ ']' :: rest)
    have hskip : skipSpaces (before ++ (t ++ (after ++ ']' :: rest))) =
        t ++ (after ++ ']' :: rest) :=
      skipSpaces_gap hbefore (begins_of_opens hopens)
    have hend : skipSpaces (after ++ ']' :: rest) = ']' :: rest :=
      skipSpaces_gap hafter (startsWith_cons (by decide) rest)
    -- the brackets themselves make the text inside shorter
    have hsize : t.length < size := by
      simp only [List.length_cons, List.length_append] at hsize
      omega
    simp only [List.cons_append, List.append_assoc, List.nil_append]
    rw [bind_ok (char_ok '[' _), orElse_next, orElse_next]
    · refine closed_ok ?_
      rw [hinner.reads_predicate hselector ht hsize hskip (enclosed_of_gap hafter (.inr rfl)), hend]
    · refine closed_fails (Leaves.spaced ?_ fun left hleft => hleft)
      rw [hskip]
      exact index_leaves_predicate hselector ht _
    · refine closed_fails (leaves_of_ok (spaces_ok _) ?_)
      rw [hskip]
      exact head_ne_of_opens hopens (by decide)

omit hinner in
/-- A name ends where its selector begins, or with the step. -/
theorem name_ends {n : String} {selector : Selector} {s rest : List Char} (hn : IsName n)
    (hs : selector.WrittenAs s) (hrest : KeptApart (n.toList ++ s) rest) :
    ∀ c ∈ (s ++ rest).head?, ¬isNameChar c := by
  by_cases hwhole : selector = .whole
  · subst hwhole
    obtain rfl : s = [] := hs
    rw [List.append_nil] at hrest
    exact hrest.head hn.endsWith
  · intro c hc
    rw [((selector.startsWith hwhole hs).append rest).head c hc]
    decide

theorem segment_ok {step : Segment} {t rest : List Char} (hstep : step.WellFormed Number.IsExact)
    (ht : step.WrittenAs t) (hsize : t.length ≤ size) (hrest : KeptApart t rest)
    (hbracket : '[' ∉ rest.head?) : segment inner (t ++ rest) = .ok (step, rest) := by
  match step with
  | .mk n selector =>
    obtain ⟨s, hs, rfl⟩ := ht
    rw [List.append_assoc, segment, bind_ok (name_ok hstep.1 (name_ends hstep.1 hs hrest))]
    by_cases hwhole : selector = .whole
    · subst hwhole
      obtain rfl : s = [] := hs
      have hnone : (Grammar.selector inner).Fails rest := (char_fails hbracket).bind
      rw [List.nil_append, bind_ok (optional_none hnone)]
      rfl
    · rw [List.length_append] at hsize
      have hselector : Grammar.selector inner (s ++ rest) = .ok (selector, rest) :=
        selector_ok hinner hstep.2 hs hwhole (by omega)
      rw [bind_ok (optional_ok hselector)]
      rfl

omit hinner in
/-- More steps begin with a dot, which is no part of the step before. -/
theorem apart_of_steps {steps : List Segment} {s more rest : List Char}
    (hmore : StepsWrittenAs steps more) (hrest : Detached (s ++ more) rest) :
    KeptApart s (more ++ rest) ∧ '[' ∉ (more ++ rest).head? := by
  match steps with
  | [] =>
    obtain rfl : more = [] := hmore
    rw [List.append_nil] at hrest
    exact ⟨hrest.apart, hrest.no_bracket⟩
  | _ :: _ =>
    obtain ⟨s', more, -, -, rfl⟩ := hmore
    refine ⟨keptApart_of_head (fun c hc => ?_) s, fun hc => ?_⟩
    · obtain rfl : '.' = c := Option.some.inj hc
      decide
    · exact absurd (Option.some.inj hc) (by decide)

theorem steps_ok {steps : List Segment} {t rest : List Char}
    (hsteps : StepsWellFormed Number.IsExact steps) (ht : StepsWrittenAs steps t)
    (hsize : t.length ≤ size) (hrest : Detached t rest) :
    many (char '.' *> segment inner) (t ++ rest) = .ok (steps, rest) := by
  have hconsumes : (char '.' *> segment inner).Consumes :=
    ((advances_char '.').seqRight
      (advances_segment hinner.toLeavesSuffix).leavesSuffix).consumes
  match steps with
  | [] =>
    obtain rfl : t = [] := ht
    exact many_done hconsumes (char_fails hrest.no_dot).seqRight
  | step :: steps =>
    obtain ⟨s, more, hs, hmore, rfl⟩ := ht
    have hrest' : Detached (s ++ more) rest := hrest.of_append (l := ['.'])
    obtain ⟨hapart, hbracket⟩ := apart_of_steps hmore hrest'
    simp only [List.length_cons, List.length_append] at hsize
    have hstep := segment_ok hinner hsteps.1 hs (by omega) hapart hbracket
    have hsteps := steps_ok hsteps.2 hmore (by omega) hrest'.of_append
    rw [List.cons_append, List.append_assoc]
    exact many_next hconsumes ((seqRight_ok (char_ok '.' _)).trans hstep) hsteps

theorem path_ok {path : Path} {t rest : List Char}
    (hpath : StepsWellFormed Number.IsExact path) (ht : path.WrittenAs t) (hsize : t.length ≤ size)
    (hrest : Detached t rest) : Grammar.path inner (t ++ rest) = .ok (path, rest) := by
  have hbracket : '[' ∉ (t ++ rest).head? :=
    head_ne_of_opens ((path.opens hpath ht).append rest) (by decide)
  obtain ⟨n, selector, steps, s, more, rfl, hs, hmore, rfl⟩ := ht.steps
  obtain ⟨hapart, hbracket'⟩ := apart_of_steps hmore hrest
  rw [List.length_append] at hsize
  have hstep := segment_ok hinner hpath.1 ⟨s, hs, rfl⟩ (by omega) hapart hbracket'
  have hsteps := steps_ok hinner hpath.2 hmore (by omega) hrest.of_append
  rw [Grammar.path, bind_ok (optional_none (sign_fails_of_head rfl hbracket).bind),
    List.append_assoc, sepBy1, bind_ok hstep, bind_ok hsteps]
  rfl

omit hinner in
theorem path_fails (hname : ∀ c ∈ text.head?, ¬isNameStart c) (hbracket : '[' ∉ text.head?) :
    (Grammar.path inner).Fails text := by
  have hfails : name.Fails text := ((satisfy_fails hname).bind.accepting _).map _
  exact bind_fails (optional_none (sign_fails_of_head rfl hbracket).bind) hfails.bind.bind

omit hinner in
/-- No word is read where a path begins, even if its first name begins with one. -/
theorem words_fail_of_path {path : Path} {t rest : List Char} {numbers : Number → Prop}
    (hpath : StepsWellFormed numbers path) (ht : path.WrittenAs t) (hrest : Detached t rest) :
    ∀ w ∈ reservedWords, (keyword w).Fails (t ++ rest) := by
  obtain ⟨n, selector, steps, s, more, rfl, hs, hmore, rfl⟩ := ht.steps
  obtain ⟨hapart, -⟩ := apart_of_steps hmore hrest
  intro w hw
  have hends := name_ends hpath.1.1 hs hapart
  rw [List.append_assoc, List.append_assoc]
  exact keyword_fails_of_name hw hpath.1.1 hends

end

end Grammar

end Reshape
