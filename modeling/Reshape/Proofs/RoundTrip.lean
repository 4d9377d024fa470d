import Reshape.Proofs.Precedence
import Reshape.Syntax.Reading

/-!
# Statements are read back

A statement that is written down, in whatever way, is read as the statement it was. Reading a
statement looks at its text twice: once for the verb before the first arrow, without the grammar,
and once with it. Both skip the blanks at the ends, so besides the grammar there are two things to
see: that a text ends where its last token does, and that the first arrow is the one after the verb.
-/

namespace Reshape

open Reshape.Parser Reshape.Text Reshape.Grammar

/-! ## Last characters -/

/-- The text ends with something else than a blank. -/
abbrev Closes (t : List Char) : Prop := EndsWith (fun c => ¬isBlank c) t

theorem closes_of_isNameChar {t : List Char} (h : EndsWith (fun c => isNameChar c) t) :
    Closes t :=
  h.mono fun _ => not_isBlank_of_isNameChar

theorem closes_of_word {word : String} {t : List Char} (hword : IsWord word)
    (ht : sameWord word.toList t) : Closes t :=
  closes_of_isNameChar (endsWith_of_forall (hword.ne_nil ht) (hword.isNameChar ht))

theorem closes_append_singleton {c : Char} (h : ¬isBlank c) (t : List Char) : Closes (t ++ [c]) :=
  EndsWith.append_left ⟨c, rfl, h⟩ t

/-- A text in brackets ends with the closing one. -/
theorem closes_of_writtenWithin {opening closing : Char} {inner : List Char → Prop} {t : List Char}
    (h : WrittenWithin opening closing inner t) (hclosing : ¬isBlank closing) : Closes t :=
  h.endsWith.mono fun _ hc => hc ▸ hclosing

/-- A literal ends with a letter, a digit or a quote. -/
theorem Literal.closes {value : Literal} {t : List Char} (hvalue : value.WellFormed Number.IsExact)
    (ht : value.WrittenAs t) : Closes t := by
  match value with
  | .null => exact closes_of_word (by decide) ht
  | .bool true => exact closes_of_word (by decide) ht
  | .bool false => exact closes_of_word (by decide) ht
  | .number (.int n) =>
    obtain rfl : t = (Number.int n).write := ht
    exact closes_of_isNameChar (endsWith_write n)
  | .string s =>
    obtain ⟨quote, hquote, -, rfl⟩ := ht
    refine closes_append_singleton (t := quote :: s.toList) ?_
    -- either quote is no blank
    rcases hquote with rfl | rfl <;> decide

/-- A step ends with its name or a bracket. -/
theorem Segment.closes {step : Segment} {t : List Char} {numbers : Number → Prop}
    (hstep : step.WellFormed numbers) (ht : step.WrittenAs t) : Closes t := by
  match step with
  | .mk n selector =>
    obtain ⟨s, hs, rfl⟩ := ht
    -- without a selector the name comes last, otherwise a bracket
    match selector with
    | .whole =>
      obtain rfl : s = [] := hs
      rw [List.append_nil]
      exact closes_of_isNameChar hstep.1.endsWith
    | .each | .at _ | .matching _ =>
      exact (closes_of_writtenWithin hs (by decide)).append_left n.toList

theorem closes_of_steps {steps : List Segment} {t : List Char} {numbers : Number → Prop}
    (hsteps : StepsWellFormed numbers steps) (ht : StepsWrittenAs steps t) (hne : steps ≠ []) :
    Closes t := by
  match steps with
  | [] => exact absurd rfl hne
  | [step] =>
    obtain ⟨s, more, hs, rfl, rfl⟩ := ht
    rw [List.append_nil]
    exact (step.closes hsteps.1 hs).append_left ['.']
  | step :: next :: steps =>
    obtain ⟨s, more, hs, hmore, rfl⟩ := ht
    exact (closes_of_steps hsteps.2 hmore (List.cons_ne_nil _ _)).append_left ('.' :: s)

theorem Path.closes {path : Path} {t : List Char} {numbers : Number → Prop}
    (hpath : StepsWellFormed numbers path) (ht : path.WrittenAs t) : Closes t :=
  (closes_of_steps hpath ht ht.ne_nil).of_append (l := ['.']) (path.startsWith hpath ht).ne_nil

/-- An expression ends as its last operand does. -/
theorem Expression.closes {e : Expression} {t : List Char} (he : e.WellFormed Number.IsExact)
    (ht : e.WrittenAs t) : Closes t := by
  match e with
  | .literal value => exact value.closes he ht
  | .path steps => exact Path.closes he.2 ht
  | .arithmetic _ _ right => exact WrittenAround.endsWith ht fun _ hr => right.closes he.2.2 hr
  | .concat _ right => exact WrittenAround.endsWith ht fun _ hr => right.closes he.2.2 hr
  | .group _ => exact closes_of_writtenWithin ht (by decide)

theorem Predicate.closes {p : Predicate} {t : List Char} (hp : p.WellFormed Number.IsExact)
    (ht : p.WrittenAs t) : Closes t := by
  match p with
  | .comparison _ _ right => exact WrittenAround.endsWith ht fun _ hr => right.closes hp.2 hr
  | .and _ right => exact WrittenAround.endsWith ht fun _ hr => right.closes hp.2.2 hr
  | .or _ right => exact WrittenAround.endsWith ht fun _ hr => right.closes hp.2.2 hr
  | .group _ => exact closes_of_writtenWithin ht (by decide)
  | .prune steps => exact Path.closes hp.2 ht

theorem Statement.closes_body {s : Statement} {t : List Char} (hs : s.WellFormed Number.IsExact)
    (ht : s.BodyWrittenAs t) : Closes t := by
  match s with
  | .filter p => exact p.closes hs ht
  | .assign _ value => exact WrittenAround.endsWith ht fun _ hr => value.closes hs.2 hr
  | .append _ value => exact WrittenAround.endsWith ht fun _ hr => value.closes hs.2 hr
  | .rename _ source => exact WrittenAround.endsWith ht fun _ hr => source.closes hs.2.2 hr

/-- What comes after the marker begins like a tree. -/
theorem Statement.opens_body {s : Statement} {t : List Char} (hs : s.WellFormed Number.IsExact)
    (ht : s.BodyWrittenAs t) : Opens t := by
  match s with
  | .filter p => exact p.opens hs ht
  | .assign target _ | .append target _ | .rename target _ =>
    exact WrittenAround.startsWith ht fun _ hl => target.opens hs.1.2 hl

/-! ## Blanks at the ends -/

/-- The text between the blanks is what is left. -/
theorem trim_blanks {before t after : List Char} (hbefore : ∀ c ∈ before, isBlank c)
    (hafter : ∀ c ∈ after, isBlank c) (hstart : StartsWith (fun c => ¬isBlank c) t)
    (hend : Closes t) : trim (before ++ (t ++ after)) = t := by
  have hhead : ∀ c ∈ t.reverse.head?, ¬isBlank c := by
    rw [List.head?_reverse]
    obtain ⟨a, ha, hblank⟩ := hend
    exact fun c hc => Option.mem_unique hc ha ▸ hblank
  -- blanks are dropped in front, and from the reversed text behind
  rw [trim, trimStart, dropWhile_run hbefore (hstart.append after).head, trimEnd,
    List.reverse_append, dropWhile_run (by simpa using hafter) hhead, List.reverse_reverse]

theorem IsGap.isBlank {gap : List Char} (h : IsGap gap) : ∀ c ∈ gap, isBlank c :=
  fun c hc => isBlank_of_isSpace (h c hc)

theorem trim_gaps {before t after : List Char} (hbefore : IsGap before) (hafter : IsGap after)
    (hstart : StartsWith (fun c => ¬isBlank c) t) (hend : Closes t) :
    trim (before ++ (t ++ after)) = t :=
  trim_blanks hbefore.isBlank hafter.isBlank hstart hend

/-! ## Markers -/

/-- The first arrow is found behind a text without minus signs. -/
theorem splitArrow?_append {before : List Char} (h : '-' ∉ before) (rest : List Char) :
    splitArrow? (before ++ ("->".toList ++ rest)) = some (before, rest) := by
  induction before with
  | nil => rfl
  | cons c before ih =>
    rw [List.mem_cons, not_or] at h
    have hnext := ih h.2
    -- a character that is no minus sign is passed over
    rw [List.cons_append, splitArrow?, hnext]
    · rfl
    · rintro rest' rfl
      exact fun _ => h.1 rfl

/-- No verb is the beginning of another one. -/
theorem verbs_apart {verb other : Verb} (h : verb ≠ other) :
    ¬verb.word.toList.map Char.toLower <+: other.word.toList.map Char.toLower := by
  cases verb <;> cases other <;> first | exact absurd rfl h | decide

/-- Where one verb stands, no other one is read. -/
theorem word_fails_of_verb {verb other : Verb} {w : List Char} (h : verb ≠ other)
    (hw : sameWord verb.word.toList w) (rest : List Char) :
    (word other.word).Fails (w ++ rest) := by
  rcases word_fails_or other.word (w ++ rest) with hfails | ⟨t, rest', htext, ht⟩
  · exact hfails
  · -- both words stand at the front, so one of them is the beginning of the other
    have ht' : t <+: w ++ rest := htext ▸ List.prefix_append t rest'
    have hwt : w <+: t ∨ t <+: w :=
      List.prefix_or_prefix_of_prefix (List.prefix_append w rest) ht'
    rw [sameWord_iff] at hw ht
    rcases hwt with hprefix | hprefix
    · have hmap := hprefix.map Char.toLower
      rw [← hw, ← ht] at hmap
      exact absurd hmap (verbs_apart h)
    · have hmap := hprefix.map Char.toLower
      rw [← hw, ← ht] at hmap
      exact absurd hmap (verbs_apart h.symm)

section

variable {verb other : Verb} {w gap gap' body : List Char}

theorem startsWith_verb (hw : sameWord verb.word.toList w) :
    StartsWith (fun c => ¬isBlank c) w :=
  ((isWord_verb verb).startsWith hw).mono fun _ halpha =>
    not_isBlank_of_isNameChar (isNameChar_of_isAlpha halpha)

theorem begins_verb (hw : sameWord verb.word.toList w) (rest : List Char) : Begins (w ++ rest) :=
  begins_of_joint ((isJoint_of_word (isWord_verb verb) hw).append rest)

/-- A marker is read with the spaces behind it. -/
theorem marker_skips (hw : sameWord verb.word.toList w) (hgap : IsGap gap) (left : List Char) :
    marker verb (w ++ (gap ++ ("->".toList ++ left))) = .ok ((), skipSpaces left) := by
  have harrow : Begins ("->".toList ++ left) := startsWith_cons (by decide) _
  have hword : spaced (word verb.word) (w ++ (gap ++ ("->".toList ++ left))) =
      .ok ((), "->".toList ++ left) := by
    have hread := word_ok hw (gap ++ ("->".toList ++ left))
    rw [spaced_ok ((skipSpaces_of_begins (begins_verb hw _)).symm ▸ hread),
      skipSpaces_gap hgap harrow]
  have hsign := sign_ok "->" left
  rw [marker, bind_ok hword, spaced_ok ((skipSpaces_of_begins harrow).symm ▸ hsign)]

theorem marker_ok (hw : sameWord verb.word.toList w) (hgap : IsGap gap) (hgap' : IsGap gap')
    (hbody : Begins body) :
    marker verb (w ++ (gap ++ ("->".toList ++ (gap' ++ body)))) = .ok ((), body) := by
  rw [marker_skips hw hgap, skipSpaces_gap hgap' hbody]

theorem marker_fails (h : verb ≠ other) (hw : sameWord verb.word.toList w) (rest : List Char) :
    (marker other).Fails (w ++ rest) := by
  have hfails := word_fails_of_verb h hw rest
  rw [← skipSpaces_of_begins (begins_verb hw rest)] at hfails
  exact hfails.spaced.bind

end

/-! ## Statements -/

section

variable {inner : Inner} {size : Nat} (hinner : inner.ReadsBack size)
include hinner

theorem expression_whole {e : Expression} {t : List Char} (he : e.WellFormed Number.IsExact)
    (ht : e.WrittenAs t) (hsize : t.length ≤ size) : expression inner t = .ok (e, []) := by
  have htext : skipSpaces t = t ++ [] := by
    rw [skipSpaces_of_begins (begins_of_opens (e.opens he ht)), List.append_nil]
  exact expression_ok hinner he ht hsize htext (enclosed_nil.detached t)
    (afterClause_of_enclosed enclosed_nil t).no_operator

theorem predicate_whole {p : Predicate} {t : List Char} (hp : p.WellFormed Number.IsExact)
    (ht : p.WrittenAs t) (hsize : t.length ≤ size) : predicate inner t = .ok (p, []) := by
  have htext : skipSpaces t = t ++ [] := by
    rw [skipSpaces_of_begins (begins_of_opens (p.opens hp ht)), List.append_nil]
  exact predicate_ok hinner hp ht hsize htext enclosed_nil

/-- The target of a statement ends where the sign `=` begins. -/
theorem target_ok {target : Path} {l before : List Char}
    (htarget : target.WellFormed Number.IsExact) (hl : target.WrittenAs l)
    (hsize : l.length ≤ size) (hbefore : IsGap before) (hapart : KeptApart l (before ++ ['=']))
    (rest : List Char) :
    spaced (path inner) (l ++ (before ++ ('=' :: rest))) = .ok (target, '=' :: rest) := by
  have hjoint : StartsWith (fun c => isJoint c) ['='] := startsWith_cons (by decide) []
  have hbegins := begins_of_opens ((target.opens htarget.2 hl).append (before ++ ('=' :: rest)))
  have hread := path_ok hinner htarget.2 hl hsize (detached_of_joint hbefore hjoint hapart rest)
  rw [spaced_ok ((skipSpaces_of_begins hbegins).symm ▸ hread)]
  exact congrArg _ (congrArg _ (skipSpaces_joint hbefore hjoint rest))

omit hinner in
theorem equal_ok {after r : List Char} (hafter : IsGap after) (hr : Begins r) :
    spaced (char '=') ('=' :: (after ++ r)) = .ok ('=', r) := by
  rw [spaced_ok (char_ok '=' (after ++ r)), skipSpaces_gap hafter hr]

/-- A target and its value are read to the end of their text. -/
theorem assignment_ok {target : Path} {value : Expression} {t : List Char}
    (htarget : target.WellFormed Number.IsExact) (hvalue : value.WellFormed Number.IsExact)
    (ht : WrittenAround (· = ['=']) target.WrittenAs value.WrittenAs t) (hsize : t.length ≤ size) :
    assignment inner t = .ok ((target, value), []) := by
  obtain ⟨l, before, s, after, r, hl, hbefore, rfl, hafter, hr, hapart, -, rfl⟩ := ht
  simp only [List.length_append] at hsize
  have hbegins := begins_of_opens (value.opens hvalue hr)
  have htarget := target_ok hinner htarget hl (by omega) hbefore hapart (after ++ r)
  have hvalue := expression_whole hinner hvalue hr (by omega)
  rw [assignment, List.cons_append, List.nil_append, bind_ok htarget,
    bind_ok (equal_ok hafter hbegins), bind_ok hvalue]
  rfl

theorem source_ok {source : Path} {t : List Char} (hsource : source.WellFormed Number.IsExact)
    (ht : source.WrittenAs t) (hsize : t.length ≤ size) :
    spaced (path inner) t = .ok (source, []) := by
  have hbegins := begins_of_opens (source.opens hsource.2 ht)
  have hread := path_ok hinner hsource.2 ht hsize (enclosed_nil.detached t)
  rw [List.append_nil] at hread
  exact spaced_ok ((skipSpaces_of_begins hbegins).symm ▸ hread)

/-- A statement is read with each of its verbs, and in each letter case. -/
theorem statement_ok {s : Statement} {verb : Verb} {w gap gap' body : List Char}
    (hs : s.WellFormed Number.IsExact) (hverb : verb ∈ s.verbs) (hw : sameWord verb.word.toList w)
    (hgap : IsGap gap) (hgap' : IsGap gap') (hbody : s.BodyWrittenAs body)
    (hsize : body.length ≤ size) :
    statement inner (w ++ (gap ++ ("->".toList ++ (gap' ++ body)))) = .ok (s, []) := by
  have hbegins := begins_of_opens (s.opens_body hs hbody)
  have hmarker := marker_ok hw hgap hgap' hbegins
  have hother (other : Verb) (h : verb ≠ other) :=
    marker_fails h hw (gap ++ ("->".toList ++ (gap' ++ body)))
  rw [statement]
  match s with
  | .filter p =>
    obtain rfl : verb = .filter := by simpa [Statement.verbs] using hverb
    have hread := predicate_whole hinner hs hbody hsize
    refine orElse_ok ?_
    rw [bind_ok hmarker, bind_ok hread]
    rfl
  | .assign target value =>
    -- each of the three verbs is tried after the ones before it
    have hassigning : (marker .map <|> marker .mute <|> marker .replace)
        (w ++ (gap ++ ("->".toList ++ (gap' ++ body)))) = .ok ((), body) := by
      simp only [Statement.verbs, Verb.assigning, List.mem_cons, List.not_mem_nil,
        or_false] at hverb
      rcases hverb with rfl | rfl | rfl
      · exact orElse_ok hmarker
      · rw [orElse_next (hother .map (by decide))]
        exact orElse_ok hmarker
      · rw [orElse_next (hother .map (by decide)), orElse_next (hother .mute (by decide))]
        exact hmarker
    have hfilter : verb ≠ .filter := by
      rintro rfl
      simp [Statement.verbs, Verb.assigning] at hverb
    have hread := assignment_ok hinner hs.1 hs.2 hbody hsize
    rw [orElse_next (hother .filter hfilter).bind]
    refine orElse_ok ?_
    rw [bind_ok hassigning, bind_ok hread]
    rfl
  | .append target value =>
    obtain rfl : verb = .append := by simpa [Statement.verbs] using hverb
    -- the alternatives before this one begin with other verbs
    have hassigning := (hother .map (by decide)).orElse <|
      (hother .mute (by decide)).orElse (hother .replace (by decide))
    have hread := assignment_ok hinner hs.1 hs.2 hbody hsize
    rw [orElse_next (hother .filter (by decide)).bind, orElse_next hassigning.bind]
    refine orElse_ok ?_
    rw [bind_ok hmarker, bind_ok hread]
    rfl
  | .rename target source =>
    obtain rfl : verb = .rename := by simpa [Statement.verbs] using hverb
    have hassigning := (hother .map (by decide)).orElse <|
      (hother .mute (by decide)).orElse (hother .replace (by decide))
    obtain ⟨l, before, s, after, r, hl, hbefore, rfl, hafter, hr, hapart, -, rfl⟩ := hbody
    simp only [List.length_append] at hsize
    have htarget := target_ok hinner hs.1 hl (by omega) hbefore hapart (after ++ r)
    have hequal := equal_ok hafter (begins_of_opens (source.opens hs.2.2 hr))
    have hsource := source_ok hinner hs.2 hr (by omega)
    rw [orElse_next (hother .filter (by decide)).bind, orElse_next hassigning.bind,
      orElse_next (hother .append (by decide)).bind, bind_ok hmarker]
    rw [List.cons_append, List.nil_append, bind_ok htarget, bind_ok hequal, bind_ok hsource]
    rfl

end

/-! ## Whole texts -/

/-- The verb before the first arrow is seen, with blanks on either side of it. -/
theorem requireMarker_ok {accepted : List Verb} {verb : Verb} {before w gap : List Char}
    (hverb : verb ∈ accepted) (hbefore : ∀ c ∈ before, isBlank c)
    (hw : sameWord verb.word.toList w) (hgap : ∀ c ∈ gap, isBlank c) (rest : List Char) :
    requireMarker accepted (String.ofList (before ++ (w ++ gap) ++ ("->".toList ++ rest))) =
      .ok () := by
  have hletters := (isWord_verb verb).isNameChar hw
  have htrim : trim (before ++ (w ++ gap)) = w :=
    trim_blanks hbefore hgap (startsWith_verb hw) (closes_of_word (isWord_verb verb) hw)
  -- the arrow after the verb is the first one
  have harrow : '-' ∉ before ++ (w ++ gap) := by
    simp only [List.mem_append, not_or]
    refine ⟨fun h => ?_, fun h => ?_, fun h => ?_⟩
    · exact absurd (hbefore _ h) (by decide)
    · exact absurd (hletters _ h) (by decide)
    · exact absurd (hgap _ h) (by decide)
  have hany : accepted.any fun v => sameWord v.word.toList w := List.any_eq_true.2 ⟨verb, hverb, hw⟩
  rw [requireMarker, String.toList_ofList, splitArrow?_append harrow]
  simp only [htrim, hany, if_true]

/-- All of the text must be read, but for the blanks at its ends. -/
theorem readWhole_ok {α : Type} {p : Parser α} {text : List Char} {a : α}
    (h : p (trim text) = .ok (a, [])) : readWhole p (String.ofList text) = .ok a := by
  rw [readWhole, String.toList_ofList, runAll, h]
  rfl

theorem Statement.read_ok {s : Statement} {text : String}
    (hmarker : requireMarker Verb.all text = .ok ())
    (hwhole : readWhole Statement.parser text = .ok s) : Statement.read text = .ok s := by
  rw [Statement.read, hmarker, ← hwhole]
  rfl

/-- A statement is read back from each of its texts. -/
theorem Statement.read_of_writtenAs {s : Statement} {t : List Char}
    (hs : s.WellFormed Number.IsExact) (ht : s.WrittenAs t) :
    Statement.read (String.ofList t) = .ok s := by
  obtain ⟨before, marked, after, hbefore, hafter, rfl, verb, hverb, hmarked⟩ := ht
  have hend := hmarked.endsWith fun _ hbody => s.closes_body hs hbody
  obtain ⟨w, gap, arrow, gap', body, hw, hgap, rfl, hgap', hbody, -, -, rfl⟩ := hmarked
  have hstart := (startsWith_verb hw).append (gap ++ ("->".toList ++ (gap' ++ body)))
  have hmarker : requireMarker Verb.all
      (String.ofList (before ++ (w ++ (gap ++ ("->".toList ++ (gap' ++ body))) ++ after))) =
      .ok () := by
    have hverb : verb ∈ Verb.all := by cases verb <;> decide
    have hok := requireMarker_ok hverb hbefore.isBlank hw hgap.isBlank (gap' ++ (body ++ after))
    simpa only [List.append_assoc] using hok
  -- the depth is the length of the text, and the body is shorter
  have hparse : Statement.parser (w ++ (gap ++ ("->".toList ++ (gap' ++ body)))) = .ok (s, []) :=
    statement_ok (readsBack_inner _) hs hverb hw hgap hgap' hbody
      (by simp only [List.length_append]; omega)
  have htrim := trim_gaps hbefore hafter hstart hend
  exact Statement.read_ok hmarker (readWhole_ok ((congrArg Statement.parser htrim).trans hparse))

/-! ## The printed text -/

theorem keptApart_blank_right (l : List Char) (c : Char) (hc : ¬isNameChar c) (rest : List Char) :
    KeptApart l (c :: rest) :=
  keptApart_of_head (by simpa using hc) l

/-- Two texts with a sign between single spaces. -/
theorem writtenAround_spaces {sign left right : List Char → Prop} {l s r text : List Char}
    (hl : left l) (hs : sign s) (hr : right r)
    (htext : text = l ++ ([' '] ++ (s ++ ([' '] ++ r)))) : WrittenAround sign left right text :=
  ⟨l, [' '], s, [' '], r, hl, isGap_space, hs, isGap_space, hr,
    keptApart_blank_right l ' ' (by decide) s, keptApart_blank_right s ' ' (by decide) r, htext⟩

/-- A text right within its brackets. -/
theorem writtenWithin_tight {opening closing : Char} {inner : List Char → Prop} {t : List Char}
    (ht : inner t) : WrittenWithin opening closing inner (opening :: (t ++ [closing])) :=
  ⟨[], t, [], isGap_nil, ht, isGap_nil, rfl⟩

/-- A literal is printed between quotes that it does not contain. -/
theorem Literal.print_writtenAs {value : Literal} {numbers : Number → Prop}
    (hvalue : value.WellFormed numbers) : value.WrittenAs value.print := by
  match value with
  | .null => exact sameWord_iff.2 rfl
  | .bool true => exact sameWord_iff.2 rfl
  | .bool false => exact sameWord_iff.2 rfl
  | .number n => rfl
  | .string s =>
    have hquote {quote : Char} (h : (if '"' ∈ s.toList then '\'' else '"') = quote) :
        Literal.print (.string s) = quote :: (s.toList ++ [quote]) :=
      congrArg (fun quote => quote :: (s.toList ++ [quote])) h
    -- single quotes are used only where a double one occurs
    by_cases hdouble : '"' ∈ s.toList
    · have hsingle := hvalue.resolve_left fun h => h hdouble
      exact ⟨'\'', .inr rfl, hsingle, hquote (if_pos hdouble)⟩
    · exact ⟨'"', .inl rfl, hdouble, hquote (if_neg hdouble)⟩

mutual

theorem Expression.print_writtenAs {numbers : Number → Prop} :
    ∀ e : Expression, e.WellFormed numbers → e.WrittenAs e.print
  | .literal _, he => Literal.print_writtenAs he
  | .path steps, he => printPath_writtenAs steps he.2 he.1
  | .arithmetic _ left right, he =>
    writtenAround_spaces (left.print_writtenAs he.2.1) rfl (right.print_writtenAs he.2.2)
      (by simp [Expression.print])
  | .concat left right, he =>
    writtenAround_spaces (left.print_writtenAs he.2.1) rfl (right.print_writtenAs he.2.2)
      (by simp [Expression.print])
  | .group e, he => writtenWithin_tight (e.print_writtenAs he)

theorem Predicate.print_writtenAs {numbers : Number → Prop} :
    ∀ p : Predicate, p.WellFormed numbers → p.WrittenAs p.print
  | .comparison left _ right, hp =>
    writtenAround_spaces (left.print_writtenAs hp.1) rfl (right.print_writtenAs hp.2)
      (by simp [Predicate.print])
  | .and left right, hp =>
    writtenAround_spaces (s := "and".toList) (left.print_writtenAs hp.2.1) (sameWord_iff.2 rfl)
      (right.print_writtenAs hp.2.2) (by simp [Predicate.print])
  | .or left right, hp =>
    writtenAround_spaces (s := "or".toList) (left.print_writtenAs hp.2.1) (sameWord_iff.2 rfl)
      (right.print_writtenAs hp.2.2) (by simp [Predicate.print])
  | .group p, hp => writtenWithin_tight (p.print_writtenAs hp)
  | .prune steps, hp =>
    printPath_writtenAs steps hp.2 (by rintro rfl; exact absurd hp.1 (by decide))

theorem Selector.print_writtenAs {numbers : Number → Prop} :
    ∀ selector : Selector, selector.WellFormed numbers → selector.WrittenAs selector.print
  | .whole, _ => rfl
  | .each, _ => writtenWithin_tight (t := []) rfl
  | .at _, _ => writtenWithin_tight rfl
  | .matching p, hp => writtenWithin_tight (p.print_writtenAs hp)

theorem Segment.print_writtenAs {numbers : Number → Prop} :
    ∀ step : Segment, step.WellFormed numbers → step.WrittenAs step.print
  | .mk _ selector, hstep => ⟨selector.print, selector.print_writtenAs hstep.2, rfl⟩

theorem printPath_writtenAs {numbers : Number → Prop} :
    ∀ steps : List Segment, StepsWellFormed numbers steps → steps ≠ [] →
      StepsWrittenAs steps ('.' :: printPath steps)
  | [step], hsteps, _ => ⟨step.print, [], step.print_writtenAs hsteps.1, rfl, by simp [printPath]⟩
  | step :: next :: steps, hsteps, _ =>
    ⟨step.print, '.' :: printPath (next :: steps), step.print_writtenAs hsteps.1,
      printPath_writtenAs (next :: steps) hsteps.2 (List.cons_ne_nil _ _), by simp [printPath]⟩

end

/-- The printed text of a statement is one of its texts. -/
theorem Statement.print_writtenAs {numbers : Number → Prop} {s : Statement}
    (hs : s.WellFormed numbers) : s.WrittenAs s.print := by
  have hbody : ∃ body, s.BodyWrittenAs body ∧
      s.print = s.verb.word.toList ++ ([' '] ++ ("->".toList ++ ([' '] ++ body))) := by
    match s with
    | .filter p => exact ⟨p.print, p.print_writtenAs hs, by simp [Statement.print]⟩
    | .assign target value | .append target value =>
      exact ⟨target.print ++ " = ".toList ++ value.print,
        writtenAround_spaces (printPath_writtenAs target hs.1.2 hs.1.1) rfl
          (value.print_writtenAs hs.2) (by simp [Path.print]), by simp [Statement.print]⟩
    | .rename target source =>
      exact ⟨target.print ++ " = ".toList ++ source.print,
        writtenAround_spaces (printPath_writtenAs target hs.1.2 hs.1.1) rfl
          (printPath_writtenAs source hs.2.2 hs.2.1) (by simp [Path.print]),
        by simp [Statement.print]⟩
  obtain ⟨body, hbody, hprint⟩ := hbody
  refine ⟨[], s.print, [], isGap_nil, isGap_nil, by simp, s.verb, ?_, ?_⟩
  · cases s <;> simp [Statement.verbs, Statement.verb, Verb.assigning]
  · exact writtenAround_spaces (sameWord_iff.2 rfl) rfl hbody hprint

/--
**The parser reads back every well-formed statement**, from its printed text as well as from any
other text that it is written as: with the same operators around the same operands.
-/
theorem read_back_wellFormed (s : Statement) (hs : s.WellFormed Number.IsExact) :
    Statement.read (String.ofList s.print) = .ok s ∧
      ∀ t, s.WrittenAs t → Statement.read (String.ofList t) = .ok s :=
  ⟨Statement.read_of_writtenAs hs (Statement.print_writtenAs hs),
    fun _ ht => Statement.read_of_writtenAs hs ht⟩

/-- Two differences, of which the last part is in parentheses. -/
def differences : Statement :=
  .assign [.plain "a"]
    (.arithmetic .subtract
      (.arithmetic .subtract (.literal (.number (.int 3))) (.path [.mk "b" (.at 0)]))
      (.group (.concat (.path [.plain "b"]) (.literal (.string "x")))))

theorem read_back_differences : differences.WellFormed Number.IsExact ∧
    Statement.read "map -> a = 3 - b[0] - (b || \"x\")" = .ok differences := by
  have ha : IsName "a" := ⟨by decide, by decide, by decide⟩
  have hb : IsName "b" := ⟨by decide, by decide, by decide⟩
  have hs : differences.WellFormed Number.IsExact := by
    simp [differences, Statement.WellFormed, Path.WellFormed, StepsWellFormed, Segment.WellFormed,
      Segment.plain, Selector.WellFormed, Expression.WellFormed, Literal.WellFormed,
      Number.IsExact, ha, hb, Expression.strength, ArithmeticOp.strength, Number.exactRange,
      Selector.indexBound]
  exact ⟨hs, (read_back_wellFormed differences hs).1⟩

end Reshape
