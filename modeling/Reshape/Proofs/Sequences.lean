import Reshape.Proofs.Carrying
import Reshape.Proofs.Markers
import Reshape.Proofs.Nesting
import Reshape.Proofs.Runs

/-!
# Programs are sequences of statements

A program text is read as the statements that its parts are read as, one by one:

* a statement carries over to a longer text, if all of its own text was read;
* what may stand between two statements severs them, and so does the end of the text;
* so a program is read statement by statement, by induction on its parts.

The parts are texts without blanks at their ends. Between two of them stands a gap, or one of the
signs `;` and `|` with gaps around it, and such a sign may end the program.
-/

namespace Reshape

open Reshape.Parser Reshape.Text

namespace Grammar

/-! ## Markers -/

theorem carries_marker {more : List Char} (verb : Verb) :
    Carries more (marker verb) fun _ => True :=
  ((carries_word (isWord_verb verb)).spaced fun _ _ => trivial).bind_any fun _ =>
    (carries_sign "->" (by decide) _).spaced fun _ _ => trivial

/-- Alternatives that begin with different verbs carry over if each of them does. -/
theorem carries_choice {α : Type} {more : List Char} {p q : Parser α} {verbs verbs' : List Verb}
    {ends : List Char → Prop} (hp : Introduced verbs p) (hq : Introduced verbs' q)
    (hapart : ∀ verb ∈ verbs, verb ∉ verbs') (h : Carries more p ends) (h' : Carries more q ends) :
    Carries more (p <|> q) ends := by
  -- in the longer text the second one is read too, and its verb keeps the first one out
  refine h.orElse h' fun text longer a rest hlonger _ hrun hrest => ?_
  obtain ⟨left, hread, -⟩ := h' text longer a rest hlonger hrun hrest
  exact hp.fails hq hapart hread

theorem carries_assigning {more : List Char} : Carries more assigning fun _ => True := by
  have hlast : Carries more (marker .mute <|> marker .replace) fun _ => True :=
    carries_choice (introduced_marker .mute) (introduced_marker .replace) (by decide)
      (carries_marker .mute) (carries_marker .replace)
  exact carries_choice (introduced_marker .map)
    ((introduced_marker .mute).orElse (introduced_marker .replace)) (by decide)
    (carries_marker .map) hlast

/-! ## Statements -/

section

variable {more : List Char} {inner : Inner} (hmore : Severs more)
  (hinner : inner.Carries more)
include hmore hinner

/-- The target of a statement ends where the sign `=` comes. -/
theorem carries_target {β : Type} {f : Path → Parser β} {ends : List Char → Prop}
    (hf : ∀ target, Carries more (f target) ends) :
    Carries more (do let target ← spaced (path inner); let _ ← spaced (char '='); f target)
      ends := by
  have hsign : Carries more (spaced (char '=')) fun _ => True :=
    (steady_char (hmore.bars (by decide))).spaced.reads
  have htarget := (carries_path hmore hinner).spaced fun rest hrest =>
    PathEnds.of_skipSpaces hrest
  refine htarget.bind (fun target => hsign.bind_any fun _ => hf target) ?_
  -- what is left of the target begins with its sign
  intro target text b rest hrun _
  obtain ⟨_, left, hequal, -⟩ := bind_eq_ok hrun
  obtain ⟨tail, hequal, -⟩ := spaced_eq_ok hequal
  intro c hc
  rw [char_eq_ok hequal] at hc
  obtain rfl : '=' = c := Option.some.inj hc
  decide

theorem carries_assignment : Carries more (assignment inner) (ExpressionEnds 0) :=
  carries_target hmore hinner fun _ => (carries_expression hmore hinner).bind_pure _

/-- A statement carries over to a longer text if all of its own text was read. -/
theorem carries_statement : Carries more (statement inner) (· = []) := by
  have hend : PredicateEnds 0 [] := predicateEnds_of_enclosed enclosed_nil
  have hpredicate : Carries more (predicate inner) (· = []) :=
    (carries_predicate hmore hinner).mono fun rest hrest => hrest ▸ hend
  have hassignment : Carries more (assignment inner) (· = []) :=
    (carries_assignment hmore hinner).mono fun rest hrest => hrest ▸ hend.expression
  have hsource : Carries more (spaced (path inner)) (· = []) :=
    (carries_path hmore hinner).spaced fun rest hrest =>
      PathEnds.of_skipSpaces (hrest ▸ hend.expression.1)
  have hrename := (carries_marker .rename).bind_any fun _ =>
    carries_target hmore hinner fun target => hsource.bind_pure (Statement.rename target)
  have happend := (carries_marker .append).bind_any fun _ =>
    hassignment.bind_pure fun r => Statement.append r.1 r.2
  have hassign := carries_assigning.bind_any fun _ =>
    hassignment.bind_pure fun r => Statement.assign r.1 r.2
  have hfilter := (carries_marker .filter).bind_any fun _ => hpredicate.bind_pure Statement.filter
  -- each alternative begins with verbs of its own
  have hlast := carries_choice ((introduced_marker .append).bind _)
    ((introduced_marker .rename).bind _) (by decide) happend hrename
  have hmiddle := carries_choice (introduced_assigning.bind _)
    (((introduced_marker .append).bind _).orElse ((introduced_marker .rename).bind _)) (by decide)
    hassign hlast
  exact carries_choice ((introduced_marker .filter).bind _)
    ((introduced_assigning.bind _).orElse
      (((introduced_marker .append).bind _).orElse ((introduced_marker .rename).bind _)))
    (by decide) hfilter hmiddle

end

theorem ignoresSpaces_marker (verb : Verb) : IgnoresSpaces (marker verb) :=
  (ignoresSpaces_spaced _).bind _

theorem ignoresSpaces_statement (inner : Inner) : IgnoresSpaces (statement inner) :=
  ((ignoresSpaces_marker _).bind _).orElse <|
    (((ignoresSpaces_marker _).orElse
      ((ignoresSpaces_marker _).orElse (ignoresSpaces_marker _))).bind _).orElse <|
    ((ignoresSpaces_marker _).bind _).orElse ((ignoresSpaces_marker _).bind _)

/-! ## Programs -/

section

variable {inner : Inner} {text left rest : List Char} {s : Statement}

/-- Where no sign comes after a statement, nothing more than the statement is read. -/
theorem item_ok (h : statement inner text = .ok (s, left))
    (hsign : ∀ c ∈ (skipSpaces left).head?, c ∉ [';', '|']) :
    item inner text = .ok (s, left) := by
  have hnone : (spaced (oneOf [';', '|'])).Fails left := (oneOf_fails hsign).spaced
  rw [item, bind_ok h, bind_ok (optional_none hnone)]
  rfl

/-- A sign after a statement is read with the spaces around it. -/
theorem item_ok_sign {sign : Char} (h : statement inner text = .ok (s, left))
    (hsign : sign ∈ [';', '|']) (hleft : skipSpaces left = sign :: rest) :
    item inner text = .ok (s, skipSpaces rest) := by
  have hread : spaced (oneOf [';', '|']) left = .ok (sign, skipSpaces rest) := by
    refine spaced_ok ?_
    rw [hleft]
    exact satisfy_ok (List.elem_eq_true_of_mem hsign) rest
  rw [item, bind_ok h, bind_ok (optional_ok hread)]
  rfl

end

/-! ## What severs -/

/-- The text begins with a verb that nothing goes on with. -/
def Opening (t : List Char) : Prop :=
  ∃ (verb : Verb) (w left : List Char), t = w ++ left ∧ sameWord verb.word.toList w ∧
    ∀ c ∈ left.head?, ¬isNameChar c

/-- What begins with a marker begins with a verb, and so does any longer text. -/
theorem opening_of_marker {verb : Verb} {text rest more : List Char} {a : Unit}
    (h : marker verb text = .ok (a, rest)) (htext : skipSpaces text = text) :
    Opening (text ++ more) := by
  obtain ⟨w, left, tail, hw, hsame, harrow⟩ := marker_eq_ok h
  rw [htext] at hw
  refine ⟨verb, w, left ++ more, by rw [hw, List.append_assoc], hsame, ?_⟩
  -- a space comes after the verb, or the arrow
  have hne : left ≠ [] := by
    rintro rfl
    exact absurd harrow (by simp [skipSpaces])
  intro c hc
  have hc : c ∈ left.head? := by
    obtain ⟨d, left, rfl⟩ := List.exists_cons_of_ne_nil hne
    exact hc
  rcases isSpace_or_head hc with hspace | hc
  · simp [not_isNameChar_of_isSpace hspace]
  · rw [harrow] at hc
    obtain rfl : '-' = c := Option.some.inj hc
    decide

section

variable {t : List Char}

theorem Opening.startsWith (h : Opening t) : StartsWith (fun c => ¬isBlank c) t := by
  obtain ⟨verb, w, left, rfl, hsame, -⟩ := h
  exact (startsWith_verb hsame).append left

theorem Opening.begins (h : Opening t) : Begins t := by
  obtain ⟨verb, w, left, rfl, hsame, -⟩ := h
  exact begins_verb hsame left

/-- The first letter of a verb comes first, in either case. -/
theorem Opening.head (h : Opening t) : ∀ c ∈ t.head?, c ∈ verbHeads := by
  obtain ⟨verb, w, left, rfl, hsame, -⟩ := h
  obtain ⟨c, w, rfl⟩ := List.exists_cons_of_ne_nil ((isWord_verb verb).ne_nil hsame)
  intro d hd
  obtain rfl : c = d := Option.some.inj hd
  refine mem_verbHeads ((isWord_verb verb).isAlpha hsame c List.mem_cons_self) ?_
  -- the verbs have four first letters between them
  have hfirst : (verb.word.toList.map Char.toLower).head? ∈ ['f', 'm', 'r', 'a'].map some := by
    cases verb <;> decide
  rw [sameWord_iff.1 hsame] at hfirst
  simpa using hfirst

/-- A verb is not read as a reserved word. -/
theorem Opening.no_keyword (h : Opening t) : ∀ w ∈ reservedWords, (keyword w).Fails t := by
  obtain ⟨verb, w, left, rfl, hsame, hleft⟩ := h
  exact fun v hv => keyword_fails_of_word (isWord_of_mem_reservedWords v hv) (isWord_verb verb)
    (verb_ne_reserved verb v hv) hsame (keptApart_of_head hleft w)

theorem severs_nil : Severs [] where
  head := by simp
  next := by simp [skipSpaces]
  no_keyword := words_fail (by simp [skipSpaces])
  no_concat := sign_fails (by simp [skipSpaces])

/-- A gap severs in front of a statement. -/
theorem severs_gap {gap : List Char} (hgap : IsGap gap) (hne : gap ≠ []) (ht : Opening t) :
    Severs (gap ++ t) where
  head := by
    obtain ⟨c, gap, rfl⟩ := List.exists_cons_of_ne_nil hne
    intro d hd
    obtain rfl : c = d := Option.some.inj hd
    exact mem_separators_of_isSpace (hgap c List.mem_cons_self)
  next := by
    rw [skipSpaces_gap hgap ht.begins]
    exact fun c hc => List.mem_append_right _ (ht.head c hc)
  no_keyword := by
    rw [skipSpaces_gap hgap ht.begins]
    exact ht.no_keyword
  no_concat := by
    rw [skipSpaces_gap hgap ht.begins]
    refine sign_fails_of_head (c := '|') rfl fun hc => ?_
    exact absurd (ht.head _ hc) (by decide)

/-- The signs between statements are neither blanks nor letters. -/
theorem sign_apart : ∀ sign ∈ [';', '|'],
    ¬isBlank sign ∧ ¬isSpace sign ∧ ¬sign.isAlpha ∧ sign ∈ separators := by decide

theorem begins_sign {sign : Char} (hsign : sign ∈ [';', '|']) (rest : List Char) :
    Begins (sign :: rest) :=
  startsWith_cons (sign_apart sign hsign).2.1 rest

/-- A sign severs, unless it is the first half of an operator. -/
theorem severs_sign {before after : List Char} {sign : Char} (hbefore : IsGap before)
    (hsign : sign ∈ [';', '|']) (hnext : ∀ c ∈ (after ++ t).head?, c ≠ '|') :
    Severs (before ++ sign :: (after ++ t)) := by
  obtain ⟨-, -, halpha, hmem⟩ := sign_apart sign hsign
  have hskip := skipSpaces_gap hbefore (begins_sign hsign (after ++ t))
  constructor
  · cases before with
    | nil => exact fun c hc => (Option.some.inj hc) ▸ hmem
    | cons c before =>
      exact fun d hd => (Option.some.inj hd) ▸
        mem_separators_of_isSpace (hbefore c List.mem_cons_self)
  · -- the sign comes next, whatever stands behind it
    rw [hskip]
    exact fun c hc => List.mem_append_left _ ((Option.some.inj hc) ▸ hmem)
  · rw [hskip]
    refine words_fail fun c hc => ?_
    obtain rfl : sign = c := Option.some.inj hc
    exact halpha
  · rw [hskip]
    refine sign_fails fun hprefix => ?_
    obtain ⟨tail, htail⟩ := hprefix
    exact hnext '|' (by rw [← (List.cons.inj htail).2]; rfl) rfl

end

end Grammar

open Grammar

/-! ## Texts of programs -/

/-- One of the signs between statements, with gaps around it. -/
def IsMark (t : List Char) : Prop :=
  ∃ before sign after, IsGap before ∧ sign ∈ [';', '|'] ∧ IsGap after ∧
    t = before ++ sign :: after

/-- What may stand between two statements. -/
def IsSeparator (t : List Char) : Prop := IsGap t ∧ t ≠ [] ∨ IsMark t

/-- The text is made of the parts in order, with separators between them, and maybe a sign at the
end. -/
inductive Sequenced : List String → List Char → Prop where
  | last {part : String} {tail : List Char} (htail : tail = [] ∨ IsMark tail) :
    Sequenced [part] (part.toList ++ tail)
  | next {part : String} {parts : List String} {separator rest : List Char}
    (hseparator : IsSeparator separator) (hrest : Sequenced parts rest) :
    Sequenced (part :: parts) (part.toList ++ (separator ++ rest))

/-- The text has no blanks at its ends. -/
def Trimmed (text : String) : Prop := trim text.toList = text.toList

instance decidableTrimmed (text : String) : Decidable (Trimmed text) :=
  inferInstanceAs (Decidable (_ = _))

/-! ### Blanks at the ends -/

theorem Trimmed.ends {text : String} (h : Trimmed text) (hne : text.toList ≠ []) :
    StartsWith (fun c => ¬isBlank c) text.toList ∧ Closes text.toList := by
  constructor
  · obtain ⟨c, left, htext⟩ := List.exists_cons_of_ne_nil hne
    rw [htext]
    refine startsWith_cons (head_dropWhile isBlank text.toList c ?_) left
    -- the text is the beginning of itself without the blanks in front
    have hprefix := trimEnd_prefix (trimStart text.toList)
    rw [← trim, h] at hprefix
    obtain ⟨rest, hrest⟩ := hprefix
    rw [← trimStart, ← hrest, htext]
    rfl
  · rw [← h] at hne ⊢
    exact closes_trimEnd hne

/-- Apart from a gap, a program ends where its last statement does, or with a sign. -/
theorem Sequenced.closes {parts : List String} {joined : List Char} (h : Sequenced parts joined)
    (hparts : ∀ part ∈ parts, Closes part.toList) :
    ∃ core gap, joined = core ++ gap ∧ IsGap gap ∧ Closes core ∧ Sequenced parts core := by
  induction h with
  | @last part tail htail =>
    -- the last part is the end, or the sign after it is
    rcases htail with rfl | ⟨before, sign, after, hbefore, hsign, hafter, rfl⟩
    · exact ⟨_, [], (List.append_nil _).symm, isGap_nil,
        by simpa using hparts part (List.mem_singleton_self part), .last (.inl rfl)⟩
    · have hcloses : Closes (before ++ [sign]) :=
        closes_append_singleton (sign_apart sign hsign).1 before
      exact ⟨part.toList ++ (before ++ [sign]), after, by simp, hafter, hcloses.append_left _,
        .last (.inr ⟨before, sign, [], hbefore, hsign, isGap_nil, rfl⟩)⟩
  | @next part parts separator rest hseparator hrest ih =>
    obtain ⟨core, gap, rfl, hgap, hcore, hsequenced⟩ :=
      ih fun part hpart => hparts part (List.mem_cons_of_mem _ hpart)
    exact ⟨part.toList ++ (separator ++ core), gap, by simp only [List.append_assoc], hgap,
      (hcore.append_left separator).append_left _, .next hseparator hsequenced⟩

/-- The blanks at the ends of a program are not missed. -/
theorem sequenced_trim {parts : List String} {joined : List Char} (h : Sequenced parts joined)
    (hparts : ∀ part ∈ parts, Closes part.toList)
    (hstart : StartsWith (fun c => ¬isBlank c) joined) : Sequenced parts (trim joined) := by
  obtain ⟨core, gap, rfl, hgap, hcore, hsequenced⟩ := h.closes hparts
  have hne : core ≠ [] := by
    rintro rfl
    obtain ⟨c, hc, -⟩ := hcore
    exact absurd hc (by simp)
  obtain ⟨c, left, rfl⟩ := List.exists_cons_of_ne_nil hne
  have hfirst : StartsWith (fun c => ¬isBlank c) (c :: left) := ⟨c, rfl, hstart.head c rfl⟩
  have htrim := trim_gaps isGap_nil hgap hfirst hcore
  rw [List.nil_append] at htrim
  rwa [htrim]

/-! ### Reading -/

section

variable {part : String} {s : Statement} (hpart : Trimmed part)
  (hread : Statement.read part = .ok s)
include hpart hread

/-- A part is read to its end, at its own depth. -/
theorem statement_part :
    statement (inner part.toList.length) part.toList = .ok (s, []) := by
  have hrun := (Statement.read_eq_ok hread).2
  rwa [hpart] at hrun

/-- A statement is not read from nothing. -/
theorem part_ne_nil : part.toList ≠ [] := by
  have hadvances := advances_statement (inner_leavesSuffix part.toList.length)
  have hlt := (hadvances _ _ _ (statement_part hpart hread)).2
  exact List.ne_nil_of_length_pos hlt

theorem skipSpaces_part (more : List Char) :
    skipSpaces (part.toList ++ more) = part.toList ++ more := by
  have hstart := (hpart.ends (part_ne_nil hpart hread)).1.append more
  exact skipSpaces_of_begins (hstart.mono fun c hblank hspace => hblank (isBlank_of_isSpace hspace))

theorem opening_part (more : List Char) : Opening (part.toList ++ more) := by
  obtain ⟨verb, -, left, hmarker⟩ := introduced_statement _ _ _ _ (statement_part hpart hread)
  have hskip := skipSpaces_part hpart hread []
  rw [List.append_nil] at hskip
  exact opening_of_marker hmarker hskip

/-- In a longer text, the same statement is read, and what severs it is left. -/
theorem statement_longer {more text : List Char} {depth : Nat} (hmore : Severs more)
    (hdepth : part.toList.length ≤ depth) (htext : skipSpaces text = part.toList ++ more) :
    ∃ left, statement (inner depth) text = .ok (s, left) ∧ Extends more [] left := by
  have hrun : statement (inner depth) part.toList = .ok (s, []) := by
    -- the part was read at its own depth, and a greater one gives the same
    rw [← statement_depth (Nat.le_refl _) hdepth]
    exact statement_part hpart hread
  rw [← ignoresSpaces_statement, htext]
  exact carries_statement hmore (carries_inner hmore depth) _ _ s [] (.append _) hrun rfl

end

section

variable {part : String} {s : Statement} {text : List Char} {depth : Nat} (hpart : Trimmed part)
  (hread : Statement.read part = .ok s) (hdepth : part.toList.length ≤ depth)
include hpart hread hdepth

theorem item_end (htext : skipSpaces text = part.toList ++ []) :
    item (inner depth) text = .ok (s, []) := by
  obtain ⟨left, hrun, hleft⟩ := statement_longer hpart hread severs_nil hdepth htext
  have hnil : left = [] := by cases hleft <;> rfl
  subst hnil
  exact item_ok hrun (by simp [skipSpaces])

/-- A part before a gap is read up to the next one. -/
theorem item_gap {gap rest : List Char} (hgap : IsGap gap) (hne : gap ≠ []) (hrest : Opening rest)
    (htext : skipSpaces text = part.toList ++ (gap ++ rest)) :
    ∃ left, item (inner depth) text = .ok (s, left) ∧ skipSpaces left = rest := by
  obtain ⟨left, hrun, hleft⟩ :=
    statement_longer hpart hread (severs_gap hgap hne hrest) hdepth htext
  have hskip : skipSpaces left = rest := by
    rw [hleft.skipSpaces_eq rfl, skipSpaces_gap hgap hrest.begins]
  refine ⟨left, item_ok hrun fun c hc hmem => ?_, hskip⟩
  -- the next statement begins with a letter of a verb, not with a sign
  rw [hskip] at hc
  exact absurd (hrest.head c hc) ((by decide : ∀ c ∈ [';', '|'], c ∉ verbHeads) c hmem)

/-- A part before a sign is read with the sign and the spaces behind it. -/
theorem item_sign {before after rest : List Char} {sign : Char} (hbefore : IsGap before)
    (hsign : sign ∈ [';', '|']) (hafter : IsGap after) (hrest : ∀ c ∈ rest.head?, c ∈ verbHeads)
    (htext : skipSpaces text = part.toList ++ (before ++ sign :: (after ++ rest))) :
    item (inner depth) text = .ok (s, skipSpaces (after ++ rest)) := by
  have hnext : ∀ c ∈ (after ++ rest).head?, c ≠ '|' := by
    rintro c hc rfl
    -- behind the sign stands a space or a verb, so it is no operator
    cases after with
    | nil => exact absurd (hrest _ hc) (by decide)
    | cons d after =>
      obtain rfl : d = '|' := Option.some.inj hc
      exact absurd (hafter _ List.mem_cons_self) (by decide)
  have hbegins := begins_sign hsign (after ++ rest)
  obtain ⟨left, hrun, hleft⟩ :=
    statement_longer hpart hread (severs_sign hbefore hsign hnext) hdepth htext
  refine item_ok_sign hrun hsign ?_
  rw [hleft.skipSpaces_eq rfl, skipSpaces_gap hbefore hbegins]

end

theorem many1_ok {α : Type} {p : Parser α} {text between rest : List Char} {a : α} {as : List α}
    (h : p text = .ok (a, between)) (hmore : many p between = .ok (as, rest)) :
    many1 p text = .ok (a :: as, rest) := by
  rw [many1, bind_ok h, bind_ok hmore]
  rfl

theorem many_of_many1 {α : Type} {p : Parser α} (hp : p.Consumes) {text rest : List Char}
    {as : List α} (h : many1 p text = .ok (as, rest)) : many p text = .ok (as, rest) := by
  obtain ⟨a, between, hrun, hothers⟩ := bind_eq_ok h
  obtain ⟨as', left, hmore, hend⟩ := bind_eq_ok hothers
  obtain ⟨rfl, rfl⟩ := Prod.mk.inj (Except.ok.inj hend)
  exact many_next hp hrun hmore

/-- By induction on the parts: each is read up to the next one, and the last one to the end. -/
theorem many1_item {parts : List String} {joined : List Char} (h : Sequenced parts joined)
    (hparts : ∀ part ∈ parts, Trimmed part ∧ Readable part) :
    Opening joined ∧ ∃ program, parts.mapM Statement.read = .ok program ∧
      ∀ depth text, joined.length ≤ depth → skipSpaces text = joined →
        many1 (item (inner depth)) text = .ok (program, []) := by
  induction h with
  | @last part tail htail =>
    obtain ⟨hpart, s, hread⟩ := hparts part (List.mem_singleton_self part)
    refine ⟨opening_part hpart hread tail, [s], by rw [List.mapM_cons, hread]; rfl, ?_⟩
    intro depth text hdepth htext
    have hlength : part.toList.length ≤ depth := by
      rw [List.length_append] at hdepth
      omega
    have hitem : item (inner depth) text = .ok (s, []) := by
      rcases htail with rfl | ⟨before, sign, after, hbefore, hsign, hafter, rfl⟩
      · exact item_end hpart hread hlength htext
      · have hrun : item (inner depth) text = .ok (s, skipSpaces (after ++ [])) :=
          item_sign hpart hread hlength hbefore hsign hafter (by simp)
            (by rw [htext, List.append_nil])
        rwa [List.append_nil, skipSpaces_of_gap hafter] at hrun
    exact many1_ok hitem rfl
  | @next part parts separator rest hseparator hrest ih =>
    obtain ⟨hpart, s, hread⟩ := hparts part List.mem_cons_self
    obtain ⟨hopening, program, hmapM, hruns⟩ :=
      ih fun part hmem => hparts part (List.mem_cons_of_mem _ hmem)
    refine ⟨opening_part hpart hread _, s :: program, ?_, ?_⟩
    · rw [List.mapM_cons, hread, hmapM]
      rfl
    · intro depth text hdepth htext
      simp only [List.length_append] at hdepth
      have hconsumes := (advances_item (inner_leavesSuffix depth)).consumes
      have hlength : part.toList.length ≤ depth := by omega
      obtain ⟨left, hitem, hleft⟩ : ∃ left, item (inner depth) text = .ok (s, left) ∧
          skipSpaces left = rest := by
        rcases hseparator with ⟨hgap, hne⟩ | ⟨before, sign, after, hbefore, hsign, hafter, rfl⟩
        · exact item_gap hpart hread hlength hgap hne hopening htext
        · refine ⟨_, item_sign hpart hread hlength hbefore hsign hafter hopening.head ?_, ?_⟩
          · rw [htext, List.append_assoc, List.cons_append]
          · rw [skipSpaces_skipSpaces, skipSpaces_gap hafter hopening.begins]
      exact many1_ok hitem (many_of_many1 hconsumes (hruns depth left (by omega) hleft))

/-- A program begins with a marker as its first statement does. -/
theorem Sequenced.requireMarker {parts : List String} {text : String}
    (h : Sequenced parts text.toList) (hparts : ∀ part ∈ parts, Trimmed part ∧ Readable part) :
    requireMarker Verb.all text = .ok () := by
  have hfirst (part : String) (hpart : part ∈ parts) (more : List Char) :
      Reshape.requireMarker Verb.all (String.ofList (part.toList ++ more)) = .ok () := by
    obtain ⟨-, s, hread⟩ := hparts part hpart
    refine requireMarker_append ?_ more
    rw [String.ofList_toList]
    exact (Statement.read_eq_ok hread).1
  rw [← String.ofList_toList (s := text)]
  generalize text.toList = joined at h
  cases h with
  | last => exact hfirst _ (List.mem_singleton_self _) _
  | next => exact hfirst _ List.mem_cons_self _

/--
**A program is the sequence of its statements.** However the parts are separated, the program is
read as the list of statements that they are read as, in order. So it does to every document what
they do as a batch.
-/
theorem read_sequenced {parts : List String} {text : String} (h : Sequenced parts text.toList)
    (hparts : ∀ part ∈ parts, Trimmed part ∧ Readable part) :
    ∃ program, parts.mapM Statement.read = .ok program ∧ Program.read text = .ok program ∧
      ∀ policy document, Program.run policy program document = runBatch policy parts document := by
  obtain ⟨hopening, program, hmapM, -⟩ := many1_item h hparts
  refine ⟨program, hmapM, ?_, fun policy document => ?_⟩
  · have hcloses : ∀ part ∈ parts, Closes part.toList := by
      intro part hmem
      obtain ⟨hpart, s, hread⟩ := hparts part hmem
      exact (hpart.ends (part_ne_nil hpart hread)).2
    -- without the blanks at its ends the text is a sequence of the same parts
    have htrimmed := sequenced_trim h hcloses hopening.startsWith
    obtain ⟨hopening', program', hmapM', hruns⟩ := many1_item htrimmed hparts
    obtain rfl : program = program' := Except.ok.inj (hmapM.symm.trans hmapM')
    have hrun : Program.parser (trim text.toList) = .ok (program, []) := by
      rw [Program.parser, nested, program_eq_many1]
      exact hruns _ _ (Nat.le_refl _) (skipSpaces_of_begins hopening'.begins)
    rw [Program.read, h.requireMarker hparts]
    exact readWhole_eq_ok_iff.2 hrun
  · rw [runBatch, applyBatch, Edit.on_ofExcept_bind, hmapM]
    rfl

/-- Four statements, separated by a sign, by a sign between spaces, and by a line end. -/
def stages : String :=
  "filter -> age > 20; map -> adult = true | append -> seen = 1\nrename -> years = age;"

theorem read_sequenced_stages :
    let parts := ["filter -> age > 20", "map -> adult = true", "append -> seen = 1",
      "rename -> years = age"]
    Sequenced parts stages.toList ∧ (∀ part ∈ parts, Trimmed part ∧ Readable part) ∧
      ∃ program, parts.mapM Statement.read = .ok program ∧ Program.read stages = .ok program ∧
        ∀ policy document,
          Program.run policy program document = runBatch policy parts document := by
  intro parts
  have hsequenced : Sequenced parts stages.toList := by
    have htext : stages.toList = "filter -> age > 20".toList ++ ("; ".toList ++
        ("map -> adult = true".toList ++ (" | ".toList ++ ("append -> seen = 1".toList ++
          ("\n".toList ++ ("rename -> years = age".toList ++ ";".toList)))))) := by decide +kernel
    rw [htext]
    refine .next (.inr ⟨[], ';', [' '], isGap_nil, by decide, isGap_space, rfl⟩) <|
      .next (.inr ⟨[' '], '|', [' '], isGap_space, by decide, isGap_space, rfl⟩) <|
      .next (.inl ⟨?_, by decide⟩) <|
      .last (.inr ⟨[], ';', [], isGap_nil, by decide, isGap_nil, rfl⟩)
    simp [IsGap, isSpace]
  have hparts : ∀ part ∈ parts, Trimmed part ∧ Readable part := by decide +kernel
  exact ⟨hsequenced, hparts, read_sequenced hsequenced hparts⟩

end Reshape
