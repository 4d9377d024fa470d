import Mathlib.Data.List.TakeWhile
import Reshape.Proofs.RoundTrip
import Reshape.Proofs.Separation

/-!
# Markers

A statement begins with its marker, a verb and an arrow. Two parts of the reader look for it:

* the grammar reads it off the front of the text, and goes by it to tell the statements apart
  (`Introduced`);
* before that, the text before the first arrow is compared with the verbs, whatever the arrow is a
  part of (`marked_of_requireMarker`).
-/

namespace Reshape

open Reshape.Parser Reshape.Text

namespace Grammar

/-! ## What markers begin -/

section

variable {α β : Type} {verb other : Verb} {verbs verbs' : List Verb} {p q : Parser α}
  {text rest : List Char}

/-- A marker that is read is a verb and an arrow, with spaces around them. -/
theorem marker_eq_ok {a : Unit} (h : marker verb text = .ok (a, rest)) :
    ∃ w left tail, skipSpaces text = w ++ left ∧ sameWord verb.word.toList w ∧
      skipSpaces left = "->".toList ++ tail := by
  obtain ⟨_, between, hbefore, harrow⟩ := bind_eq_ok h
  obtain ⟨left, hword, rfl⟩ := spaced_eq_ok hbefore
  obtain ⟨w, htext, hsame⟩ := word_eq_ok hword
  obtain ⟨tail, harrow, -⟩ := spaced_eq_ok harrow
  rw [skipSpaces_skipSpaces] at harrow
  exact ⟨w, left, tail, htext, hsame, sign_eq_ok harrow⟩

/-- Where one marker is read, no other one is. -/
theorem marker_fails_of_marker {a : Unit} (h : marker verb text = .ok (a, rest))
    (hother : verb ≠ other) : (marker other).Fails text := by
  obtain ⟨w, left, tail, htext, hsame, -⟩ := marker_eq_ok h
  refine Fails.bind (Fails.spaced ?_)
  -- the verb stands where the other one is looked for
  rw [htext]
  exact word_fails_of_verb hother hsame left

theorem verb_ne_reserved (verb : Verb) :
    ∀ v ∈ reservedWords, v.toList.map Char.toLower ≠ verb.word.toList.map Char.toLower := by
  cases verb <;> decide

/-- A verb may be the name of a field. -/
theorem isName_verb {w : List Char} (h : sameWord verb.word.toList w) :
    IsName (String.ofList w) := by
  have hword := isWord_verb verb
  have hreserved : ¬isReserved w := by
    intro hany
    obtain ⟨v, hv, hsame⟩ := List.any_eq_true.1 hany
    rw [sameWord_iff] at h hsame
    exact verb_ne_reserved verb v hv (hsame.trans h.symm)
  obtain ⟨c, cs, rfl⟩ := List.exists_cons_of_ne_nil (hword.ne_nil h)
  rw [IsName, String.toList_ofList]
  exact ⟨isNameStart_of_isAlpha (hword.isAlpha h c List.mem_cons_self),
    List.all_eq_true.2 fun d hd => hword.isNameChar h d (List.mem_cons_of_mem c hd), hreserved⟩

/-- Whatever the parser reads begins with one of the verbs. -/
def Introduced (verbs : List Verb) (p : Parser α) : Prop :=
  ∀ text a rest, p text = .ok (a, rest) →
    ∃ verb ∈ verbs, ∃ left, marker verb text = .ok ((), left)

theorem introduced_marker (verb : Verb) : Introduced [verb] (marker verb) :=
  fun _ _ rest hrun => ⟨verb, List.mem_singleton_self verb, rest, hrun⟩

theorem Introduced.bind (h : Introduced verbs p) (f : α → Parser β) :
    Introduced verbs (p >>= f) := by
  intro text b rest hrun
  obtain ⟨a, left, hread, -⟩ := bind_eq_ok hrun
  exact h text a left hread

/-- A choice begins with what either alternative begins with. -/
theorem Introduced.orElse (hp : Introduced verbs p) (hq : Introduced verbs' q) :
    Introduced (verbs ++ verbs') (p <|> q) := by
  intro text a rest hrun
  rcases orElse_eq_ok hrun with hrun | ⟨-, hrun⟩
  · obtain ⟨verb, hverb, hread⟩ := hp text a rest hrun
    exact ⟨verb, List.mem_append_left _ hverb, hread⟩
  · obtain ⟨verb, hverb, hread⟩ := hq text a rest hrun
    exact ⟨verb, List.mem_append_right _ hverb, hread⟩

/-- What begins with one verb is not read as what begins with another one. -/
theorem Introduced.fails {q : Parser β} {b : β} (hp : Introduced verbs p) (hq : Introduced verbs' q)
    (hapart : ∀ verb ∈ verbs, verb ∉ verbs') (hrun : q text = .ok (b, rest)) : p.Fails text := by
  cases hread : p text with
  | error e => exact ⟨e, hread⟩
  | ok r =>
    obtain ⟨verb, hverb, left, hmarker⟩ := hp text r.1 r.2 hread
    obtain ⟨verb', hverb', left', hmarker'⟩ := hq text b rest hrun
    have hne : verb ≠ verb' := fun heq => hapart verb hverb (heq ▸ hverb')
    obtain ⟨e, he⟩ := marker_fails_of_marker hmarker hne
    exact absurd (he.symm.trans hmarker') (by simp)

end

/-- The markers of assignments. -/
def assigning : Parser Unit := marker .map <|> marker .mute <|> marker .replace

/-- The markers of assignments are tried in turn, and one at most is read. -/
theorem assigning_eq_ok_iff {t left : List Char} :
    assigning t = .ok ((), left) ↔ ∃ verb ∈ Verb.assigning, marker verb t = .ok ((), left) := by
  constructor
  · intro h
    rcases orElse_eq_ok h with h | ⟨-, h⟩
    · exact ⟨.map, by decide, h⟩
    · rcases orElse_eq_ok h with h | ⟨-, h⟩
      · exact ⟨.mute, by decide, h⟩
      · exact ⟨.replace, by decide, h⟩
  · rintro ⟨verb, hverb, h⟩
    simp only [Verb.assigning, List.mem_cons, List.not_mem_nil, or_false] at hverb
    rcases hverb with rfl | rfl | rfl
    · exact orElse_ok h
    · exact (orElse_next (marker_fails_of_marker h (by decide))).trans (orElse_ok h)
    · exact (orElse_next (marker_fails_of_marker h (by decide))).trans
        ((orElse_next (marker_fails_of_marker h (by decide))).trans h)

theorem introduced_assigning : Introduced Verb.assigning assigning :=
  (introduced_marker .map).orElse ((introduced_marker .mute).orElse (introduced_marker .replace))

theorem introduced_statement (inner : Inner) :
    Introduced ([.filter] ++ (Verb.assigning ++ ([.append] ++ [.rename]))) (statement inner) :=
  ((introduced_marker _).bind _).orElse <| (introduced_assigning.bind _).orElse <|
    ((introduced_marker _).bind _).orElse ((introduced_marker _).bind _)

theorem introduced_program (inner : Inner) :
    Introduced ([.filter] ++ (Verb.assigning ++ ([.append] ++ [.rename]))) (program inner) :=
  ((introduced_statement inner).bind _).bind _

end Grammar

open Grammar

/-! ## Blanks at the ends -/

/-- Without the blanks at its end, a text does not end with one. -/
theorem closes_trimEnd {t : List Char} (h : trimEnd t ≠ []) : Closes (trimEnd t) := by
  rw [trimEnd] at h ⊢
  rw [ne_eq, List.reverse_eq_nil_iff] at h
  obtain ⟨c, left, hleft⟩ := List.exists_cons_of_ne_nil h
  -- the reversed text begins with what the text ends with
  refine ⟨c, ?_, head_dropWhile isBlank t.reverse c (by rw [hleft]; rfl)⟩
  rw [List.getLast?_reverse, hleft]
  rfl

theorem trimEnd_prefix (t : List Char) : trimEnd t <+: t := by
  have hsuffix := List.dropWhile_suffix (l := t.reverse) isBlank
  rwa [← List.reverse_prefix, List.reverse_reverse] at hsuffix

/-- Blanks come after what is left. -/
theorem exists_trimEnd_append (t : List Char) :
    ∃ blanks, t = trimEnd t ++ blanks ∧ ∀ c ∈ blanks, isBlank c := by
  refine ⟨(t.reverse.takeWhile isBlank).reverse, ?_, fun c hc => ?_⟩
  · rw [trimEnd, ← List.reverse_append, List.takeWhile_append_dropWhile, List.reverse_reverse]
  · exact List.all_eq_true.1 List.all_takeWhile c (List.mem_reverse.1 hc)

/-- Only what comes after loses its blanks. -/
theorem trimEnd_append {t : List Char} (h : Closes t) (more : List Char) :
    trimEnd (t ++ more) = t ++ trimEnd more := by
  have hhead : ∀ c ∈ t.reverse.head?, ¬isBlank c := by
    obtain ⟨a, ha, hblank⟩ := h
    rw [List.head?_reverse]
    exact fun c hc => Option.mem_unique hc ha ▸ hblank
  rw [trimEnd, List.reverse_append, dropWhile_append_of_head hhead, List.reverse_append,
    List.reverse_reverse, trimEnd]

/-- Blanks that are no spaces come at the end of the text only. -/
theorem trim_of_skipSpaces {t : List Char}
    (h : StartsWith (fun c => ¬isBlank c) (skipSpaces (trimEnd t))) :
    trim t = skipSpaces (trimEnd t) := by
  obtain ⟨blanks, ht, hblanks⟩ := exists_trimEnd_append t
  have hparts : (trimEnd t).takeWhile isSpace ++ skipSpaces (trimEnd t) = trimEnd t :=
    List.takeWhile_append_dropWhile
  have hne : trimEnd t ≠ [] := by
    intro hnil
    rw [hnil] at h
    exact h.ne_nil rfl
  have hcloses : Closes (skipSpaces (trimEnd t)) :=
    (hparts.symm ▸ closes_trimEnd hne).of_append h.ne_nil
  have hspaces : ∀ c ∈ (trimEnd t).takeWhile isSpace, isBlank c := fun c hc =>
    isBlank_of_isSpace (List.all_eq_true.1 List.all_takeWhile c hc)
  -- now the text stands between blanks, and blanks alone
  have htrim := trim_blanks hspaces hblanks h hcloses
  rwa [← List.append_assoc, hparts, ← ht] at htrim

/-- Blanks stand on either side of what is left. -/
theorem exists_trim_append (t : List Char) :
    ∃ before after, t = before ++ (trim t ++ after) ∧ (∀ c ∈ before, isBlank c) ∧
      ∀ c ∈ after, isBlank c := by
  obtain ⟨after, ht, hafter⟩ := exists_trimEnd_append (trimStart t)
  refine ⟨t.takeWhile isBlank, after, ?_, fun c hc => List.all_eq_true.1 List.all_takeWhile c hc,
    hafter⟩
  rw [trim, ← ht, trimStart, List.takeWhile_append_dropWhile]

theorem trim_subset (t : List Char) : trim t ⊆ t := by
  obtain ⟨before, after, ht, -⟩ := exists_trim_append t
  intro c hc
  rw [ht]
  exact List.mem_append_right _ (List.mem_append_left _ hc)

/-- No space stands at the front of what is left. -/
theorem skipSpaces_trim (t : List Char) : skipSpaces (trim t) = trim t := by
  refine skipSpaces_eq_self fun c hc hspace => ?_
  obtain ⟨rest, hrest⟩ := trimEnd_prefix (trimStart t)
  have hhead : c ∈ (trimStart t).head? := by
    rw [trim] at hc
    rw [← hrest, List.head?_append, Option.mem_def.1 hc]
    rfl
  exact head_dropWhile isBlank t c hhead (isBlank_of_isSpace hspace)

/-- Where spaces are the only blanks, those in front are taken off alike. -/
theorem trim_eq_skipSpaces {t : List Char} (hspaces : ∀ c ∈ t, isBlank c → isSpace c) :
    trim t = skipSpaces (trimEnd t) := by
  cases hleft : skipSpaces (trimEnd t) with
  | cons c left =>
    have hmem : c ∈ t := by
      have hbegins := trimEnd_prefix t
      refine hbegins.subset ((List.dropWhile_suffix isSpace).subset ?_)
      rw [← skipSpaces, hleft]
      exact List.mem_cons_self
    rw [← hleft]
    refine trim_of_skipSpaces ⟨c, by rw [hleft]; rfl, fun hblank => ?_⟩
    exact head_skipSpaces (trimEnd t) c (by rw [hleft]; rfl) (hspaces c hmem hblank)
  | nil =>
    -- a text without the blanks at its end does not end with a space
    have hend : trimEnd t = [] := by
      by_contra hne
      obtain ⟨c, hc, hblank⟩ := closes_trimEnd hne
      have hall := List.dropWhile_eq_nil_iff.1 hleft c (List.mem_of_getLast? hc)
      exact hblank (isBlank_of_isSpace hall)
    obtain ⟨blanks, ht, hblanks⟩ := exists_trimEnd_append t
    rw [hend, List.nil_append] at ht
    have hstart : trimStart t = [] := List.dropWhile_eq_nil_iff.2 (ht ▸ hblanks)
    rw [trim, hstart]
    rfl

/-! ## The first arrow -/

/-- The two parts are those around the arrow. -/
theorem splitArrow?_eq_some {t before after : List Char}
    (h : splitArrow? t = some (before, after)) : t = before ++ ("->".toList ++ after) := by
  induction t using splitArrow?.induct generalizing before with
  | case1 => exact absurd h (by simp [splitArrow?])
  | case2 rest =>
    obtain ⟨rfl, rfl⟩ := Prod.mk.inj (Option.some.inj h)
    rfl
  | case3 c rest hother ih =>
    rw [splitArrow?] at h
    · obtain ⟨⟨before', after'⟩, hsplit, heq⟩ := Option.map_eq_some_iff.1 h
      obtain ⟨rfl, rfl⟩ := Prod.mk.inj heq
      rw [ih hsplit, List.cons_append]
    · exact hother

theorem exists_splitArrow? {t : List Char} (h : "->".toList <:+: t) :
    ∃ before after, splitArrow? t = some (before, after) := by
  obtain ⟨before, after, rfl⟩ := h
  rw [List.append_assoc]
  induction before with
  | nil => exact ⟨[], after, rfl⟩
  | cons c before ih =>
    obtain ⟨before', after', hsplit⟩ := ih
    rw [List.cons_append]
    -- either an arrow begins here, or it is found behind the first character
    unfold splitArrow?
    split
    · next heq => exact absurd heq (by simp)
    · exact ⟨_, _, rfl⟩
    · next heq =>
      obtain ⟨rfl, rfl⟩ := List.cons.inj heq
      exact ⟨_, _, by rw [hsplit]; rfl⟩

/-- The first arrow stays the first one when more text follows. -/
theorem splitArrow?_append_right {t before after : List Char}
    (h : splitArrow? t = some (before, after)) (more : List Char) :
    splitArrow? (t ++ more) = some (before, after ++ more) := by
  induction t using splitArrow?.induct generalizing before with
  | case1 => exact absurd h (by simp [splitArrow?])
  | case2 rest =>
    obtain ⟨rfl, rfl⟩ := Prod.mk.inj (Option.some.inj h)
    rfl
  | case3 c rest hother ih =>
    rw [splitArrow?] at h
    · obtain ⟨⟨before', after'⟩, hsplit, heq⟩ := Option.map_eq_some_iff.1 h
      obtain ⟨rfl, rfl⟩ := Prod.mk.inj heq
      rw [List.cons_append, splitArrow?, ih hsplit]
      · rfl
      · -- an arrow that only ends in the longer text would leave nothing to split
        intro rest' hc hrest
        cases rest with
        | nil => exact absurd hsplit (by simp [splitArrow?])
        | cons d rest => exact hother rest hc (by rw [(List.cons.inj hrest).1])
    · exact hother

/-- A text that begins with a marker still does when more text follows. -/
theorem requireMarker_append {accepted : List Verb} {t : List Char}
    (h : requireMarker accepted (String.ofList t) = .ok ()) (more : List Char) :
    requireMarker accepted (String.ofList (t ++ more)) = .ok () := by
  rw [requireMarker, String.toList_ofList] at h ⊢
  split at h
  · next before after hsplit =>
    rw [splitArrow?_append_right hsplit more]
    split at h
    · next hany => exact if_pos hany
    · exact absurd h (by simp)
  · exact absurd h (by simp)

/-- The parser reads all of the text but for the blanks at its ends. -/
theorem readWhole_eq_ok_iff {α : Type} {p : Parser α} {text : String} {a : α} :
    readWhole p text = .ok a ↔ p (trim text.toList) = .ok (a, []) := by
  constructor
  · intro h
    rw [readWhole, runAll] at h
    split at h
    · next b hrun =>
      obtain rfl : b = a := Except.ok.inj h
      exact hrun
    · cases h
    · cases h
  · intro h
    have hread := readWhole_ok h
    rwa [String.ofList_toList] at hread

/-- What is done after the check is only done if the check succeeds. -/
theorem requireMarker_then {α : Type} {accepted : List Verb} {text : String}
    {next : Except Refusal α} {a : α} :
    (do requireMarker accepted text; next : Except Refusal α) = .ok a ↔
      requireMarker accepted text = .ok () ∧ next = .ok a := by
  cases requireMarker accepted text with
  | error e => simp [bind, Except.bind]
  | ok u => simp [bind, Except.bind]

/-- A statement is read of a marked text that the grammar takes in full. -/
theorem Statement.read_eq_ok_iff {text : String} {s : Statement} :
    Statement.read text = .ok s ↔
      requireMarker Verb.all text = .ok () ∧ Statement.parser (trim text.toList) = .ok (s, []) := by
  rw [Statement.read, requireMarker_then, readWhole_eq_ok_iff]

theorem Program.read_eq_ok_iff {text : String} {program : Program} :
    Program.read text = .ok program ↔
      requireMarker Verb.all text = .ok () ∧
        Program.parser (trim text.toList) = .ok (program, []) := by
  rw [Program.read, requireMarker_then, readWhole_eq_ok_iff]

/-- The text after the first arrow is left if a verb stands before it. -/
theorem dropMarker_eq_ok_iff {accepted : List Verb} {text dropped : String}
    {before body : List Char} (hsplit : splitArrow? text.toList = some (before, body)) :
    dropMarker accepted text = .ok dropped ↔
      requireMarker accepted text = .ok () ∧ dropped = String.ofList body := by
  rw [dropMarker, hsplit]
  simp only [requireMarker_then]
  simp [pure, Except.pure, eq_comm]

theorem Predicate.readClause_eq_ok_iff {clause : String} {p : Predicate} :
    Predicate.readClause clause = .ok p ↔
      ∃ body, dropMarker [.filter] clause = .ok body ∧ Predicate.read body = .ok p := by
  rw [Predicate.readClause]
  cases dropMarker [.filter] clause with
  | error e => simp [bind, Except.bind]
  | ok body => simp [bind, Except.bind, Predicate.read]

theorem Statement.readAssignment_eq_ok_iff {clause : String} {s : Statement} :
    Statement.readAssignment clause = .ok s ↔
      ∃ body target value, dropMarker Verb.assigning clause = .ok body ∧
        readWhole (nested assignment) body = .ok (target, value) ∧ s = .assign target value := by
  rw [Statement.readAssignment]
  cases dropMarker Verb.assigning clause with
  | error e => simp [bind, Except.bind]
  | ok body =>
    cases hread : readWhole (nested assignment) body with
    | error e => simp [bind, Except.bind, hread]
    | ok r =>
      simp only [bind, Except.bind, hread, pure, Except.pure, Except.ok.injEq]
      constructor
      · rintro rfl
        exact ⟨body, r.1, r.2, rfl, hread, rfl⟩
      · rintro ⟨_, target, value, rfl, hread', rfl⟩
        obtain rfl := Except.ok.inj (hread.symm.trans hread')
        rfl

theorem Statement.read_eq_ok {text : String} {s : Statement} (h : Statement.read text = .ok s) :
    requireMarker Verb.all text = .ok () ∧
      statement (inner (trim text.toList).length) (trim text.toList) = .ok (s, []) :=
  Statement.read_eq_ok_iff.1 h

/-! ## Marked texts -/

/-- Blanks of any kind and an arrow come next. -/
def Arrowed (t : List Char) : Prop :=
  ∃ blanks rest, (∀ c ∈ blanks, isBlank c) ∧ t = blanks ++ ("->".toList ++ rest)

section

variable {t left signs : List Char}

/-- A blank or a minus sign comes first. -/
theorem Arrowed.head (h : Arrowed t) : ∀ c ∈ t.head?, isBlank c ∨ c = '-' := by
  obtain ⟨blanks, rest, hblanks, rfl⟩ := h
  intro c hc
  cases blanks with
  | nil => exact .inr (Option.some.inj hc).symm
  | cons d blanks =>
    obtain rfl : d = c := Option.some.inj hc
    exact .inl (hblanks d List.mem_cons_self)

theorem Arrowed.not_mem (h : Arrowed t) (hsigns : ∀ c ∈ signs, ¬isBlank c ∧ c ≠ '-') :
    ∀ c ∈ t.head?, c ∉ signs := by
  intro c hc hmem
  rcases h.head c hc with hblank | rfl
  · exact (hsigns c hmem).1 hblank
  · exact (hsigns _ hmem).2 rfl

/-- Spaces in front are some of the blanks. -/
theorem Arrowed.skipSpaces (h : Arrowed t) : Arrowed (skipSpaces t) := by
  obtain ⟨blanks, rest, hblanks, rfl⟩ := h
  have hbegins : Begins ("->".toList ++ rest) := startsWith_cons (by decide) _
  refine ⟨Parser.skipSpaces blanks, rest, fun c hc => ?_, skipSpaces_append hbegins blanks⟩
  exact hblanks c ((List.dropWhile_suffix isSpace).subset hc)

/-- A minus sign that comes next belongs to the arrow. -/
theorem Arrowed.eq_arrow (h : Arrowed t) (hminus : '-' ∈ t.head?) :
    ∃ rest, t = '-' :: '>' :: rest := by
  obtain ⟨blanks, rest, hblanks, rfl⟩ := h
  cases blanks with
  | nil => exact ⟨rest, rfl⟩
  | cons d blanks =>
    obtain rfl : d = '-' := Option.some.inj hminus
    exact absurd (hblanks _ List.mem_cons_self) (by decide)

/-- An arrow is no part of the operand before it. -/
theorem Arrowed.detached (h : Arrowed left) (t : List Char) : Detached t left := by
  refine detached_of_skipSpaces (fun c hc => ?_) t
  have hsigns : c ∉ ['.', '['] := h.skipSpaces.not_mem (by decide) c hc
  simp only [List.mem_cons, List.not_mem_nil, or_false, not_or] at hsigns
  refine ⟨fun hname => ?_, hsigns⟩
  rcases h.skipSpaces.head c hc with hblank | rfl
  · exact not_isBlank_of_isNameChar hname hblank
  · exact absurd hname (by decide)

end

/-- One of the verbs comes first, and an arrow after it. -/
def Marked (accepted : List Verb) (t : List Char) : Prop :=
  ∃ verb ∈ accepted, ∃ w left, sameWord verb.word.toList w ∧ Arrowed left ∧ t = w ++ left

/-- A text without the blanks at its ends is the same with its two parts around the arrow. -/
theorem trim_of_splitArrow? {t before after : List Char}
    (h : splitArrow? t = some (before, after)) :
    ∃ blanks, (∀ c ∈ blanks, isBlank c) ∧
      trim t = trim before ++ (blanks ++ ("->".toList ++ trimEnd after)) := by
  obtain ⟨blanks, hbefore, hblanks⟩ := exists_trimEnd_append (trimStart before)
  have hstart : trimStart (before ++ ("->".toList ++ after)) =
      trimStart before ++ ("->".toList ++ after) :=
    dropWhile_append_of_head (by simp; decide) before
  have hcloses : Closes (trimStart before ++ "->".toList) :=
    EndsWith.append_left ⟨'>', rfl, by decide⟩ _
  refine ⟨blanks, hblanks, ?_⟩
  rw [splitArrow?_eq_some h, trim, hstart, ← List.append_assoc, trimEnd_append hcloses,
    trim, ← List.append_assoc, ← hbefore, List.append_assoc]

/-- The check succeeds only where a verb and an arrow stand in front. -/
theorem marked_of_requireMarker {accepted : List Verb} {text : String}
    (h : requireMarker accepted text = .ok ()) : Marked accepted (trim text.toList) := by
  rw [requireMarker] at h
  split at h
  · next before after hsplit =>
    split at h
    · next hany =>
      obtain ⟨verb, hverb, hsame⟩ := List.any_eq_true.1 hany
      obtain ⟨blanks, hblanks, htrim⟩ := trim_of_splitArrow? hsplit
      exact ⟨verb, hverb, trim before, _, hsame, ⟨blanks, trimEnd after, hblanks, rfl⟩, htrim⟩
    · exact absurd h (by simp)
  · exact absurd h (by simp)

/-- The check succeeds exactly on marked texts. -/
theorem requireMarker_iff_marked {accepted : List Verb} {text : String} :
    requireMarker accepted text = .ok () ↔ Marked accepted (trim text.toList) := by
  refine ⟨marked_of_requireMarker, fun h => ?_⟩
  obtain ⟨verb, hverb, w, _, hsame, ⟨blanks, rest, hblanks, rfl⟩, htrim⟩ := h
  obtain ⟨before, after, htext, hbefore, -⟩ := exists_trim_append text.toList
  -- with the blanks put back, the text is one that the check accepts
  have hsplit : text =
      String.ofList (before ++ (w ++ blanks) ++ ("->".toList ++ (rest ++ after))) := by
    rw [← String.toList_inj, String.toList_ofList, htext, htrim]
    simp only [List.append_assoc]
  rw [hsplit]
  exact requireMarker_ok hverb hbefore hsame hblanks _

/-- The check has one way to fail. -/
theorem requireMarker_eq_error {accepted : List Verb} {text : String}
    (h : ¬Marked accepted (trim text.toList)) :
    requireMarker accepted text = .error (.unmarked text accepted) := by
  have hnot (hok : requireMarker accepted text = .ok ()) : False :=
    h (marked_of_requireMarker hok)
  -- both failing branches give the same refusal
  rw [requireMarker] at hnot ⊢
  split
  · next before after hsplit =>
    simp only [hsplit] at hnot
    split
    · next hany => exact absurd (if_pos hany) hnot
    · rfl
  · rfl

end Reshape
