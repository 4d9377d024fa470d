import Reshape.Proofs.Ladder

/-!
# Reading on after the end

A parser that has come to the end of its text may go on when more text follows: a number takes up
further digits, a repetition one more piece. This file says of single parsers and of their
combinations when they do not:

* `Parser.Carries` — what the parser reads of a text is also read when `more` follows, as long as
  what it leaves is as described;
* `Parser.Steady` — besides, the parser does not begin to read where it has failed before.

Neither is a matter of the parser alone. A quoted text that has no closing quote fails at the end of
its text, and may go on to a quote far behind it. So a choice needs that its earlier alternatives
are steady, and a repetition that it stops in front of what cannot begin another piece.
-/

namespace Reshape.Parser

variable {α β : Type}

/-! ## What a success says -/

section

variable {p : Parser α} {text rest : List Char} {a : α}

/-- A character that is read stands in front and passes the test. -/
theorem satisfy_eq_ok {expected : Expectation} {test : Char → Bool} {c : Char}
    (h : satisfy expected test text = .ok (c, rest)) : test c ∧ text = c :: rest := by
  cases text with
  | nil => exact absurd h (by simp [satisfy])
  | cons c' text =>
    rw [satisfy] at h
    split at h
    · next hc =>
      obtain ⟨rfl, rfl⟩ := Prod.mk.inj (Except.ok.inj h)
      exact ⟨hc, rfl⟩
    · exact absurd h (by simp)

theorem char_eq_ok {c d : Char} (h : char c text = .ok (d, rest)) : text = c :: rest := by
  obtain ⟨hd, rfl⟩ := satisfy_eq_ok h
  rw [eq_of_beq hd]

theorem sign_eq_ok {s : String} {a : Unit} (h : sign s text = .ok (a, rest)) :
    text = s.toList ++ rest := by
  rw [sign] at h
  split at h
  · next hprefix =>
    obtain ⟨-, rfl⟩ := Prod.mk.inj (Except.ok.inj h)
    exact (List.prefix_iff_eq_append.1 (List.isPrefixOf_iff_prefix.1 hprefix)).symm
  · exact absurd h (by simp)

theorem spaced_eq_ok (h : spaced p text = .ok (a, rest)) :
    ∃ left, p (skipSpaces text) = .ok (a, left) ∧ rest = skipSpaces left := by
  rw [spaced, bind_ok (spaces_ok text)] at h
  obtain ⟨b, left, hread, hend⟩ := bind_eq_ok h
  rw [bind_ok (spaces_ok left)] at hend
  obtain ⟨rfl, rfl⟩ := Prod.mk.inj (Except.ok.inj hend)
  exact ⟨left, hread, rfl⟩

/-- A repetition reads nothing, or one piece and then the others. -/
theorem many_eq_ok (hp : p.Consumes) {as : List α}
    (h : many p text = .ok (as, rest)) :
    as = [] ∧ rest = text ∨ ∃ a more between, as = a :: more ∧ p text = .ok (a, between) ∧
      many p between = .ok (more, rest) := by
  rw [run_many hp] at h
  split at h
  · next a between hread =>
    cases hmore : Parser.many p between with
    | error e =>
      rw [hmore] at h
      exact absurd h (by simp [Except.map])
    | ok r =>
      rw [hmore] at h
      obtain ⟨rfl, rfl⟩ := Prod.mk.inj (Except.ok.inj h)
      exact .inr ⟨a, r.1, between, rfl, hread, hmore⟩
  · obtain ⟨rfl, rfl⟩ := Prod.mk.inj (Except.ok.inj h)
    exact .inl ⟨rfl, rfl⟩

end

/-! ## Longer texts -/

/-- The longer text is the text and `more`. Where nothing is left of the text, spaces that are
skipped are those that `more` begins with. -/
inductive Extends (more : List Char) : List Char → List Char → Prop where
  | append (text : List Char) : Extends more text (text ++ more)
  | skipped : Extends more [] (skipSpaces more)

section

variable {more text longer : List Char}

theorem Extends.eq_append (h : Extends more text longer) (hne : text ≠ []) :
    longer = text ++ more := by
  cases h with
  | append => rfl
  | skipped => exact absurd rfl hne

theorem Extends.cons {c : Char} (h : Extends more (c :: text) longer) :
    longer = c :: (text ++ more) :=
  h.eq_append (List.cons_ne_nil c text)

/-- Skipping spaces on both sides keeps the texts together. -/
theorem Extends.skipSpaces (h : Extends more text longer) :
    Extends more (Parser.skipSpaces text) (Parser.skipSpaces longer) := by
  cases h with
  | append =>
    rw [Parser.skipSpaces, Parser.skipSpaces, List.dropWhile_append]
    split
    · next hall =>
      -- only spaces were left, so those of `more` are skipped as well
      rw [List.isEmpty_iff.1 hall]
      exact .skipped
    · exact .append _
  | skipped =>
    rw [skipSpaces_skipSpaces]
    exact .skipped

/-- Where nothing but spaces is left of the text, `more` comes next. -/
theorem Extends.skipSpaces_eq (h : Extends more text longer)
    (hnil : Parser.skipSpaces text = []) :
    Parser.skipSpaces longer = Parser.skipSpaces more := by
  have hlonger := h.skipSpaces
  rw [hnil] at hlonger
  -- the cases need a variable for the skipped text
  generalize hskipped : Parser.skipSpaces longer = skipped at hlonger
  cases hlonger with
  | append =>
    rw [List.nil_append] at hskipped ⊢
    rw [← hskipped, skipSpaces_skipSpaces]
  | skipped => rfl

/-- What the longer text begins with, the text does, or else `more`, maybe after spaces. -/
theorem Extends.head {c : Char} (h : Extends more text longer) (hc : c ∈ longer.head?) :
    c ∈ text.head? ∨ text = [] ∧ (c ∈ more.head? ∨ c ∈ (Parser.skipSpaces more).head?) := by
  cases h with
  | append =>
    cases text with
    | nil => exact .inr ⟨rfl, .inl hc⟩
    | cons => exact .inl hc
  | skipped => exact .inr ⟨rfl, .inr hc⟩

/-- No character that passes the test stands at the front, before or after the spaces. -/
def Bars (more : List Char) (test : Char → Bool) : Prop :=
  ∀ c, c ∈ more.head? ∨ c ∈ (Parser.skipSpaces more).head? → ¬test c

/-- A longer text does not begin with what its text does not begin with and `more` bars. -/
theorem Extends.not_head {test : Char → Bool} (h : Extends more text longer)
    (hmore : Bars more test) (htext : ∀ c ∈ text.head?, ¬test c) :
    ∀ c ∈ longer.head?, ¬test c := by
  intro c hc
  rcases h.head hc with hc | ⟨-, hc⟩
  · exact htext c hc
  · exact hmore c hc

end

/-! ## Carrying over -/

section

variable (more : List Char)

/-- What the parser reads of a text is also read of the longer one, if what is left is as
described. -/
def Carries (p : Parser α) (ends : List Char → Prop) : Prop :=
  ∀ text longer a rest, Extends more text longer → p text = .ok (a, rest) → ends rest →
    ∃ left, p longer = .ok (a, left) ∧ Extends more rest left

/-- The parser reads the same of the longer text, and nothing where it has read nothing. -/
structure Steady (p : Parser α) : Prop where
  reads : Carries more p fun _ => True
  fails : ∀ text longer, Extends more text longer → p.Fails text → p.Fails longer

end

section

variable {more : List Char}

/-- A parser that carries over does so where more is known of what it leaves. -/
theorem Carries.mono {p : Parser α} {ends stronger : List Char → Prop}
    (h : Carries more p ends) (hstronger : ∀ rest, stronger rest → ends rest) :
    Carries more p stronger :=
  fun text longer a rest hlonger hrun hrest =>
    h text longer a rest hlonger hrun (hstronger rest hrest)

theorem Steady.carries {p : Parser α} (h : Steady more p) (ends : List Char → Prop) :
    Carries more p ends :=
  h.reads.mono fun _ _ => trivial

/-! ## Characters and signs -/

theorem steady_pure (a : α) : Steady more (pure a : Parser α) where
  reads := by
    intro text longer b rest hlonger hrun _
    obtain ⟨rfl, rfl⟩ := Prod.mk.inj (Except.ok.inj hrun)
    exact ⟨longer, rfl, hlonger⟩
  fails := by
    rintro text longer - ⟨e, he⟩
    exact absurd he (by simp)

/-- A character is read in front of what cannot be mistaken for it. -/
theorem steady_satisfy {test : Char → Bool} (h : Bars more test) (expected : Expectation) :
    Steady more (satisfy expected test) where
  reads := by
    intro text longer c rest hlonger hrun _
    obtain ⟨hc, rfl⟩ := satisfy_eq_ok hrun
    obtain rfl := hlonger.cons
    exact ⟨rest ++ more, satisfy_ok hc _, .append rest⟩
  fails := by
    rintro text longer hlonger ⟨e, he⟩
    -- what the longer text begins with stands in the text, or `more` bars it
    refine satisfy_fails (hlonger.not_head h ?_)
    intro c hc hpass
    obtain ⟨rest, rfl⟩ := List.head?_eq_some_iff.1 hc
    exact absurd (he.symm.trans (satisfy_ok hpass rest)) (by simp)

theorem steady_char {c : Char} (h : Bars more (· == c)) : Steady more (char c) :=
  steady_satisfy h .char

theorem steady_oneOf {cs : List Char} (h : Bars more cs.contains) : Steady more (oneOf cs) :=
  steady_satisfy h .oneOf

theorem steady_spaces : Steady more spaces where
  reads := by
    intro text longer a rest hlonger hrun _
    obtain ⟨-, rfl⟩ := Prod.mk.inj (Except.ok.inj hrun)
    exact ⟨skipSpaces longer, rfl, hlonger.skipSpaces⟩
  fails := by
    rintro text longer - ⟨e, he⟩
    exact absurd he (by simp [spaces])

/-- A run of characters is not prolonged by what begins otherwise. -/
theorem takeWhile_append_of_head {test : Char → Bool} (h : ∀ c ∈ more.head?, ¬test c)
    (text : List Char) : (text ++ more).takeWhile test = text.takeWhile test := by
  have hend : more.takeWhile test = [] := takeWhile_run (t := []) (by simp) h
  rw [List.takeWhile_append, hend]
  split
  · next hall => rw [List.append_nil, (List.takeWhile_prefix test).eq_of_length hall]
  · rfl

/-- A run that reaches the end of its text ends there. -/
theorem Extends.run {test : Char → Bool} {text longer : List Char} (h : Extends more text longer)
    (hmore : Bars more test) : longer.takeWhile test = text.takeWhile test ∧
      Extends more (text.dropWhile test) (longer.dropWhile test) := by
  cases h with
  | append =>
    have hhead : ∀ c ∈ more.head?, ¬test c := fun c hc => hmore c (.inl hc)
    have hend : more.dropWhile test = more := dropWhile_run (t := []) (by simp) hhead
    refine ⟨takeWhile_append_of_head hhead text, ?_⟩
    rw [List.dropWhile_append, hend]
    split
    -- the run may take up the whole text
    · next hall =>
      rw [List.isEmpty_iff.1 hall]
      exact .append []
    · exact .append _
  | skipped =>
    have hhead : ∀ c ∈ (Parser.skipSpaces more).head?, ¬test c := fun c hc => hmore c (.inr hc)
    have hdrop : (Parser.skipSpaces more).dropWhile test = Parser.skipSpaces more :=
      dropWhile_run (t := []) (by simp) hhead
    rw [hdrop]
    exact ⟨takeWhile_run (t := []) (by simp) hhead, .skipped⟩

/-- Digits are read alike if no further one follows. -/
theorem steady_digits (h : Bars more Char.isDigit) : Steady more digits where
  reads := by
    intro text longer ds rest hlonger hrun _
    obtain ⟨htake, hdrop⟩ := hlonger.run h
    rw [digits] at hrun ⊢
    rw [htake]
    split at hrun
    · exact absurd hrun (by simp)
    · next hsome =>
      obtain ⟨rfl, rfl⟩ := Prod.mk.inj (Except.ok.inj hrun)
      exact ⟨longer.dropWhile Char.isDigit, if_neg hsome, hdrop⟩
  fails := by
    rintro text longer hlonger ⟨e, he⟩
    obtain ⟨htake, -⟩ := hlonger.run h
    rw [digits] at he
    split at he
    · next hnone => exact ⟨_, by rw [digits]; simp only [htake, hnone, if_true]; rfl⟩
    · exact absurd he (by simp)

/-- A sign that is there is read of every longer text. -/
theorem carries_sign (s : String) (hs : s.toList ≠ []) (ends : List Char → Prop) :
    Carries more (sign s) ends := by
  intro text longer a rest hlonger hrun _
  obtain rfl := sign_eq_ok hrun
  -- the text is not empty, so the longer one goes on after it
  obtain rfl := hlonger.eq_append (List.append_ne_nil_of_left_ne_nil hs rest)
  rw [List.append_assoc]
  exact ⟨rest ++ more, sign_ok s _, .append rest⟩

/-- No part of a sign stands where `more` begins, so it is not completed by it. -/
theorem steady_sign {s : String} (hs : s.toList ≠ []) (h : Bars more s.toList.contains) :
    Steady more (sign s) where
  reads := carries_sign s hs _
  fails := by
    intro text longer hlonger hfails
    have hother : ¬s.toList <+: text := by
      rintro ⟨rest, rfl⟩
      obtain ⟨e, he⟩ := hfails
      exact absurd (he.symm.trans (sign_ok s rest)) (by simp)
    refine sign_fails fun hprefix => ?_
    cases hlonger with
    | append =>
      rcases List.prefix_or_prefix_of_prefix hprefix (List.prefix_append text more) with hs | hs
      · exact hother hs
      · -- the sign goes on after the text, with a character that `more` begins with
        obtain ⟨t, ht⟩ := hs
        have hne : t ≠ [] := by
          rintro rfl
          rw [List.append_nil] at ht
          exact hother (ht ▸ List.prefix_refl text)
        obtain ⟨c, t, rfl⟩ := List.exists_cons_of_ne_nil hne
        rw [← ht, List.prefix_append_right_inj] at hprefix
        obtain ⟨rest, rfl⟩ := hprefix
        exact h c (.inl rfl) (by simp [← ht])
    | skipped =>
      obtain ⟨c, t, ht⟩ := List.exists_cons_of_ne_nil hs
      obtain ⟨rest, hrest⟩ := hprefix
      exact h c (.inr (by rw [← hrest, ht]; rfl)) (by simp [ht])

/-! ## Sequences and choices -/

theorem seqRight_as_bind (p : Parser α) (q : Parser β) : (p *> q) = p >>= fun _ => q := by
  funext text
  rw [run_seqRight, run_bind]

/--
A sequence carries over if each part does, where the second starts only at places at which the first
may end.
-/
theorem Carries.bind {p : Parser α} {f : α → Parser β} {between ends : List Char → Prop}
    (hp : Carries more p between) (hf : ∀ a, Carries more (f a) ends)
    (hbetween : ∀ a text b rest, f a text = .ok (b, rest) → ends rest → between text) :
    Carries more (p >>= f) ends := by
  intro text longer b rest hlonger hrun hrest
  obtain ⟨a, middle, hfirst, hsecond⟩ := bind_eq_ok hrun
  obtain ⟨left, hread, hmiddle⟩ :=
    hp text longer a middle hlonger hfirst (hbetween a middle b rest hsecond hrest)
  rw [bind_ok hread]
  exact hf a middle left b rest hmiddle hsecond hrest

/-- After a parser that carries over wherever it ends, nothing is asked of what it leaves. -/
theorem Carries.bind_any {p : Parser α} {f : α → Parser β} {ends : List Char → Prop}
    (hp : Carries more p fun _ => True) (hf : ∀ a, Carries more (f a) ends) :
    Carries more (p >>= f) ends :=
  hp.bind hf fun _ _ _ _ _ _ => trivial

/-- What is made of the result at the end does not matter. -/
theorem Carries.bind_pure {p : Parser α} {ends : List Char → Prop} (hp : Carries more p ends)
    (f : α → β) : Carries more (p >>= fun a => pure (f a)) ends :=
  hp.bind (fun a => (steady_pure (f a)).carries ends) fun a text b rest hrun hrest => by
    obtain ⟨-, rfl⟩ := Prod.mk.inj (Except.ok.inj hrun)
    exact hrest

theorem Steady.bind {p : Parser α} {f : α → Parser β} (hp : Steady more p)
    (hf : ∀ a, Steady more (f a)) : Steady more (p >>= f) where
  reads := hp.reads.bind_any fun a => (hf a).reads
  fails := by
    rintro text longer hlonger ⟨e, he⟩
    -- either the first parser has failed, or the second one after it
    cases hrun : p text with
    | error e' => exact (hp.fails text longer hlonger ⟨e', hrun⟩).bind
    | ok r =>
      obtain ⟨a, rest⟩ := r
      obtain ⟨left, hread, hrest⟩ := hp.reads text longer a rest hlonger hrun trivial
      rw [bind_ok hrun] at he
      exact bind_fails hread ((hf a).fails rest left hrest ⟨e, he⟩)

theorem Carries.seqRight {p : Parser α} {q : Parser β} {ends : List Char → Prop}
    (hp : Carries more p fun _ => True) (hq : Carries more q ends) :
    Carries more (p *> q) ends := by
  rw [seqRight_as_bind]
  exact hp.bind_any fun _ => hq

theorem Steady.seqRight {p : Parser α} {q : Parser β} (hp : Steady more p) (hq : Steady more q) :
    Steady more (p *> q) := by
  rw [seqRight_as_bind]
  exact hp.bind fun _ => hq

theorem Carries.map {p : Parser α} {ends : List Char → Prop} (h : Carries more p ends)
    (f : α → β) : Carries more (f <$> p) ends := by
  intro text longer b rest hlonger hrun hrest
  obtain ⟨a, hread, rfl⟩ := map_eq_ok hrun
  obtain ⟨left, hleft, hmore⟩ := h text longer a rest hlonger hread hrest
  exact ⟨left, map_ok f hleft, hmore⟩

theorem Steady.map {p : Parser α} (h : Steady more p) (f : α → β) : Steady more (f <$> p) where
  reads := h.reads.map f
  fails := by
    rintro text longer hlonger ⟨e, he⟩
    refine (h.fails text longer hlonger ?_).map f
    cases hrun : p text with
    | error e' => exact ⟨e', hrun⟩
    | ok r =>
      obtain ⟨a, rest⟩ := r
      exact absurd (he.symm.trans (map_ok f hrun)) (by simp)

/-- Of a choice, what the second alternative reads must not be read otherwise by the first one. -/
theorem Carries.orElse {p q : Parser α} {ends : List Char → Prop}
    (hp : Carries more p ends) (hq : Carries more q ends)
    (hfails : ∀ text longer a rest, Extends more text longer → p.Fails text →
      q text = .ok (a, rest) → ends rest → p.Fails longer) :
    Carries more (p <|> q) ends := by
  intro text longer a rest hlonger hrun hrest
  rcases orElse_eq_ok hrun with hrun | ⟨hnone, hrun⟩
  · obtain ⟨left, hread, hmore⟩ := hp text longer a rest hlonger hrun hrest
    exact ⟨left, orElse_ok hread, hmore⟩
  · rw [orElse_next (hfails text longer a rest hlonger hnone hrun hrest)]
    exact hq text longer a rest hlonger hrun hrest

/-- Where the first alternative is steady, it is enough that the second carries over. -/
theorem Steady.orElse_carries {p q : Parser α} {ends : List Char → Prop} (hp : Steady more p)
    (hq : Carries more q ends) : Carries more (p <|> q) ends :=
  (hp.carries ends).orElse hq fun text longer _ _ hlonger hnone _ _ =>
    hp.fails text longer hlonger hnone

theorem Steady.orElse {p q : Parser α} (hp : Steady more p) (hq : Steady more q) :
    Steady more (p <|> q) where
  reads := hp.orElse_carries hq.reads
  fails := by
    rintro text longer hlonger ⟨e, he⟩
    cases hrun : p text with
    | ok r => exact absurd (he.symm.trans (orElse_ok hrun)) (by simp)
    | error e' =>
      -- both alternatives have failed
      rw [orElse_next ⟨e', hrun⟩] at he
      exact (hp.fails text longer hlonger ⟨e', hrun⟩).orElse (hq.fails text longer hlonger ⟨e, he⟩)

/-- An option carries over if it cannot be taken up where it is left out. -/
theorem Carries.optional {p : Parser α} {ends : List Char → Prop} (h : Carries more p ends)
    (hstop : ∀ text longer, Extends more text longer → ends text → p.Fails longer) :
    Carries more (Parser.optional p) ends := by
  intro text longer a rest hlonger hrun hrest
  rcases optional_eq_ok hrun with ⟨b, hread, rfl⟩ | ⟨rfl, rfl⟩
  · obtain ⟨left, hleft, hmore⟩ := h text longer b rest hlonger hread hrest
    exact ⟨left, optional_ok hleft, hmore⟩
  · exact ⟨longer, optional_none (hstop rest longer hlonger hrest), hlonger⟩

theorem Steady.optional {p : Parser α} (h : Steady more p) : Steady more (Parser.optional p) := by
  have hsome : Steady more (some <$> p) := h.map some
  exact hsome.orElse (steady_pure none)

theorem Carries.accepting {p : Parser α} {ends : List Char → Prop} (h : Carries more p ends)
    (test : α → Bool) : Carries more (accepting p test) ends := by
  intro text longer a rest hlonger hrun hrest
  obtain ⟨hread, htest⟩ := accepting_eq_ok hrun
  obtain ⟨left, hleft, hmore⟩ := h text longer a rest hlonger hread hrest
  exact ⟨left, accepting_ok hleft htest, hmore⟩

/-- A conversion of the result does not look at the text. -/
theorem Steady.converting {p : Parser α} (h : Steady more p) (f : α → Option β) :
    Steady more (converting p f) where
  reads := by
    intro text longer b rest hlonger hrun _
    obtain ⟨a, hread, hvalue⟩ := converting_eq_ok hrun
    obtain ⟨left, hleft, hmore⟩ := h.reads text longer a rest hlonger hread trivial
    exact ⟨left, by rw [Parser.converting, hleft]; simp only [hvalue], hmore⟩
  fails := by
    rintro text longer hlonger ⟨e, he⟩
    rw [Parser.converting] at he
    cases hrun : p text with
    | error e' =>
      obtain ⟨e'', hlong⟩ := h.fails text longer hlonger ⟨e', hrun⟩
      exact ⟨e'', by rw [Parser.converting, hlong]⟩
    | ok r =>
      obtain ⟨left, hleft, -⟩ := h.reads text longer r.1 r.2 hlonger hrun trivial
      rw [hrun] at he
      dsimp only at he
      split at he
      · exact absurd he (by simp)
      · next hnone => exact ⟨_, by rw [Parser.converting, hleft]; simp only [hnone]; rfl⟩

/-- A spaced parser carries over if the parser does before spaces that are skipped. -/
theorem Carries.spaced {p : Parser α} {between ends : List Char → Prop}
    (h : Carries more p between) (hbetween : ∀ rest, ends (skipSpaces rest) → between rest) :
    Carries more (spaced p) ends := by
  intro text longer a rest hlonger hrun hrest
  obtain ⟨middle, hread, rfl⟩ := spaced_eq_ok hrun
  have hmiddle := hbetween middle hrest
  obtain ⟨left, hleft, hmore⟩ := h _ _ a middle hlonger.skipSpaces hread hmiddle
  exact ⟨skipSpaces left, spaced_ok hleft, hmore.skipSpaces⟩

theorem Steady.spaced {p : Parser α} (h : Steady more p) : Steady more (spaced p) :=
  steady_spaces.bind fun _ => h.bind fun a => steady_spaces.bind fun _ => steady_pure a

/-! ## Repetitions -/

/-- A repetition carries over if it stops where no further piece can begin. -/
theorem Carries.many {p : Parser α} {piece ends : List Char → Prop} (hp : p.Consumes)
    (h : Carries more p piece)
    (hnext : ∀ text a rest, p text = .ok (a, rest) → piece text)
    (hlast : ∀ rest, ends rest → piece rest)
    (hstop : ∀ text longer, Extends more text longer → ends text → p.Fails longer) :
    Carries more (many p) ends := by
  intro text longer as rest hlonger hrun hrest
  induction as generalizing text longer with
  | nil =>
    rcases many_eq_ok hp hrun with ⟨-, rfl⟩ | ⟨a, as, between, hcons, -⟩
    · exact ⟨longer, many_done hp (hstop rest longer hlonger hrest), hlonger⟩
    · exact absurd hcons.symm (List.cons_ne_nil a as)
  | cons a as ih =>
    rcases many_eq_ok hp hrun with ⟨hnil, -⟩ | ⟨b, bs, between, hcons, hread, hmore⟩
    · exact absurd hnil (List.cons_ne_nil a as)
    · obtain ⟨rfl, rfl⟩ := List.cons.inj hcons
      -- after a piece comes the next one, or the end of them all
      have hbetween : piece between := by
        rcases many_eq_ok hp hmore with ⟨-, rfl⟩ | ⟨b, -, left, -, hread', -⟩
        · exact hlast rest hrest
        · exact hnext between b left hread'
      obtain ⟨left, hleft, hlonger⟩ := h text longer a between hlonger hread hbetween
      obtain ⟨left, hlefts, hlonger⟩ := ih between left hlonger hmore
      exact ⟨left, many_next hp hleft hlefts, hlonger⟩

/-- So do operands joined by operators, if they stop where no operator can begin. -/
theorem Carries.leftAssoc {operand : Parser α} {operator : Parser (α → α → α)}
    {piece ends : List Char → Prop} (hadvances : operand.Advances)
    (hadvances' : operator.Advances) (h : Carries more operand piece)
    (hoperator : Carries more operator fun _ => True)
    (hnext : ∀ text join rest, operator (skipSpaces text) = .ok (join, rest) → piece text)
    (hlast : ∀ rest, ends rest → piece rest)
    (hstop : ∀ text longer, Extends more text longer → ends text →
      operator.Fails (skipSpaces longer)) :
    Carries more (leftAssoc operand operator) ends := by
  have hconsumes : (operation operand operator).Consumes :=
    (hadvances.operation hadvances').consumes
  -- a piece of the repetition is an operator and its right operand
  have hpiece : Carries more (operation operand operator) piece :=
    (hoperator.spaced fun _ _ => trivial).bind_any fun join => h.bind_pure fun next => (join, next)
  have hbegins (text : List Char) (step : (α → α → α) × α) (rest : List Char)
      (hrun : operation operand operator text = .ok (step, rest)) : piece text := by
    obtain ⟨join, left, hjoin, -⟩ := bind_eq_ok hrun
    obtain ⟨left', hjoin, -⟩ := spaced_eq_ok hjoin
    exact hnext text join left' hjoin
  have hmany := hpiece.many hconsumes hbegins hlast fun text longer hlonger hrest =>
    (hstop text longer hlonger hrest).spaced.bind
  refine h.bind (fun first => hmany.bind_pure _) fun first text b rest hrun hrest => ?_
  obtain ⟨steps, left, hsteps, hend⟩ := bind_eq_ok hrun
  obtain ⟨-, rfl⟩ := Prod.mk.inj (Except.ok.inj hend)
  -- after the first operand comes an operator, or the end of them all
  rcases many_eq_ok hconsumes hsteps with ⟨-, rfl⟩ | ⟨step, -, between, -, hread, -⟩
  · exact hlast _ hrest
  · exact hbegins text step between hread

end

/-! ## Ladders -/

namespace Ladder

/-- What may come after each tier, so that it carries over when the next one does. -/
structure EndsBefore (ladder : Ladder α) (more : List Char) (ends : Nat → List Char → Prop) :
    Prop where
  operator : ∀ k, Carries more (ladder.operator k) fun _ => True
  /-- An operator may come after an operand. -/
  next : ∀ k text join rest, k < ladder.height →
    ladder.operator k (skipSpaces text) = .ok (join, rest) → ends (k + 1) text
  last : ∀ k rest, ends k rest → ends (k + 1) rest
  stop : ∀ k text longer, k < ladder.height → Extends more text longer → ends k text →
    (ladder.operator k).Fails (skipSpaces longer)

/-- If a tier carries over, so do all tiers before it. -/
theorem EndsBefore.descend {ladder : Ladder α} {more : List Char} {ends : Nat → List Char → Prop}
    (hends : ladder.EndsBefore more ends) {k j : Nat} (hk : k ≤ ladder.height) (hjk : j ≤ k)
    (h : Carries more (ladder.tier k) (ends k)) : Carries more (ladder.tier j) (ends j) := by
  induction hjk with
  | refl => exact h
  | @step k hjk ih =>
    refine ih (Nat.le_of_succ_le hk) ?_
    -- a tier joins what the next one reads by its operators
    rw [ladder.tier_eq k hk]
    exact h.leftAssoc (ladder.tier_advances (k + 1)) (ladder.operator_advances k)
      (hends.operator k) (fun text join rest => hends.next k text join rest hk) (hends.last k)
      fun text longer => hends.stop k text longer hk

end Ladder

end Reshape.Parser
