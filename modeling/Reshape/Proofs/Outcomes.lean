import Reshape.Proofs.Progress
import Reshape.Proofs.Spacing

/-!
# Outcomes of combinations

What a combination of parsers makes of a text, once it is known what its parts make of it. Failures
are not told apart: where a choice goes on to its next alternative, it does not matter why.
-/

namespace Reshape.Parser

variable {α β : Type}

/-- The parser reads nothing at the front of the text. -/
def Fails (p : Parser α) (text : List Char) : Prop := ∃ e, p text = .error e

/-- Whatever the parser reads at the front of the text, what it leaves is as described. -/
def Leaves (p : Parser α) (text : List Char) (description : List Char → Prop) : Prop :=
  ∀ a rest, p text = .ok (a, rest) → description rest

/-- A parser that reads nothing leaves whatever is asked for. -/
theorem Fails.leaves {p : Parser α} {text : List Char} (h : p.Fails text)
    (description : List Char → Prop) : p.Leaves text description := by
  obtain ⟨e, he⟩ := h
  intro a rest hrun
  rw [he] at hrun
  exact absurd hrun (by simp)

theorem Leaves.mono {p : Parser α} {text : List Char} {description weaker : List Char → Prop}
    (h : p.Leaves text description) (hweaker : ∀ rest, description rest → weaker rest) :
    p.Leaves text weaker :=
  fun a rest hrun => hweaker rest (h a rest hrun)

theorem leaves_of_ok {p : Parser α} {text rest : List Char} {a : α}
    {description : List Char → Prop} (h : p text = .ok (a, rest)) (hrest : description rest) :
    p.Leaves text description := by
  intro b rest' hrun
  simp only [h, Except.ok.injEq, Prod.mk.injEq] at hrun
  exact hrun.2 ▸ hrest

/-- If nothing can be left, nothing has been read. -/
theorem fails_of_leaves {p : Parser α} {text : List Char} (h : p.Leaves text fun _ => False) :
    p.Fails text := by
  cases hrun : p text with
  | error e => exact ⟨e, hrun⟩
  | ok r => exact (h r.1 r.2 hrun).elim

/-! ## Sequences and choices -/

section

variable {p q : Parser α} {f : α → Parser β} {text rest : List Char} {a : α}

theorem bind_ok (h : p text = .ok (a, rest)) : (p >>= f) text = f a rest := by
  -- the failure of `p` is out of the question, so only the other branch is left
  rw [run_bind, h]

/-- What the first parser may leave is all that the second one has to be looked at for. -/
theorem Leaves.bind {between description : List Char → Prop} (h : p.Leaves text between)
    (hf : ∀ a rest, between rest → (f a).Leaves rest description) :
    (p >>= f).Leaves text description := by
  intro b rest hrun
  obtain ⟨a, left, hp, hmore⟩ := bind_eq_ok hrun
  exact hf a left (h a left hp) b rest hmore

/-- A sequence fails where its first part does. -/
theorem Fails.bind (h : p.Fails text) : (p >>= f).Fails text := by
  obtain ⟨e, he⟩ := h
  exact ⟨e, by rw [run_bind, he]⟩

/-- A sequence fails as well where its second part does, on what the first one leaves. -/
theorem bind_fails (h : p text = .ok (a, rest)) (hf : (f a).Fails rest) :
    (p >>= f).Fails text := by
  rw [Fails, bind_ok h]
  exact hf

theorem seqRight_ok {q : Parser β} (h : p text = .ok (a, rest)) : (p *> q) text = q rest := by
  rw [run_seqRight, h]

theorem Fails.seqRight {q : Parser β} (h : p.Fails text) : (p *> q).Fails text := by
  obtain ⟨e, he⟩ := h
  exact ⟨e, by rw [run_seqRight, he]⟩

/-- The second alternative is not tried where the first one reads something. -/
theorem orElse_ok {r : α × List Char} (h : p text = .ok r) : (p <|> q) text = .ok r := by
  rw [run_orElse, h]

/-- Where the first alternative fails, the choice is the second one. -/
theorem orElse_next (h : p.Fails text) : (p <|> q) text = q text := by
  obtain ⟨e, he⟩ := h
  rw [run_orElse, he]

theorem Fails.orElse (hp : p.Fails text) (hq : q.Fails text) : (p <|> q).Fails text := by
  rw [Fails, orElse_next hp]
  exact hq

/-- Whichever alternative has read, it leaves what either of them leaves. -/
theorem Leaves.orElse {description : List Char → Prop} (hp : p.Leaves text description)
    (hq : q.Leaves text description) : (p <|> q).Leaves text description := by
  intro b rest hrun
  rcases orElse_eq_ok hrun with hrun | ⟨-, hrun⟩
  · exact hp b rest hrun
  · exact hq b rest hrun

theorem map_ok (f : α → β) (h : p text = .ok (a, rest)) : (f <$> p) text = .ok (f a, rest) := by
  rw [run_map, h]

theorem Leaves.map {description : List Char → Prop} (h : p.Leaves text description) (f : α → β) :
    (f <$> p).Leaves text description := by
  intro b rest hrun
  obtain ⟨a, hp, -⟩ := map_eq_ok hrun
  exact h a rest hp

theorem Fails.map (h : p.Fails text) (f : α → β) : (f <$> p).Fails text := by
  obtain ⟨e, he⟩ := h
  exact ⟨e, by rw [run_map, he]⟩

theorem optional_ok (h : p text = .ok (a, rest)) :
    Parser.optional p text = .ok (some a, rest) := by
  rw [run_optional, h]

/-- What may be missing is missing where it cannot be read. -/
theorem optional_none (h : p.Fails text) : Parser.optional p text = .ok (none, text) := by
  obtain ⟨e, he⟩ := h
  rw [run_optional, he]

/-- A test that holds of what was read changes nothing. -/
theorem accepting_ok {test : α → Bool} (h : p text = .ok (a, rest)) (ha : test a) :
    accepting p test text = .ok (a, rest) := by
  rw [accepting, h]
  simp [ha]

theorem Fails.accepting (h : p.Fails text) (test : α → Bool) : (accepting p test).Fails text := by
  obtain ⟨e, he⟩ := h
  exact ⟨e, by rw [Parser.accepting, he]⟩

end

/-! ## Spaces around -/

section

variable {p : Parser α} {text rest : List Char} {a : α}

theorem spaces_ok (text : List Char) : spaces text = .ok ((), skipSpaces text) := rfl

/-- Spaces are skipped on both sides of what is read. -/
theorem spaced_ok (h : p (skipSpaces text) = .ok (a, rest)) :
    spaced p text = .ok (a, skipSpaces rest) := by
  rw [spaced, bind_ok (spaces_ok text), bind_ok h, bind_ok (spaces_ok rest)]
  rfl

/-- Spaces that the parser itself has skipped are not there any more. -/
theorem spaced_ok_skipped (h : p (skipSpaces text) = .ok (a, skipSpaces rest)) :
    spaced p text = .ok (a, skipSpaces rest) := by
  rw [spaced_ok h, skipSpaces_skipSpaces]

theorem Leaves.spaced {between description : List Char → Prop}
    (h : p.Leaves (skipSpaces text) between)
    (hskip : ∀ rest, between rest → description (skipSpaces rest)) :
    (spaced p).Leaves text description := by
  intro b rest hrun
  rw [Parser.spaced, bind_ok (spaces_ok text)] at hrun
  -- the spaces in front are skipped by now, and those behind come after `between`
  refine h.bind (fun a' rest' hbetween => ?_) b rest hrun
  exact leaves_of_ok (bind_ok (spaces_ok rest')) (hskip rest' hbetween)

theorem Fails.spaced (h : p.Fails (skipSpaces text)) : (spaced p).Fails text := by
  rw [Fails, Parser.spaced, bind_ok (spaces_ok text)]
  exact h.bind

end

/-! ## Characters and signs -/

theorem satisfy_ok {expected : Expectation} {test : Char → Bool} {c : Char} (h : test c)
    (rest : List Char) : satisfy expected test (c :: rest) = .ok (c, rest) := by
  rw [satisfy, if_pos h]

/-- A character is refused by its test, and the end of the text always is. -/
theorem satisfy_fails {expected : Expectation} {test : Char → Bool} {text : List Char}
    (h : ∀ c ∈ text.head?, ¬test c) : (satisfy expected test).Fails text := by
  cases text with
  | nil => exact ⟨_, rfl⟩
  | cons c rest => exact ⟨_, by rw [satisfy, if_neg (h c rfl)]⟩

theorem char_ok (c : Char) (rest : List Char) : char c (c :: rest) = .ok (c, rest) :=
  satisfy_ok (beq_self_eq_true c) rest

theorem char_fails {c : Char} {text : List Char} (h : c ∉ text.head?) : (char c).Fails text := by
  refine satisfy_fails fun c' hc' heq => h ?_
  rwa [← beq_iff_eq.1 heq]

theorem oneOf_fails {cs text : List Char} (h : ∀ c ∈ text.head?, c ∉ cs) :
    (oneOf cs).Fails text := by
  refine satisfy_fails fun c hc hmem => h c hc ?_
  simpa using hmem

/-- A sign is read off the front of any text. -/
theorem sign_ok (s : String) (rest : List Char) :
    sign s (s.toList ++ rest) = .ok ((), rest) := by
  simp [sign]

theorem sign_fails {s : String} {text : List Char} (h : ¬s.toList <+: text) :
    (sign s).Fails text := by
  refine ⟨⟨text, .word⟩, if_neg ?_⟩
  rwa [List.isPrefixOf_iff_prefix]

/-- A sign is not read where another character stands than its first. -/
theorem sign_fails_of_head {s : String} {c : Char} {text : List Char} (hc : s.toList.head? = some c)
    (h : c ∉ text.head?) : (sign s).Fails text := by
  refine sign_fails fun hprefix => h ?_
  -- if the sign were there, its first character would be the first of the text
  obtain ⟨rest, rfl⟩ := hprefix
  rw [List.head?_append, hc]
  rfl

/-- Where the parser fails, its absence is seen, and nothing is read. -/
theorem absent_ok {p : Parser α} {text : List Char} (h : p.Fails text) :
    absent p text = .ok ((), text) := by
  obtain ⟨e, he⟩ := h
  rw [absent, he]

theorem absent_fails {p : Parser α} {text : List Char} {r : α × List Char} (h : p text = .ok r) :
    (absent p).Fails text := ⟨_, by rw [absent, h]⟩

/-- A run is read up to the first character that is no part of it. -/
theorem takeWhile_ok {test : Char → Bool} {t rest : List Char} (ht : ∀ c ∈ t, test c)
    (hrest : ∀ c ∈ rest.head?, ¬test c) : takeWhile test (t ++ rest) = .ok (t, rest) := by
  rw [takeWhile, takeWhile_run ht hrest, dropWhile_run ht hrest]

/-- Digits are read as long as there are any. There has to be one. -/
theorem digits_ok {t rest : List Char} (ht : ∀ c ∈ t, c.isDigit) (hne : t ≠ [])
    (hrest : ∀ c ∈ rest.head?, ¬c.isDigit) : digits (t ++ rest) = .ok (t, rest) := by
  rw [digits]
  simp only [takeWhile_run ht hrest, dropWhile_run ht hrest, List.isEmpty_iff, hne, if_false]

theorem digits_fails {text : List Char} (h : ∀ c ∈ text.head?, ¬c.isDigit) :
    digits.Fails text := by
  -- no digit stands in front, so the run of digits is empty
  have hrun : text.takeWhile Char.isDigit = [] := takeWhile_run (t := []) (by simp) h
  exact ⟨_, by rw [digits]; simp only [hrun, List.isEmpty_nil, if_true]; rfl⟩

/-! ## Repetitions -/

/-- A repetition reads once, and then goes on with what that leaves. -/
theorem many_next {p : Parser α} (hp : p.Consumes) {text rest between : List Char} {a : α}
    {as : List α} (h : p text = .ok (a, between)) (hmore : many p between = .ok (as, rest)) :
    many p text = .ok (a :: as, rest) := by
  rw [run_many hp, h]
  simp only [hmore]
  rfl

/-- A repetition ends where its parser fails, without failing itself. -/
theorem many_done {p : Parser α} (hp : p.Consumes) {text : List Char} (h : p.Fails text) :
    many p text = .ok ([], text) := by
  obtain ⟨e, he⟩ := h
  rw [run_many hp, he]

end Reshape.Parser
