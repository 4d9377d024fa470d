import Reshape.Text.Case

/-!
# Parsers with ordered choice

A parser reads from the front of a text and returns a value with the rest of the text, or says
where it failed and what it expected there. `p <|> q` runs `q` from the same place when `p` fails,
so a choice reports what its last alternative reports. Repetitions stop, without failing, in front
of the first piece that cannot be read in full.

A repetition is bounded by the length of the text it starts from. A piece that reads at least one
character each time never meets that bound.
-/

namespace Reshape

/-- What was expected where a parser failed. -/
inductive Expectation where
  /-- One certain character. -/
  | char
  /-- A certain word or sign. -/
  | word
  /-- A character of a class. -/
  | charClass
  /-- One of a few characters. -/
  | oneOf
  /-- A digit, or a number that is not too large. -/
  | digits
  /-- Something that passes a test. -/
  | accepted
  /-- Something that stands for a value. -/
  | value
  /-- Something else than what is there. -/
  | absence
deriving DecidableEq

/-- Where a parser failed, and what it expected there. -/
structure Failure where
  rest : List Char
  expected : Expectation

/-- Reads from the front of a text. -/
abbrev Parser := StateT (List Char) (Except Failure)

namespace Parser

variable {α β : Type}

/-- Fails here. -/
def fail (expected : Expectation) : Parser α := fun text => .error ⟨text, expected⟩

/-! ## Characters and words -/

/-- One character that passes the test. -/
def satisfy (expected : Expectation) (test : Char → Bool) : Parser Char
  | [] => .error ⟨[], expected⟩
  | c :: rest => if test c then .ok (c, rest) else .error ⟨c :: rest, expected⟩

/-- The character `c`. -/
def char (c : Char) : Parser Char := satisfy .char (· == c)

/-- One of the characters `cs`. -/
def oneOf (cs : List Char) : Parser Char := satisfy .oneOf cs.contains

/-- The sign `s`, exactly. -/
def sign (s : String) : Parser Unit := fun text =>
  let cs := s.toList
  if cs.isPrefixOf text then .ok ((), text.drop cs.length) else .error ⟨text, .word⟩

/-- The word `w`, its ASCII letters in either case. -/
def word (w : String) : Parser Unit := fun text =>
  let cs := w.toList
  if Text.sameWord cs (text.take cs.length) then .ok ((), text.drop cs.length)
  else .error ⟨text, .word⟩

/-- As many characters as pass the test, maybe none. -/
def takeWhile (test : Char → Bool) : Parser (List Char) := fun text =>
  .ok (text.takeWhile test, text.dropWhile test)

/-- One digit or more. -/
def digits : Parser (List Char) := fun text =>
  let ds := text.takeWhile Char.isDigit
  if ds.isEmpty then .error ⟨text, .digits⟩ else .ok (ds, text.dropWhile Char.isDigit)

/-- The blanks that may stand between the parts of a text: spaces, tabs and line ends. -/
def isSpace (c : Char) : Bool := c == ' ' || c == '\t' || c == '\r' || c == '\n'

/-- The text without the spaces in front of it. -/
def skipSpaces (text : List Char) : List Char := text.dropWhile isSpace

/-- Spaces, maybe none. -/
def spaces : Parser Unit := fun text => .ok ((), skipSpaces text)

/-! ## Combinations -/

/-- `p` between spaces. -/
def spaced (p : Parser α) : Parser α := do
  spaces
  let a ← p
  spaces
  return a

/-- `p` if it can be read. -/
def optional (p : Parser α) : Parser (Option α) := (some <$> p) <|> pure none

/-- Reads nothing, and only where `p` cannot be read. -/
def absent (p : Parser α) : Parser Unit := fun text =>
  match p text with
  | .ok _ => .error ⟨text, .absence⟩
  | .error _ => .ok ((), text)

/-- `p`, whose result must pass the test; if it does not, the failure is where `p` began. -/
def accepting (p : Parser α) (test : α → Bool) : Parser α := fun text =>
  match p text with
  | .ok (a, rest) => if test a then .ok (a, rest) else .error ⟨text, .accepted⟩
  | .error e => .error e

/-- `p`, whose result must stand for a value; if it does not, the failure is where `p` began. -/
def converting (p : Parser α) (f : α → Option β) : Parser β := fun text =>
  match p text with
  | .ok (a, rest) =>
    match f a with
    | some b => .ok (b, rest)
    | none => .error ⟨text, .value⟩
  | .error e => .error e

/-- `p` as often as it can be read, at most once for each character of `bound`. -/
def manyWithin (p : Parser α) (bound : List Char) : Parser (List α) := fun text =>
  match bound with
  | [] => .ok ([], text)
  | _ :: bound =>
    match p text with
    | .error _ => .ok ([], text)
    | .ok (a, rest) => (manyWithin p bound rest).map fun (as, rest) => (a :: as, rest)

/-- `p` as often as it can be read. -/
def many (p : Parser α) : Parser (List α) := fun text => manyWithin p text text

/-- `p` at least once, and as often as it can be read. -/
def many1 (p : Parser α) : Parser (List α) := do
  let a ← p
  let as ← many p
  return a :: as

/-- `p` at least once, with a separator between each two. -/
def sepBy1 (p : Parser α) (separator : Parser β) : Parser (List α) := do
  let a ← p
  let as ← many (separator *> p)
  return a :: as

/-- An operator between spaces and the operand after it. -/
def operation (operand : Parser α) (operator : Parser (α → α → α)) : Parser ((α → α → α) × α) := do
  let join ← spaced operator
  let next ← operand
  return (join, next)

/-- What is joined to an operand by operators, grouped to the left. -/
def joined (operand : Parser α) (operator : Parser (α → α → α)) (first : α) : Parser α := do
  let more ← many (operation operand operator)
  return more.foldl (fun left (join, next) => join left next) first

/-- Operands joined by operators between spaces, grouped to the left. -/
def leftAssoc (operand : Parser α) (operator : Parser (α → α → α)) : Parser α := do
  joined operand operator (← operand)

/-! ## Whole texts -/

/-- Why a whole text could not be read. -/
inductive Fault where
  /-- A part of it was read, and this was left. -/
  | leftover (rest : List Char)
  /-- The parser failed. -/
  | failure (failure : Failure)

/-- Reads the whole text. -/
def runAll (p : Parser α) (text : List Char) : Except Fault α :=
  match p text with
  | .ok (a, []) => .ok a
  | .ok (_, c :: rest) => .error (.leftover (c :: rest))
  | .error e => .error (.failure e)

/-! ## How combinations run -/

@[simp] theorem run_pure (a : α) (text : List Char) :
    (pure a : Parser α) text = .ok (a, text) := rfl

theorem run_bind (p : Parser α) (f : α → Parser β) (text : List Char) :
    (p >>= f) text =
      match p text with
      | .ok (a, rest) => f a rest
      | .error e => .error e := by
  change Except.bind (p text) _ = _
  cases p text <;> rfl

/-- A choice is decided by its first alternative, unless that fails. -/
theorem run_orElse (p q : Parser α) (text : List Char) :
    (p <|> q) text =
      match p text with
      | .ok r => .ok r
      | .error _ => q text := by
  change Except.tryCatch (p text) _ = _
  cases p text <;> rfl

theorem run_map (f : α → β) (p : Parser α) (text : List Char) :
    (f <$> p) text =
      match p text with
      | .ok (a, rest) => .ok (f a, rest)
      | .error e => .error e := by
  change Except.bind (p text) _ = _
  cases p text <;> rfl

theorem run_seqRight (p : Parser α) (q : Parser β) (text : List Char) :
    (p *> q) text =
      match p text with
      | .ok (_, rest) => q rest
      | .error e => .error e := by
  change Except.bind (p text) _ = _
  cases p text <;> rfl

theorem run_optional (p : Parser α) (text : List Char) :
    Parser.optional p text =
      match p text with
      | .ok (a, rest) => .ok (some a, rest)
      | .error _ => .ok (none, text) := by
  rw [Parser.optional, run_orElse]
  simp only [Functor.map, StateT.map, bind, Except.bind]
  cases p text <;> rfl

/-! ## Repetition without a bound -/

/-- A parser that reads at least one character whenever it succeeds. -/
def Consumes (p : Parser α) : Prop :=
  ∀ text a rest, p text = .ok (a, rest) → rest.length < text.length

/-- The bound of a repetition does not matter as long as it is no shorter than the text. -/
theorem manyWithin_eq_manyWithin {p : Parser α} (hp : p.Consumes) {bound bound' text : List Char}
    (h : text.length ≤ bound.length) (h' : text.length ≤ bound'.length) :
    manyWithin p bound text = manyWithin p bound' text := by
  induction bound generalizing bound' text with
  | nil =>
    have htext : text = [] := List.eq_nil_of_length_eq_zero (Nat.le_zero.1 h)
    subst htext
    cases bound' with
    | nil => rfl
    | cons c bound' =>
      simp only [manyWithin]
      split
      · rfl
      · next a rest hrun => exact absurd (hp _ _ _ hrun) (Nat.not_lt_zero _)
  | cons c bound ih =>
    cases bound' with
    | nil =>
      have htext : text = [] := List.eq_nil_of_length_eq_zero (Nat.le_zero.1 h')
      subst htext
      simp only [manyWithin]
      split
      · rfl
      · next a rest hrun => exact absurd (hp _ _ _ hrun) (Nat.not_lt_zero _)
    | cons c' bound' =>
      simp only [manyWithin]
      split
      · rfl
      · next a rest hrun =>
        have hlt := hp _ _ _ hrun
        simp only [List.length_cons] at h h'
        rw [ih (Nat.le_of_lt_succ (Nat.lt_of_lt_of_le hlt h))
          (Nat.le_of_lt_succ (Nat.lt_of_lt_of_le hlt h'))]

/-- A repetition goes on after each piece as if it started there. -/
theorem run_many {p : Parser α} (hp : p.Consumes) (text : List Char) :
    many p text =
      match p text with
      | .ok (a, rest) => (many p rest).map fun (as, rest) => (a :: as, rest)
      | .error _ => .ok ([], text) := by
  cases text with
  | nil =>
    cases hrun : p [] with
    | error e => rfl
    | ok r => exact absurd (hp _ _ _ hrun) (Nat.not_lt_zero _)
  | cons c text =>
    simp only [many, manyWithin]
    cases hrun : p (c :: text) with
    | error e => rfl
    | ok r =>
      obtain ⟨a, rest⟩ := r
      have hlt := hp _ _ _ hrun
      simp only
      rw [manyWithin_eq_manyWithin hp (Nat.le_of_lt_succ hlt) (Nat.le_refl _)]

end Parser

end Reshape
