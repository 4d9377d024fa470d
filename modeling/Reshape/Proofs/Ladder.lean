import Reshape.Proofs.Outcomes

/-!
# Ladders of operators

Operators of several strengths, all of which group to the left, are read on a ladder: each tier
joins what the next tier reads by the operators of one strength, and the last tier reads operands
without an operator. This file shows that a ladder reads a tree back as it was, whatever the
operators and the operands are:

* `Ladder.Placed.operand` — an operand is read back on every tier;
* `Ladder.Placed.node` — so are two trees with an operator between them, if the left one binds at
  least as tightly as the operator, and the right one more tightly.

What may come after a text is left open as `after`. In addition no operator may come there that
binds as tightly as the tier, as it would be read as well: this is what `Stops` says.
-/

namespace Reshape.Parser

variable {α : Type}

/-! ## One tier -/

section

variable {operand : Parser α} {operator : Parser (α → α → α)} {text between rest : List Char}
  {first next : α} {join : α → α → α}

/-- After the first operand, the operators are joined to it. -/
theorem leftAssoc_eq_joined (h : operand text = .ok (first, rest)) :
    leftAssoc operand operator text = joined operand operator first rest :=
  bind_ok h

/-- An operator and its operand are joined, and then the next ones. -/
theorem joined_next (hconsumes : (operation operand operator).Consumes)
    (hoperator : spaced operator text = .ok (join, between))
    (hnext : operand between = .ok (next, rest)) :
    joined operand operator first text = joined operand operator (join first next) rest := by
  have hpiece : operation operand operator text = .ok ((join, next), rest) := by
    rw [operation, bind_ok hoperator, bind_ok hnext]
    rfl
  -- both sides join the same pieces, the left one with the first of them still to come
  rw [joined, joined, run_bind, run_bind, run_many hconsumes, hpiece]
  simp only
  cases hmore : many (operation operand operator) rest with
  | error e => rfl
  | ok r => rfl

theorem joined_done (hconsumes : (operation operand operator).Consumes)
    (hfails : (operation operand operator).Fails text) :
    joined operand operator first text = .ok (first, text) :=
  bind_ok (many_done hconsumes hfails)

theorem operation_fails (hoperator : operator.Fails (skipSpaces text)) :
    (operation operand operator).Fails text :=
  hoperator.spaced.bind

end

/-! ## All tiers -/

/-- Tiers of operators, the loosest first. The last tier has operands only. -/
structure Ladder (α : Type) where
  height : Nat
  tier : Nat → Parser α
  operator : Nat → Parser (α → α → α)
  /-- A tier joins what the next one reads. -/
  tier_eq : ∀ k < height, tier k = leftAssoc (tier (k + 1)) (operator k)
  tier_advances : ∀ k, (tier k).Advances
  operator_advances : ∀ k, (operator k).Advances

namespace Ladder

variable (ladder : Ladder α) (after : List Char → List Char → Prop)

/-- No operator from the tier on upwards stands at the front of the text. -/
def Stops (k : Nat) (rest : List Char) : Prop :=
  ∀ j, k ≤ j → j < ladder.height → (ladder.operator j).Fails (skipSpaces rest)

/-- The tier reads the text `t` back as `a`. -/
def Reads (k : Nat) (a : α) (t : List Char) : Prop :=
  ∀ text rest, skipSpaces text = t ++ rest → after t rest → ladder.Stops k rest →
    ladder.tier k text = .ok (a, skipSpaces rest)

/-- The tier reads the text `t` as `a`, and may go on to join more to it. -/
def Grows (k : Nat) (a : α) (t : List Char) : Prop :=
  ∀ text rest, skipSpaces text = t ++ rest → after t rest → ladder.Stops (k + 1) rest →
    ladder.tier k text = joined (ladder.tier (k + 1)) (ladder.operator k) a (skipSpaces rest)

/-- The text is read as `a` on every tier up to `strength`. -/
structure Placed (strength : Nat) (a : α) (t : List Char) : Prop where
  reads : ∀ k ≤ strength, k ≤ ladder.height → ladder.Reads after k a t
  grows : ∀ k ≤ strength, k < ladder.height → ladder.Grows after k a t

variable {ladder after}

theorem operation_consumes (k : Nat) :
    (operation (ladder.tier (k + 1)) (ladder.operator k)).Consumes :=
  ((ladder.tier_advances (k + 1)).operation (ladder.operator_advances k)).consumes

theorem Stops.mono {j k : Nat} {rest : List Char} (h : ladder.Stops j rest) (hjk : j ≤ k) :
    ladder.Stops k rest :=
  fun i hki hi => h i (Nat.le_trans hjk hki) hi

/-- What the next tier reads is joined to on this one. -/
theorem Reads.grows {k : Nat} {a : α} {t : List Char} (hk : k < ladder.height)
    (h : ladder.Reads after (k + 1) a t) : ladder.Grows after k a t := by
  intro text rest htext hafter hstops
  rw [ladder.tier_eq k hk]
  exact leftAssoc_eq_joined (h text rest htext hafter hstops)

/-- What may be joined to is all there is where no operator comes. -/
theorem Grows.reads {k : Nat} {a : α} {t : List Char} (hk : k < ladder.height)
    (h : ladder.Grows after k a t) : ladder.Reads after k a t := by
  intro text rest htext hafter hstops
  rw [h text rest htext hafter (hstops.mono (Nat.le_succ k))]
  refine joined_done (operation_consumes k) (operation_fails ?_)
  rw [skipSpaces_skipSpaces]
  exact hstops k (Nat.le_refl k) hk

/-- What is read on one tier is read on all tiers before it. -/
theorem Reads.descend {k j : Nat} {a : α} {t : List Char} (hk : k ≤ ladder.height) (hjk : j ≤ k)
    (h : ladder.Reads after k a t) : ladder.Reads after j a t := by
  induction hjk with
  | refl => exact h
  | step _ ih => exact ih (Nat.le_of_succ_le hk) ((h.grows hk).reads hk)

/-- Where no operator with an operand comes next, every tier leaves what the operand does. -/
theorem leaves_of_operation_fails {k j : Nat} {text left : List Char} (hk : k ≤ ladder.height)
    (hjk : j ≤ k) (h : (ladder.tier k).Leaves text (· = left))
    (hfails : ∀ i, j ≤ i → i < ladder.height →
      (operation (ladder.tier (i + 1)) (ladder.operator i)).Fails left) :
    (ladder.tier j).Leaves text (· = left) := by
  induction hjk with
  | refl => exact h
  | @step k hjk ih =>
    refine ih (Nat.le_of_succ_le hk) ?_
    rw [ladder.tier_eq k hk]
    refine h.bind fun a left hleft => ?_
    subst hleft
    exact leaves_of_ok (joined_done (operation_consumes k) (hfails k hjk hk)) rfl

/-- So where no operator does. -/
theorem leaves_descend {k j : Nat} {text rest : List Char} (hk : k ≤ ladder.height) (hjk : j ≤ k)
    (h : (ladder.tier k).Leaves text fun left => left = skipSpaces rest)
    (hstops : ladder.Stops j rest) :
    (ladder.tier j).Leaves text fun left => left = skipSpaces rest :=
  leaves_of_operation_fails hk hjk h fun i hji hi => operation_fails <| by
    rw [skipSpaces_skipSpaces]
    exact hstops i hji hi

/-- An operand without an operator is read back on every tier. -/
theorem Placed.operand {a : α} {t : List Char} (h : ladder.Reads after ladder.height a t) :
    ladder.Placed after ladder.height a t where
  reads _ hk _ := h.descend (Nat.le_refl _) hk
  grows _ _ hk := (h.descend (Nat.le_refl _) hk).grows hk

/-- On the tiers before its own, a tree is read as what the next tier reads. -/
theorem Placed.of_grows {k : Nat} {a : α} {t : List Char} (hk : k < ladder.height)
    (h : ladder.Grows after k a t) : ladder.Placed after k a t where
  reads _ hjk _ := (h.reads hk).descend (Nat.le_of_lt hk) hjk
  grows j hjk hj := by
    rcases Nat.lt_or_eq_of_le hjk with hlt | rfl
    · exact ((h.reads hk).descend (Nat.le_of_lt hk) hlt).grows hj
    · exact h

/-- The sign `s` between the texts `l` and `r` is read as the operator `join` of tier `k`. -/
structure Joins (ladder : Ladder α) (after : List Char → List Char → Prop) (k : Nat)
    (join : α → α → α) (l before s behind r : List Char) : Prop where
  gap_before : IsGap before
  sign : Begins s
  gap_behind : IsGap behind
  right : Begins r
  reads : ∀ rest, ladder.operator k (s ++ (behind ++ (r ++ rest))) =
    .ok (join, behind ++ (r ++ rest))
  /-- No tighter operator is read in its place. -/
  stops : ∀ rest, ladder.Stops (k + 1) (s ++ (behind ++ (r ++ rest)))
  after_left : ∀ rest, after l (before ++ (s ++ (behind ++ (r ++ rest))))

/-- Two trees with an operator between them are read back on every tier up to the operator's. -/
theorem Placed.node {k i j : Nat} {join : α → α → α} {a b : α} {l before s behind r : List Char}
    (hk : k < ladder.height) (hl : ladder.Placed after i a l) (hi : k ≤ i)
    (hr : ladder.Placed after j b r) (hj : k < j)
    (hjoins : Joins ladder after k join l before s behind r)
    (hafter : ∀ t rest, after (t ++ r) rest → after r rest) :
    ladder.Placed after k (join a b) (l ++ (before ++ (s ++ (behind ++ r)))) := by
  refine .of_grows hk fun text rest htext hrest hstops => ?_
  have hsign : skipSpaces (before ++ (s ++ (behind ++ (r ++ rest)))) =
      s ++ (behind ++ (r ++ rest)) := skipSpaces_gap hjoins.gap_before (hjoins.sign.append _)
  have hright : skipSpaces (behind ++ (r ++ rest)) = r ++ rest :=
    skipSpaces_gap hjoins.gap_behind (hjoins.right.append _)
  have hsignAgain := skipSpaces_of_begins (hjoins.sign.append (behind ++ (r ++ rest)))
  have hstopsSign : ladder.Stops (k + 1) (before ++ (s ++ (behind ++ (r ++ rest)))) := by
    intro m hm hlt
    have hfails := hjoins.stops rest m hm hlt
    rwa [hsignAgain, ← hsign] at hfails
  -- the tier reads the left tree as far as it goes, and has this operator before it
  have hleft := hl.grows k hi hk text (before ++ (s ++ (behind ++ (r ++ rest))))
    (by simp only [htext, List.append_assoc]) (hjoins.after_left rest) hstopsSign
  have hoperator : spaced (ladder.operator k) (s ++ (behind ++ (r ++ rest))) =
      .ok (join, r ++ rest) := by
    rw [spaced_ok (by rw [hsignAgain, hjoins.reads rest]), hright]
  -- the right tree is left to the next tier, so no operator of this strength is taken for a part
  have hnext := hr.reads (k + 1) hj hk (r ++ rest) rest
    (skipSpaces_of_begins (hjoins.right.append rest))
    (hafter (l ++ (before ++ (s ++ behind))) rest (by simpa only [List.append_assoc] using hrest))
    hstops
  rw [hleft, hsign]
  exact joined_next (operation_consumes k) hoperator hnext

end Ladder

end Reshape.Parser
