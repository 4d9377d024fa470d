import Reshape.Operand.Comparison

/-!
# Comparison by leaves

`Comparator.test` takes two operands apart list by list: it pairs the items of two lists, and it
tries a single operand with each item of a list. Lists inside lists make the sides come apart at
different rates. This file says that all of this is one question about leaves, which are the
operands inside an operand that are no lists.

* A comparison holds just when it holds of a leaf of one side and a leaf of the other.
* Of two leaves, an operator and its negation never agree, whichever rule decides about them.
* So a negated operator is false just when the operator holds of all pairs of leaves. On lists that
  is no negation: both operators hold of some, and neither holds where there is no leaf.
-/

namespace Reshape

/-! ## Leaves -/

namespace Operand

/-- A leaf has no leaves but itself. -/
theorem leaves_of_mem_leaves {operand leaf : Operand} (h : leaf ∈ operand.leaves) :
    leaf.leaves = [leaf] := by
  induction operand with
  | list items ih =>
    rw [leaves_list, List.mem_flatMap] at h
    obtain ⟨item, hitem, hleaf⟩ := h
    exact ih item hitem hleaf
  | null | bool | number | float | text | object =>
    obtain rfl := List.mem_singleton.1 h
    rfl

theorem anyLeaf_iff (test : Operand → Bool) (operand : Operand) :
    operand.anyLeaf test = true ↔ ∃ leaf ∈ operand.leaves, test leaf = true := by
  induction operand with
  | list items ih =>
    rw [anyLeaf_list, leaves_list, List.any_eq_true]
    constructor
    · rintro ⟨item, hitem, htest⟩
      obtain ⟨leaf, hleaf, htest⟩ := (ih item hitem).1 htest
      exact ⟨leaf, List.mem_flatMap.2 ⟨item, hitem, hleaf⟩, htest⟩
    · rintro ⟨leaf, hleaf, htest⟩
      obtain ⟨item, hitem, hleaf⟩ := List.mem_flatMap.1 hleaf
      exact ⟨item, hitem, (ih item hitem).2 ⟨leaf, hleaf, htest⟩⟩
  | null | bool | number | float | text | object => simp [anyLeaf, leaves]

end Operand

namespace Comparator

/-! ## Comparison -/

variable (op : Comparator)

/-- Some leaf of one operand compares with some leaf of the other. -/
def TestsSomeLeaves (left right : Operand) : Prop :=
  ∃ l ∈ left.leaves, ∃ r ∈ right.leaves, op.testLeaves l r = true

/-- Items compare when leaves of their lists do. -/
theorem testItems_iff {lefts rights : List Operand}
    (h : ∀ left ∈ lefts, ∀ right, op.test left right = true ↔ op.TestsSomeLeaves left right) :
    op.testItems lefts rights = true ↔ op.TestsSomeLeaves (.list lefts) (.list rights) := by
  rw [testItems_eq_any, TestsSomeLeaves, Operand.leaves_list, Operand.leaves_list, List.any_eq_true]
  constructor
  · rintro ⟨left, hleft, hany⟩
    obtain ⟨right, hright, htest⟩ := List.any_eq_true.1 hany
    obtain ⟨l, hl, r, hr, htest⟩ := (h left hleft right).1 htest
    have hl := List.mem_flatMap.2 ⟨left, hleft, hl⟩
    have hr := List.mem_flatMap.2 ⟨right, hright, hr⟩
    exact ⟨l, hl, r, hr, htest⟩
  · rintro ⟨l, hl, r, hr, htest⟩
    obtain ⟨left, hleft, hl⟩ := List.mem_flatMap.1 hl
    obtain ⟨right, hright, hr⟩ := List.mem_flatMap.1 hr
    refine ⟨left, hleft, List.any_eq_true.2 ⟨right, hright, ?_⟩⟩
    exact (h left hleft right).2 ⟨l, hl, r, hr, htest⟩

theorem test_iff_testsSomeLeaves (left right : Operand) :
    op.test left right = true ↔ op.TestsSomeLeaves left right := by
  induction left generalizing right with
  | list lefts ih =>
    cases right with
    | list rights =>
      rw [test]
      exact op.testItems_iff ih
    | null | bool | number | float | text | object =>
      -- a single operand is compared as the list of itself, which has the same leaves
      rw [test]
      · refine (op.testItems_iff ih).trans ?_
        rw [TestsSomeLeaves, Operand.leaves_list [_], List.flatMap_singleton]
        rfl
      · simp
  | null | bool | number | float | text | object =>
    rw [test]
    · rw [Operand.anyLeaf_iff]
      simp [TestsSomeLeaves, Operand.leaves]
    · simp
    · simp

/-- Between two leaves there is nothing to take apart. -/
theorem test_of_mem_leaves {left right l r : Operand} (hl : l ∈ left.leaves)
    (hr : r ∈ right.leaves) : op.test l r = op.testLeaves l r := by
  rw [Bool.eq_iff_iff, test_iff_testsSomeLeaves, TestsSomeLeaves,
    Operand.leaves_of_mem_leaves hl, Operand.leaves_of_mem_leaves hr]
  simp

/-- Operands compare when some leaves of theirs do. -/
theorem test_iff (left right : Operand) :
    op.test left right = true ↔
      ∃ l ∈ left.leaves, ∃ r ∈ right.leaves, op.test l r = true := by
  rw [test_iff_testsSomeLeaves, TestsSomeLeaves]
  refine exists_congr fun l => and_congr_right fun hl => ?_
  refine exists_congr fun r => and_congr_right fun hr => ?_
  rw [op.test_of_mem_leaves hl hr]

/-! ## Negation -/

variable {op} {negated : Comparator}

/-- There are three operators with a negation. -/
theorem negation?_cases (h : op.negation? = some negated) :
    op = .equal ∧ negated = .notEqual
      ∨ op = .strictEqual ∧ negated = .strictNotEqual
      ∨ op = .includes ∧ negated = .excludes := by
  unfold negation? at h
  split at h
  · exact .inl ⟨rfl, (Option.some.inj h).symm⟩
  · exact .inr (.inl ⟨rfl, (Option.some.inj h).symm⟩)
  · exact .inr (.inr ⟨rfl, (Option.some.inj h).symm⟩)
  · exact absurd h (by simp)

theorem testNull_negation (h : op.negation? = some negated) (both : Bool) :
    negated.testNull both = !op.testNull both := by
  rcases negation?_cases h with ⟨rfl, rfl⟩ | ⟨rfl, rfl⟩ | ⟨rfl, rfl⟩ <;> rfl

/-- What is not a number is no exception: it is equal to nothing, and so unequal to all. -/
theorem testNumbers_negation (h : op.negation? = some negated) (left right : Float)
    (leftText rightText : String) :
    negated.testNumbers left right leftText rightText
      = !op.testNumbers left right leftText rightText := by
  rcases negation?_cases h with ⟨rfl, rfl⟩ | ⟨rfl, rfl⟩ | ⟨rfl, rfl⟩ <;> rfl

theorem testTexts_negation (h : op.negation? = some negated) (left right : String) :
    negated.testTexts left right = !op.testTexts left right := by
  rcases negation?_cases h with ⟨rfl, rfl⟩ | ⟨rfl, rfl⟩ | ⟨rfl, rfl⟩ <;> rfl

/-- Of two leaves, exactly one of an operator and its negation holds. -/
theorem testLeaves_negation (h : op.negation? = some negated) (left right : Operand) :
    negated.testLeaves left right = !op.testLeaves left right := by
  unfold testLeaves
  split
  · exact testNull_negation h _
  · split
    · exact testNumbers_negation h ..
    · exact testTexts_negation h ..

theorem negation_test_eq_false_iff (h : op.negation? = some negated) (left right : Operand) :
    negated.test left right = false ↔
      ∀ l ∈ left.leaves, ∀ r ∈ right.leaves, op.test l r = true := by
  rw [← Bool.not_eq_true, test_iff]
  simp only [not_exists, not_and]
  refine forall_congr' fun l => imp_congr_right fun hl => ?_
  refine forall_congr' fun r => imp_congr_right fun hr => ?_
  rw [negated.test_of_mem_leaves hl hr, op.test_of_mem_leaves hl hr, testLeaves_negation h]
  simp

end Comparator

/--
**Comparison is existential over leaves, and negated operators are complements on leaves.** A
comparison holds when it does between some leaf of either side. A negated operator is false only
when the operator it negates holds between all of them. So no comparison holds where a side has no
leaf, and where both have one an operator or its negation holds, or both.
-/
theorem comparison_by_leaves (left right : Operand) :
    (∀ op : Comparator, op.test left right = true ↔
      ∃ l ∈ left.leaves, ∃ r ∈ right.leaves, op.test l r = true)
    ∧ (∀ op negated : Comparator, op.negation? = some negated →
      (negated.test left right = false ↔
        ∀ l ∈ left.leaves, ∀ r ∈ right.leaves, op.test l r = true))
    ∧ (left.leaves = [] ∨ right.leaves = [] → ∀ op : Comparator, op.test left right = false)
    ∧ (left.leaves ≠ [] → right.leaves ≠ [] → ∀ op negated : Comparator,
      op.negation? = some negated →
      op.test left right = true ∨ negated.test left right = true) := by
  refine ⟨fun op => op.test_iff left right,
    fun op negated h => Comparator.negation_test_eq_false_iff h left right, ?_, ?_⟩
  · intro hempty op
    rw [← Bool.not_eq_true, Comparator.test_iff]
    rintro ⟨l, hl, r, hr, -⟩
    rcases hempty with hempty | hempty
    · rw [hempty] at hl
      exact absurd hl List.not_mem_nil
    · rw [hempty] at hr
      exact absurd hr List.not_mem_nil
  · intro hleft hright op negated h
    obtain ⟨l, hl⟩ := List.exists_mem_of_ne_nil _ hleft
    obtain ⟨r, hr⟩ := List.exists_mem_of_ne_nil _ hright
    cases hnegated : negated.test left right with
    | true => exact .inr rfl
    | false =>
      have hall := (Comparator.negation_test_eq_false_iff h left right).1 hnegated
      exact .inl ((op.test_iff left right).2 ⟨l, hl, r, hr, hall l hl r hr⟩)

/-- Two texts, one of them in a list of its own. -/
def twoStates : Operand := .list [.list [.text "new"], .text "old"]

/-- The same text twice, beside a list without leaves. -/
def oneState : Operand := .list [.text "old", .list [], .list [.text "old"]]

/--
A list of two texts is both equal and unequal to one of them, and a list of equal texts only equal.
Where there is no leaf, neither holds.
-/
theorem comparison_by_leaves_states :
    Comparator.negation? .strictEqual = some .strictNotEqual
    ∧ twoStates.leaves = [.text "new", .text "old"] ∧ oneState.leaves = [.text "old", .text "old"]
    ∧ Comparator.strictEqual.test twoStates (.text "old") = true
    ∧ (∃ l ∈ twoStates.leaves, ∃ r ∈ Operand.leaves (.text "old"),
      Comparator.strictEqual.test l r = true)
    ∧ Comparator.strictNotEqual.test twoStates (.text "old") = true
    ∧ Comparator.strictNotEqual.test oneState (.text "old") = false
    ∧ (∀ l ∈ oneState.leaves, ∀ r ∈ Operand.leaves (.text "old"),
      Comparator.strictEqual.test l r = true)
    ∧ (Comparator.strictEqual.test oneState (.text "old") = true
      ∨ Comparator.strictNotEqual.test oneState (.text "old") = true)
    ∧ Operand.leaves (.list [.list []]) = []
    ∧ Comparator.strictEqual.test (.list [.list []]) twoStates = false
    ∧ Comparator.strictNotEqual.test (.list [.list []]) twoStates = false := by
  have hnegation : Comparator.negation? .strictEqual = some .strictNotEqual := rfl
  have htwo : Comparator.strictEqual.test twoStates (.text "old") = true := by decide
  have hone : Comparator.strictNotEqual.test oneState (.text "old") = false := by decide
  have hnone : Operand.leaves (.list [.list []]) = [] := rfl
  obtain ⟨hsome, -, -, -⟩ := comparison_by_leaves twoStates (.text "old")
  obtain ⟨-, hall, -, heither⟩ := comparison_by_leaves oneState (.text "old")
  obtain ⟨-, -, hempty, -⟩ := comparison_by_leaves (.list [.list []]) twoStates
  exact ⟨hnegation, rfl, rfl, htwo, (hsome .strictEqual).1 htwo, by decide, hone,
    (hall _ _ hnegation).1 hone,
    heither (List.cons_ne_nil _ _) (List.cons_ne_nil _ _) _ _ hnegation, hnone,
    hempty (.inl hnone) .strictEqual, hempty (.inl hnone) .strictNotEqual⟩

end Reshape
