import Reshape.Proofs.Doubles
import Reshape.Proofs.Leaves
import Reshape.Proofs.Numbers

/-!
# The comparisons agree with each other

Every operator of comparison decides each pair of leaves by itself, with a rule for `null`, one for
numbers and one for texts. This file says that the answers fit together, whatever mix of leaves they
are about.

* Two leaves that are not `null` have an order, `Operand.order?`: that of doubles if both are
  numbers, and that of their texts if not. Only what is not a number is in no order.
* `<`, `<=`, `==`, `>=` and `>` each hold in one or two of the three orders (`Comparator.holdsIn?`).
  So `>=` is `>` or `==`, and of `<`, `==` and `>` exactly one holds.
* An operator and its converse give the same answer for the two sides exchanged. This is so for
  `null` too.

An integer is compared as the double nearest to it. However many digits it has, that is a number
(`not_isNaN_ofInt`), though it may be an infinite one.
-/

namespace Reshape

/-! ## Doubles -/

section

open Float.Model Float.Model.UnpackedFloat

/-- The order of two unpacked doubles is turned when they are exchanged. -/
theorem compare_unpacked_swap (u v : UnpackedFloat) :
    v.compare u = (u.compare v).map Ordering.swap := by
  have hfinite (e e' : Int) (m m' : Nat) : (compare e' e).then (compare m' m)
      = ((compare e e').then (compare m m')).swap := by
    rw [Ordering.swap_then, Int.compare_swap, Nat.compare_swap]
  -- only two finite numbers of one sign are compared by more than their signs
  rcases u with (_ | _) | _ | (_ | _) | ⟨_ | _, m, e, hm⟩ <;>
    rcases v with (_ | _) | _ | (_ | _) | ⟨_ | _, m', e', hm'⟩ <;> try rfl
  · exact congrArg (fun o => some (Ordering.swap o)) (hfinite e e' m m')
  · exact congrArg some (hfinite e e' m m')

/-- Two numbers are in some order. -/
theorem exists_compare_unpacked {u v : UnpackedFloat} (hu : ¬u.isNaN) (hv : ¬v.isNaN) :
    ∃ o, u.compare v = some o := by
  unfold UnpackedFloat.compare
  split
  · exact absurd rfl hu
  · exact absurd rfl hv
  all_goals exact ⟨_, rfl⟩

/-- The order of two doubles. Nothing that is not a number is in an order, and zeros are equal. -/
def doubleOrder? (x y : Float) : Option Ordering := x.toModel.compare y.toModel

/-- With the sides exchanged, the order is the other way round. -/
theorem doubleOrder?_swap (x y : Float) (o : Ordering) :
    doubleOrder? y x = some o ↔ doubleOrder? x y = some o.swap := by
  have hswap : doubleOrder? y x = (doubleOrder? x y).map Ordering.swap :=
    compare_unpacked_swap x.toModel.unpack y.toModel.unpack
  rw [hswap, Option.map_eq_some_iff]
  constructor
  · rintro ⟨o', ho, rfl⟩
    rw [ho, Ordering.swap_swap]
  · intro ho
    exact ⟨o.swap, ho, Ordering.swap_swap⟩

theorem exists_doubleOrder? {x y : Float} (hx : ¬x.isNaN) (hy : ¬y.isNaN) :
    ∃ o, doubleOrder? x y = some o :=
  exists_compare_unpacked hx hy

/-- The order says which double is less. -/
theorem lt_iff_doubleOrder? (x y : Float) : x < y ↔ doubleOrder? x y = some .lt := by
  change decide ((doubleOrder? x y == some .lt) = true) = true ↔ _
  rw [decide_eq_true_iff, beq_iff_eq]

/-- The order says which doubles are equal. -/
theorem beq_iff_doubleOrder? (x y : Float) : x == y ↔ doubleOrder? x y = some .eq := by
  change (doubleOrder? x y == some .eq) = true ↔ _
  exact beq_iff_eq

/-- At most is less or equal. -/
theorem le_iff_doubleOrder? (x y : Float) :
    x ≤ y ↔ doubleOrder? x y = some .lt ∨ doubleOrder? x y = some .eq := by
  change decide ((doubleOrder? x y).any Ordering.isLE = true) = true ↔ _
  rw [decide_eq_true_iff]
  rcases doubleOrder? x y with _ | (_ | _ | _) <;> simp

/-! ## Integers made doubles -/

/-- A zero or a finite double, whichever its mantissa makes it, is a number. -/
theorem not_isNaN_zero_or_finite {c : Prop} [Decidable c] (s : Sign) {m : Nat} (e : Int)
    (hm : ¬c → 0 < m) :
    ¬(if h : c then UnpackedFloat.zero s else .finite s m e (hm h)).isNaN := by
  by_cases h : c
  · rw [dif_pos h]
    exact Bool.false_ne_true
  · rw [dif_neg h]
    exact Bool.false_ne_true

/-- Only the greatest exponent marks what is not a number. -/
theorem not_isNaN_of_exponent {b : BitVec Format.binary64.numBits}
    (h : @unpackExponent Format.binary64 b ≠ -1#_) :
    ¬(UnpackedFloat.unpack Format.binary64 b).isNaN := by
  unfold UnpackedFloat.unpack
  dsimp only
  rw [if_neg h]
  by_cases hzero : @unpackExponent Format.binary64 b = 0#_
  · rw [if_pos hzero]
    exact not_isNaN_zero_or_finite _ _ _
  · rw [if_neg hzero]
    exact Bool.false_ne_true

/-- What is a number remains one when it is packed, though it may become infinite. -/
theorem not_isNaN_unpack_pack {u : UnpackedFloat} (h : ¬u.isNaN) :
    ¬(Float.Model.pack u).unpack.isNaN := by
  cases u with
  | notANumber => exact absurd rfl h
  | infinity s => cases s <;> exact Bool.false_ne_true
  | zero s => cases s <;> exact Bool.false_ne_true
  | finite s m e hm =>
    -- the exponent fits its field, or the double becomes infinite
    by_cases hsmall : (e + 1075).toNat < 2047
    · exact not_isNaN_of_exponent (@exponent_pack s m e hm hsmall)
    · have hbiased : (e + (1023 : Nat) + (52 : Nat)).toNat = (e + 1075).toNat := by omega
      have hbias : Format.binary64.exponentBias = 1023 := rfl
      have hinfinite : UnpackedFloat.pack Format.binary64 (.finite s m e hm)
          = packedInfinity Format.binary64 s := by
        unfold UnpackedFloat.pack
        dsimp only
        rw [hbias, hbiased, if_pos (by change 2048 ≤ _; omega)]
      change ¬(UnpackedFloat.unpack Format.binary64 (UnpackedFloat.pack _ _)).isNaN
      rw [hinfinite]
      cases s <;> exact Bool.false_ne_true

/-- Rounding makes a zero or a finite double. -/
theorem not_isNaN_roundWithAccuracy (spec : Format) (s : Sign) (m : Nat) (e : Int)
    (accuracy : Accuracy) : ¬(roundWithAccuracy spec s m e accuracy).isNaN := by
  unfold roundWithAccuracy
  exact not_isNaN_zero_or_finite _ _ _

theorem Denotes.not_isNaN {u : UnpackedFloat} {n : Int} (h : Denotes u n) : ¬u.isNaN := by
  cases h <;> exact Bool.false_ne_true

theorem not_isNaN_ofNat (n : Nat) : ¬(Float.ofNat n).toModel.unpack.isNaN := by
  -- a small number is stored as it is, and any other is rounded
  by_cases hsmall : n < 2 ^ 53
  · exact (denotes_ofNat (by omega)).not_isNaN
  · change ¬(Float.ofScientific n false 0).toModel.unpack.isNaN
    unfold Float.ofScientific
    rw [dif_neg (fun h => hsmall h.1)]
    refine not_isNaN_unpack_pack ?_
    change ¬(UnpackedFloat.ofScientific Format.binary64 n 0).isNaN
    rw [ofScientific_zero (by omega)]
    exact not_isNaN_roundWithAccuracy _ _ _ _ _

/-- Every integer becomes a number, with its sign turned for a negative one. -/
theorem not_isNaN_ofInt (n : Int) : ¬(Float.ofInt n).isNaN := by
  cases n with
  | ofNat n => exact not_isNaN_ofNat n
  | negSucc n =>
    change ¬(Float.Model.pack (Float.ofNat (n + 1)).toModel.unpack.neg).unpack.isNaN
    refine not_isNaN_unpack_pack ?_
    have hnat := not_isNaN_ofNat (n + 1)
    generalize (Float.ofNat (n + 1)).toModel.unpack = u at hnat
    cases u with
    | notANumber => exact absurd rfl hnat
    | infinity | zero | finite => exact Bool.false_ne_true

end

/-! ## Leaves -/

namespace Operand

/-- The order of two leaves, by the rule that compares them. -/
def order? (left right : Operand) : Option Ordering :=
  match left.asFloat?, right.asFloat? with
  | some l, some r => doubleOrder? l r
  | _, _ => some (compareOfLessAndEq left.render right.render)

/-- A single value that has a place in the order. -/
def IsOrdered : Operand → Prop
  | .null | .list _ => False
  | .number (.double x) | .float x => ¬x.isNaN
  | _ => True

theorem IsOrdered.leaves {operand : Operand} (h : operand.IsOrdered) :
    operand.leaves = [operand] := by
  cases operand with
  | list => exact absurd h id
  | null | bool | number | float | text | object => rfl

theorem IsOrdered.isNull {operand : Operand} (h : operand.IsOrdered) : operand.isNull = false := by
  cases operand with
  | null => exact absurd h id
  | list | bool | number | float | text | object => rfl

/-- A value in the order is a number wherever it counts as one. -/
theorem IsOrdered.not_isNaN {operand : Operand} (h : operand.IsOrdered) {x : Float}
    (hx : operand.asFloat? = some x) : ¬x.isNaN := by
  cases operand with
  | number n =>
    obtain rfl := Option.some.inj hx
    cases n with
    | int n => exact not_isNaN_ofInt n
    | double x => exact h
  | float y =>
    obtain rfl := Option.some.inj hx
    exact h
  | null | bool | text | list | object => exact absurd hx (by simp [asFloat?])

/-- Two values in the order have an order. -/
theorem IsOrdered.exists_order? {left right : Operand} (hl : left.IsOrdered)
    (hr : right.IsOrdered) : ∃ o, left.order? right = some o := by
  unfold order?
  split
  · next l r hleft hright => exact exists_doubleOrder? (hl.not_isNaN hleft) (hr.not_isNaN hright)
  · exact ⟨_, rfl⟩

end Operand

/-! ## Operators -/

namespace Comparator

/-- The orders of two sides in which an operator holds, if their order is all that it asks for. -/
def holdsIn? : Comparator → Option (List Ordering)
  | .strictEqual => some [.eq]
  | .greater => some [.gt]
  | .greaterOrEqual => some [.gt, .eq]
  | .less => some [.lt]
  | .lessOrEqual => some [.lt, .eq]
  | _ => none

/-- The operator that says the same of two sides exchanged, if there is one. -/
def converse? : Comparator → Option Comparator
  | .equal => some .equal
  | .strictEqual => some .strictEqual
  | .notEqual => some .notEqual
  | .strictNotEqual => some .strictNotEqual
  | .greater => some .less
  | .greaterOrEqual => some .lessOrEqual
  | .less => some .greater
  | .lessOrEqual => some .greaterOrEqual
  | .includes | .excludes => none

variable {op : Comparator}

/-- Between numbers, an operator holds in the orders that it asks for. -/
theorem testNumbers_iff {orders : List Ordering} (h : op.holdsIn? = some orders) (l r : Float)
    (leftText rightText : String) :
    op.testNumbers l r leftText rightText = true ↔ ∃ o ∈ orders, doubleOrder? l r = some o := by
  have hgreater : doubleOrder? r l = some .lt ↔ doubleOrder? l r = some .gt :=
    doubleOrder?_swap l r .lt
  have hequal : doubleOrder? r l = some .eq ↔ doubleOrder? l r = some .eq :=
    doubleOrder?_swap l r .eq
  cases op with
  | strictEqual =>
    obtain rfl := Option.some.inj h
    simpa [testNumbers] using beq_iff_doubleOrder? l r
  | greater =>
    obtain rfl := Option.some.inj h
    simpa [testNumbers, hgreater] using lt_iff_doubleOrder? r l
  | greaterOrEqual =>
    obtain rfl := Option.some.inj h
    simpa [testNumbers, hgreater, hequal] using le_iff_doubleOrder? r l
  | less =>
    obtain rfl := Option.some.inj h
    simpa [testNumbers] using lt_iff_doubleOrder? l r
  | lessOrEqual =>
    obtain rfl := Option.some.inj h
    simpa [testNumbers] using le_iff_doubleOrder? l r
  | equal | notEqual | strictNotEqual | includes | excludes =>
    exact absurd h (by simp [holdsIn?])

/-- Between texts, an operator holds in the orders that it asks for. -/
theorem testTexts_iff {orders : List Ordering} (h : op.holdsIn? = some orders) (l r : String) :
    op.testTexts l r = true ↔ ∃ o ∈ orders, compareOfLessAndEq l r = o := by
  have hless : compareOfLessAndEq l r = .lt ↔ l < r := compareOfLessAndEq_eq_lt
  have hequal : compareOfLessAndEq l r = .eq ↔ l = r :=
    compareOfLessAndEq_eq_eq String.le_refl String.not_le
  have hgreater : compareOfLessAndEq l r = .gt ↔ r < l :=
    compareOfLessAndEq_eq_gt String.le_antisymm String.le_total String.not_le l r
  have hle : ¬r < l ↔ compareOfLessAndEq l r = .lt ∨ compareOfLessAndEq l r = .eq := by
    rw [← hgreater]
    cases compareOfLessAndEq l r <;> simp
  have hge : ¬l < r ↔ compareOfLessAndEq l r = .gt ∨ compareOfLessAndEq l r = .eq := by
    rw [← hless]
    cases compareOfLessAndEq l r <;> simp
  cases op with
  | strictEqual =>
    obtain rfl := Option.some.inj h
    simpa [testTexts] using hequal.symm
  | greater =>
    obtain rfl := Option.some.inj h
    simpa [testTexts] using hgreater.symm
  | greaterOrEqual =>
    obtain rfl := Option.some.inj h
    simpa [testTexts] using hge
  | less =>
    obtain rfl := Option.some.inj h
    simp [testTexts, hless]
  | lessOrEqual =>
    obtain rfl := Option.some.inj h
    simpa [testTexts] using hle
  | equal | notEqual | strictNotEqual | includes | excludes =>
    exact absurd h (by simp [holdsIn?])

/-- Operators of order hold of leaves that are not `null` just in the orders they ask for. -/
theorem testLeaves_iff {orders : List Ordering} (h : op.holdsIn? = some orders)
    {left right : Operand} (hleft : left.isNull = false) (hright : right.isNull = false) :
    op.testLeaves left right = true ↔ ∃ o ∈ orders, left.order? right = some o := by
  unfold testLeaves Operand.order?
  rw [hleft, hright]
  simp only [Bool.or_self, Bool.false_eq_true, if_false]
  -- both are numbers, or their texts are compared
  cases left.asFloat? with
  | none => simp [testTexts_iff h]
  | some l =>
    cases right.asFloat? with
    | none => simp [testTexts_iff h]
    | some r => exact testNumbers_iff h l r _ _

/-! ## Sides exchanged -/

variable {converse : Comparator}

/-- What is said of `null` is the same for the sides exchanged. -/
theorem testNull_converse (h : op.converse? = some converse) (both : Bool) :
    op.testNull both = converse.testNull both := by
  cases op with
  | includes | excludes => exact absurd h (by simp [converse?])
  | _ =>
    obtain rfl := Option.some.inj h
    rfl

/-- Numbers exchanged are compared by the converse. -/
theorem testNumbers_converse (h : op.converse? = some converse) (l r : Float)
    (leftText rightText : String) :
    op.testNumbers l r leftText rightText = converse.testNumbers r l rightText leftText := by
  have hequal : (l == r) = (r == l) := by
    rw [Bool.eq_iff_iff, beq_iff_doubleOrder?, beq_iff_doubleOrder?]
    exact doubleOrder?_swap r l .eq
  cases op with
  | includes | excludes => exact absurd h (by simp [converse?])
  | equal | strictEqual =>
    obtain rfl := Option.some.inj h
    exact hequal
  | notEqual | strictNotEqual =>
    obtain rfl := Option.some.inj h
    exact congrArg not hequal
  | greater | greaterOrEqual | less | lessOrEqual =>
    obtain rfl := Option.some.inj h
    rfl

/-- Texts exchanged are compared by the converse. -/
theorem testTexts_converse (h : op.converse? = some converse) (l r : String) :
    op.testTexts l r = converse.testTexts r l := by
  cases op with
  | includes | excludes => exact absurd h (by simp [converse?])
  | equal | strictEqual =>
    obtain rfl := Option.some.inj h
    exact BEq.comm
  | notEqual | strictNotEqual =>
    obtain rfl := Option.some.inj h
    exact bne_comm
  | greater | greaterOrEqual | less | lessOrEqual =>
    obtain rfl := Option.some.inj h
    rfl

/-- The rule that decides about two leaves does not depend on which of them comes first. -/
theorem testLeaves_converse (h : op.converse? = some converse) (left right : Operand) :
    op.testLeaves left right = converse.testLeaves right left := by
  unfold testLeaves
  rw [Bool.or_comm right.isNull, Bool.and_comm right.isNull]
  split
  · exact testNull_converse h _
  · -- the rule asks whether both are numbers
    cases left.asFloat? with
    | none => cases right.asFloat? <;> exact testTexts_converse h _ _
    | some l =>
      cases right.asFloat? with
      | none => exact testTexts_converse h _ _
      | some r => exact testNumbers_converse h l r _ _

/-- What an operator says of two operands, its converse says of them exchanged. -/
theorem test_converse (h : op.converse? = some converse) (left right : Operand) :
    op.test left right = converse.test right left := by
  rw [Bool.eq_iff_iff, test_iff_testsSomeLeaves, test_iff_testsSomeLeaves]
  -- the pair of leaves that decides is the same, turned round
  unfold TestsSomeLeaves
  constructor
  · rintro ⟨l, hl, r, hr, htest⟩
    exact ⟨r, hr, l, hl, (testLeaves_converse h l r).symm.trans htest⟩
  · rintro ⟨r, hr, l, hl, htest⟩
    exact ⟨l, hl, r, hr, (testLeaves_converse h l r).trans htest⟩

/-! ## Alternatives -/

/-- An operator holds where one of two others does, if it asks for the orders of both. -/
theorem test_iff_or {first second : Comparator} {orders orders' : List Ordering}
    (hop : op.holdsIn? = some (orders ++ orders')) (hfirst : first.holdsIn? = some orders)
    (hsecond : second.holdsIn? = some orders') {left right : Operand}
    (hleft : .null ∉ left.leaves) (hright : .null ∉ right.leaves) :
    op.test left right = true ↔ first.test left right = true ∨ second.test left right = true := by
  have hleaf {operand leaf : Operand} (hmem : leaf ∈ operand.leaves)
      (hnull : .null ∉ operand.leaves) : leaf.isNull = false := by
    cases leaf with
    | null => exact absurd hmem hnull
    | _ => rfl
  -- by pairs of leaves, since the orders of the operator are those of the two others
  have hpair (l : Operand) (hl : l ∈ left.leaves) (r : Operand) (hr : r ∈ right.leaves) :
      op.testLeaves l r = true ↔ first.testLeaves l r = true ∨ second.testLeaves l r = true := by
    have hl := hleaf hl hleft
    have hr := hleaf hr hright
    rw [testLeaves_iff hop hl hr, testLeaves_iff hfirst hl hr, testLeaves_iff hsecond hl hr]
    simp only [List.mem_append, or_and_right, exists_or]
  simp only [test_iff_testsSomeLeaves, TestsSomeLeaves]
  constructor
  · rintro ⟨l, hl, r, hr, htest⟩
    exact ((hpair l hl r hr).1 htest).imp (fun h => ⟨l, hl, r, hr, h⟩) fun h => ⟨l, hl, r, hr, h⟩
  · rintro (⟨l, hl, r, hr, htest⟩ | ⟨l, hl, r, hr, htest⟩)
    · exact ⟨l, hl, r, hr, (hpair l hl r hr).2 (.inl htest)⟩
    · exact ⟨l, hl, r, hr, (hpair l hl r hr).2 (.inr htest)⟩

/-- Between two values in the order, an operator holds if it asks for the order they are in. -/
theorem test_iff_of_isOrdered {orders : List Ordering} (h : op.holdsIn? = some orders)
    {left right : Operand} (hleft : left.IsOrdered) (hright : right.IsOrdered) {o : Ordering}
    (ho : left.order? right = some o) : op.test left right = true ↔ o ∈ orders := by
  have hl : left ∈ left.leaves := hleft.leaves ▸ List.mem_singleton_self left
  have hr : right ∈ right.leaves := hright.leaves ▸ List.mem_singleton_self right
  rw [op.test_of_mem_leaves hl hr, testLeaves_iff h hleft.isNull hright.isNull, ho]
  simp

end Comparator

open Comparator in
/--
**The comparisons are consistent.** What an operator says of two operands its converse says of them
exchanged, and the four equalities are their own converses. Where there is no `null` on either side,
`>=` is `>` or `==`, and `<=` is `<` or `==`. Of two single values that are in the order, exactly
one of `<`, `==` and `>` holds.
-/
theorem comparisons_consistent (left right : Operand) :
    (∀ op converse : Comparator, op.converse? = some converse →
      op.test left right = converse.test right left)
    ∧ (.null ∉ left.leaves → .null ∉ right.leaves →
      (greaterOrEqual.test left right = true
        ↔ greater.test left right = true ∨ strictEqual.test left right = true)
      ∧ (lessOrEqual.test left right = true
        ↔ less.test left right = true ∨ strictEqual.test left right = true))
    ∧ (left.IsOrdered → right.IsOrdered →
      ∃! op, op ∈ [less, strictEqual, greater] ∧ op.test left right = true) := by
  refine ⟨fun op converse h => test_converse h left right, fun hleft hright => ⟨?_, ?_⟩,
    fun hleft hright => ?_⟩
  · have horders : greaterOrEqual.holdsIn? = some ([.gt] ++ [.eq]) := rfl
    exact test_iff_or horders rfl rfl hleft hright
  · have horders : lessOrEqual.holdsIn? = some ([.lt] ++ [.eq]) := rfl
    exact test_iff_or horders rfl rfl hleft hright
  · obtain ⟨o, ho⟩ := hleft.exists_order? hright
    have hless : less.test left right = true ↔ o ∈ [.lt] :=
      test_iff_of_isOrdered rfl hleft hright ho
    have hequal : strictEqual.test left right = true ↔ o ∈ [.eq] :=
      test_iff_of_isOrdered rfl hleft hright ho
    have hgreater : greater.test left right = true ↔ o ∈ [.gt] :=
      test_iff_of_isOrdered rfl hleft hright ho
    rw [List.mem_singleton] at hless hequal hgreater
    -- each order is that of one operator and of no other
    cases o with
    | lt => exact ⟨less, by simp [hless], by simp [hequal, hgreater]⟩
    | eq => exact ⟨strictEqual, by simp [hequal], by simp [hless, hgreater]⟩
    | gt => exact ⟨greater, by simp [hgreater], by simp [hless, hequal]⟩

/-- Where `null` is found on both sides, `==` holds, but not `>=`. -/
example : Comparator.strictEqual.test .null (.list [.text "a", .null]) = true
    ∧ Comparator.greaterOrEqual.test .null (.list [.text "a", .null]) = false := by
  decide

/-- A list of a number and of another list. -/
def mixed : Operand := .list [.number (.int 10), .list [.text "b", .float (-0.0)]]

open Comparator in
/-- A number is compared with a text by its digits, and ten comes before nine. -/
theorem comparisons_consistent_mixed :
    less.converse? = some greater ∧ less.test mixed (.text "9") = true
    ∧ greater.test (.text "9") mixed = true
    ∧ .null ∉ mixed.leaves ∧ .null ∉ (Operand.text "9").leaves
    ∧ (greaterOrEqual.test mixed (.text "9") = true
      ↔ greater.test mixed (.text "9") = true ∨ strictEqual.test mixed (.text "9") = true)
    ∧ (Operand.number (.int 10)).IsOrdered ∧ (Operand.text "9").IsOrdered
    ∧ ∃! op, op ∈ [less, strictEqual, greater]
      ∧ op.test (.number (.int 10)) (.text "9") = true := by
  obtain ⟨hconverse, halternatives, -⟩ := comparisons_consistent mixed (.text "9")
  obtain ⟨-, -, hone⟩ := comparisons_consistent (.number (.int 10)) (.text "9")
  have hless : less.test mixed (.text "9") = true := by decide +kernel
  have hleft : .null ∉ mixed.leaves := by simp [mixed, Operand.leaves, Operand.leavesOfAll]
  have hright : .null ∉ (Operand.text "9").leaves := by simp [Operand.leaves]
  exact ⟨rfl, hless, (hconverse less greater rfl).symm.trans hless, hleft, hright,
    (halternatives hleft hright).1, trivial, trivial, hone trivial trivial⟩

end Reshape
