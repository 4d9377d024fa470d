import Reshape.Proofs.Doubles
import Reshape.Proofs.Narrowing

/-!
# Comparison of integers

Integers are kept as they are in documents and expressions, but they are compared as doubles. So
`==` is exact only where one of the two integers has no more than 53 binary digits. Beyond that it
holds of any two integers with the same nearest double, and a filter that asks for one of them keeps
the items that have another.
-/

namespace Reshape

/-- An integer of the exact range fits a machine word. -/
theorem Number.natAbs_lt_of_exactRange {n : Int} (h : Number.exactRange n) :
    n.natAbs < 2 ^ 64 := by
  unfold exactRange at h
  rw [Bool.and_eq_true, decide_eq_true_iff, decide_eq_true_iff] at h
  omega

namespace Comparator

/-- Integers are compared as the doubles nearest to them. -/
theorem test_strictEqual_int {m n : Int} (hm : Number.exactRange m) (hn : Number.exactRange n) :
    strictEqual.test (.number (.int m)) (.number (.int n)) ↔ nearest m = nearest n :=
  ofInt_beq_iff (Number.natAbs_lt_of_exactRange hm) (Number.natAbs_lt_of_exactRange hn)

theorem test_strictNotEqual_number (m n : Number) :
    strictNotEqual.test (.number m) (.number n) = !strictEqual.test (.number m) (.number n) := rfl

end Comparator

/-! ## Filters by an integer -/

/-- The item has the integer under the key. -/
def fieldIs (key : String) (n : Int) : Predicate :=
  .comparison (.path [.plain key]) .strictEqual (.literal (.number (.int n)))

/-- The predicate compares the integer in the field with its own. -/
theorem holds_fieldIs {key : String} {fields : Fields} {m : Int}
    (h : fields.get? key = some (.number (.int m))) (n : Int) :
    (fieldIs key n).holds (.object fields)
      = Comparator.strictEqual.test (.number (.int m)) (.number (.int n)) := by
  have hvalues : (Json.object fields).valuesAt key = [.number (.int m)] := by
    simp [Json.valuesAt, h]
  have hselect : selectPath [.plain key] [.object fields] = [.number (.int m)] := by
    rw [selectPath, selectPath, List.flatMap_singleton, Segment.plain, Segment.select, hvalues]
    rfl
  rw [fieldIs, Predicate.holds, Expression.eval, Expression.eval, hselect]
  rfl

/--
**Integers are equal to `==` when they have the same nearest double.** So it is exact if one of them
has no more than 53 binary digits, and `!==` holds where it does not. A filter for an integer keeps,
of the items that have an integer under the key, those whose integer has the same nearest double.
-/
theorem strictEqual_by_nearest {n : Int} (hn : Number.exactRange n) :
    (∀ m, Number.exactRange m →
      (Comparator.strictEqual.test (.number (.int m)) (.number (.int n)) ↔ nearest m = nearest n)
      ∧ (Comparator.strictNotEqual.test (.number (.int m)) (.number (.int n))
        ↔ nearest m ≠ nearest n)
      ∧ (m.natAbs < 2 ^ 53 ∨ n.natAbs < 2 ^ 53 → (nearest m = nearest n ↔ m = n)))
    ∧ ∀ key items,
      (Edit.filter (fieldIs key n)).on (.array items)
        = ⟨.array (items.filter (fieldIs key n).holds), none⟩
      ∧ ∀ (fields : Fields) (m : Int), fields.get? key = some (.number (.int m)) →
        Number.exactRange m → ((fieldIs key n).holds (.object fields) ↔ nearest m = nearest n) := by
  refine ⟨fun m hm => ⟨?_, ?_, nearest_eq_iff⟩, fun key items => ⟨?_, fun fields m hget hm => ?_⟩⟩
  · exact Comparator.test_strictEqual_int hm hn
  · rw [Comparator.test_strictNotEqual_number, Bool.not_eq_true', ← Bool.not_eq_true]
    exact not_congr (Comparator.test_strictEqual_int hm hn)
  · -- a comparison narrows nothing, so the items are kept as they are
    have hreadOnly : (fieldIs key n).ReadOnly := .comparison _ _ _
    rw [Edit.on_filter_array, Predicate.siftAll_of_readOnly hreadOnly]
  · rw [holds_fieldIs hget]
    exact Comparator.test_strictEqual_int hm hn

/-- An item with the given number. -/
def withId (id : Int) : Json := .object [("id", .number (.int id))]

/-- With 54 digits every second integer is a double, and a half goes to the even side. -/
theorem strictEqual_by_nearest_ids :
    Number.exactRange 9007199254740993
    ∧ nearest 9007199254740993 = 9007199254740992
    ∧ (Comparator.strictEqual.test (.number (.int 9007199254740994))
        (.number (.int 9007199254740993)) ↔ nearest 9007199254740994 = nearest 9007199254740993)
    ∧ (Edit.filter (fieldIs "id" 9007199254740993)).on
        (.array [withId 9007199254740992, withId 9007199254740994, withId (-9007199254740993)])
      = ⟨.array [withId 9007199254740992], none⟩ := by
  have hn : Number.exactRange 9007199254740993 := by decide
  obtain ⟨htest, hfilter⟩ := strictEqual_by_nearest hn
  exact ⟨hn, by decide, (htest _ (by decide)).1, (hfilter "id" _).1⟩

/-- `==` takes an integer for the one before it, and a filter for the one keeps the other. -/
theorem strictEqual_takes_neighbour :
    Number.exactRange 9007199254740992 ∧ Number.exactRange 9007199254740993
    ∧ (9007199254740992 : Int) ≠ 9007199254740993
    ∧ Comparator.strictEqual.test (.number (.int 9007199254740992))
        (.number (.int 9007199254740993)) = true
    ∧ Comparator.strictNotEqual.test (.number (.int 9007199254740992))
        (.number (.int 9007199254740993)) = false
    ∧ (Edit.filter (fieldIs "id" 9007199254740993)).on (.array [withId 9007199254740992])
      = ⟨.array [withId 9007199254740992], none⟩ :=
  ⟨by decide, by decide, by decide, rfl, rfl, rfl⟩

end Reshape
