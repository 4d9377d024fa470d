import Reshape.Json.Fields

/-!
# Well-formed documents

A document is well formed when all its numbers can be stored and the keys of every object increase
strictly. Every document that was read is, and every change keeps it so.
-/

namespace Reshape

/-- Documents hold the integers of the exact range, and finite doubles. -/
def Number.IsStorable : Number → Prop
  | .int n => exactRange n
  | .double x => x.isFinite

namespace Json

mutual

/-- Every number can be stored, and the keys of every object increase strictly. -/
def WellFormed : Json → Prop
  | .number n => n.IsStorable
  | .array items => AllWellFormed items
  | .object fields => Fields.Sorted fields ∧ FieldsWellFormed fields
  | _ => True

/-- All items are well formed. -/
def AllWellFormed : List Json → Prop
  | [] => True
  | item :: items => WellFormed item ∧ AllWellFormed items

/-- The values of all fields are well formed. -/
def FieldsWellFormed : List (String × Json) → Prop
  | [] => True
  | (_, value) :: fields => WellFormed value ∧ FieldsWellFormed fields

end

theorem allWellFormed_iff (items : List Json) :
    AllWellFormed items ↔ ∀ item ∈ items, item.WellFormed := by
  induction items with
  | nil => simp [AllWellFormed]
  | cons item items ih => simp [AllWellFormed, ih]

theorem fieldsWellFormed_iff (fields : Fields) :
    FieldsWellFormed fields ↔ ∀ field ∈ fields, field.2.WellFormed := by
  induction fields with
  | nil => simp [FieldsWellFormed]
  | cons field fields ih =>
    obtain ⟨key, value⟩ := field
    simp [FieldsWellFormed, ih]

/-! ## Documents of integers -/

mutual

/-- Every number is an integer. -/
def IsIntegral : Json → Prop
  | .number (.double _) => False
  | .array items => AllIntegral items
  | .object fields => FieldsIntegral fields
  | _ => True

/-- Every number in the items is an integer. -/
def AllIntegral : List Json → Prop
  | [] => True
  | item :: items => IsIntegral item ∧ AllIntegral items

/-- Every number in the values of the fields is an integer. -/
def FieldsIntegral : List (String × Json) → Prop
  | [] => True
  | (_, value) :: fields => IsIntegral value ∧ FieldsIntegral fields

end

theorem allIntegral_iff (items : List Json) :
    AllIntegral items ↔ ∀ item ∈ items, item.IsIntegral := by
  induction items with
  | nil => simp [AllIntegral]
  | cons item items ih => simp [AllIntegral, ih]

theorem fieldsIntegral_iff (fields : Fields) :
    FieldsIntegral fields ↔ ∀ field ∈ fields, field.2.IsIntegral := by
  induction fields with
  | nil => simp [FieldsIntegral]
  | cons field fields ih =>
    obtain ⟨key, value⟩ := field
    simp [FieldsIntegral, ih]

end Json

/-! ## Deciding -/

instance Number.decidableIsStorable : (n : Number) → Decidable n.IsStorable
  | .int n => inferInstanceAs (Decidable (exactRange n = true))
  | .double x => inferInstanceAs (Decidable (x.isFinite = true))

instance Fields.decidableSorted (fields : Fields) : Decidable fields.Sorted :=
  inferInstanceAs (Decidable (List.Pairwise _ _))

namespace Json

mutual

/-- Decides whether a document is well formed. -/
def decideWellFormed : (value : Json) → Decidable value.WellFormed
  | .number n => inferInstanceAs (Decidable n.IsStorable)
  | .array items => decideAllWellFormed items
  | .object fields => @instDecidableAnd _ _ (Fields.decidableSorted fields)
      (decideFieldsWellFormed fields)
  | .null | .bool _ | .string _ => isTrue trivial

/-- Decides whether all items are well formed. -/
def decideAllWellFormed : (items : List Json) → Decidable (AllWellFormed items)
  | [] => isTrue trivial
  | item :: items => @instDecidableAnd _ _ (decideWellFormed item) (decideAllWellFormed items)

/-- Decides whether the values of all fields are well formed. -/
def decideFieldsWellFormed : (fields : List (String × Json)) → Decidable (FieldsWellFormed fields)
  | [] => isTrue trivial
  | (_, value) :: fields =>
    @instDecidableAnd _ _ (decideWellFormed value) (decideFieldsWellFormed fields)

end

instance decidableWellFormed : DecidablePred WellFormed := decideWellFormed

mutual

/-- Decides whether every number is an integer. -/
def decideIsIntegral : (value : Json) → Decidable value.IsIntegral
  | .number (.double _) => isFalse id
  | .array items => decideAllIntegral items
  | .object fields => decideFieldsIntegral fields
  | .null | .bool _ | .number (.int _) | .string _ => isTrue trivial

/-- Decides whether every number in the items is an integer. -/
def decideAllIntegral : (items : List Json) → Decidable (AllIntegral items)
  | [] => isTrue trivial
  | item :: items => @instDecidableAnd _ _ (decideIsIntegral item) (decideAllIntegral items)

/-- Decides whether every number in the values of the fields is an integer. -/
def decideFieldsIntegral : (fields : List (String × Json)) → Decidable (FieldsIntegral fields)
  | [] => isTrue trivial
  | (_, value) :: fields =>
    @instDecidableAnd _ _ (decideIsIntegral value) (decideFieldsIntegral fields)

end

instance decidableIsIntegral : DecidablePred IsIntegral := decideIsIntegral

end Json

end Reshape
