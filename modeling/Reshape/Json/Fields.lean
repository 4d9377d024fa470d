import Reshape.Json.Basic

/-!
# Fields of an object

The fields are kept in increasing order of their keys, each key once. This file has the operations
on them and what they mean for a lookup:

* `Fields.insert` puts a field where its key belongs, or in place of the field with that key;
* `Fields.erase` drops it;
* `Fields.modify` changes its value where it is.

The type does not force the order. `Fields.Sorted` states it, and the operations keep it.
-/

namespace Reshape

/-- The fields of an object. -/
abbrev Fields := List (String × Json)

namespace Fields

/-- The value of the field with the given key. -/
def get? (fields : Fields) (key : String) : Option Json := fields.lookup key

/-- Whether there is a field with the given key. -/
def contains (fields : Fields) (key : String) : Bool := (fields.get? key).isSome

/-- Sets the field with the given key, which is put where the order of keys wants it. -/
def insert (fields : Fields) (key : String) (value : Json) : Fields :=
  match fields with
  | [] => [(key, value)]
  | (k, v) :: rest =>
    if key < k then (key, value) :: (k, v) :: rest
    else if key = k then (key, value) :: rest
    else (k, v) :: insert rest key value

/-- Drops the field with the given key. -/
def erase (fields : Fields) (key : String) : Fields := fields.filter (·.1 != key)

/-- Changes the value of the field with the given key, if there is one. -/
def modifyM {m : Type → Type} [Monad m] (fields : Fields) (key : String) (f : Json → m Json) :
    m Fields :=
  match fields with
  | [] => pure []
  | (k, v) :: rest =>
    if key = k then do return (k, ← f v) :: rest
    else do return (k, v) :: (← modifyM rest key f)

/-- Changes the value of the field with the given key, if there is one, without other effects. -/
def modify (fields : Fields) (key : String) (f : Json → Json) : Fields :=
  Id.run (fields.modifyM key fun value => pure (f value))

/-- The keys increase strictly, so that each occurs once. -/
def Sorted (fields : Fields) : Prop := fields.Pairwise (·.1 < ·.1)

/-! ## Lookup -/

@[simp] theorem get?_nil (k : String) : get? [] k = none := rfl

theorem get?_cons (fields : Fields) (key k : String) (value : Json) :
    get? ((key, value) :: fields) k = if k = key then some value else get? fields k := by
  by_cases h : k = key
  · simp [get?, h]
  · have hne : (k == key) = false := by simpa using h
    simp [get?, List.lookup_cons, h, hne]

/-- After an insertion the new value is found under its key, and all else is found as before. -/
theorem get?_insert (fields : Fields) (key k : String) (value : Json) :
    (fields.insert key value).get? k = if k = key then some value else fields.get? k := by
  induction fields with
  | nil => simp [insert, get?_cons]
  | cons field rest ih =>
    obtain ⟨name, v⟩ := field
    simp only [insert]
    split
    · rw [get?_cons]
    · split
      · next h => subst h; simp only [get?_cons]; split <;> rfl
      · next h =>
        simp only [get?_cons, ih]
        split <;> split <;> simp_all

/-- After an erasure nothing is found under the key, and all else is found as before. -/
theorem get?_erase (fields : Fields) (key k : String) :
    (fields.erase key).get? k = if k = key then none else fields.get? k := by
  induction fields with
  | nil => simp [erase]
  | cons field rest ih =>
    obtain ⟨name, v⟩ := field
    by_cases h : name = key
    · have hdrop : erase ((name, v) :: rest) key = erase rest key := by simp [erase, h]
      rw [hdrop, ih, get?_cons]
      split <;> simp_all
    · have hkeep : erase ((name, v) :: rest) key = (name, v) :: erase rest key := by
        simp [erase, h]
      rw [hkeep, get?_cons, ih, get?_cons]
      split <;> split <;> simp_all

@[simp] theorem modify_nil (key : String) (f : Json → Json) : modify [] key f = [] := rfl

theorem modify_cons (fields : Fields) (key k : String) (v : Json) (f : Json → Json) :
    modify ((k, v) :: fields) key f =
      if key = k then (k, f v) :: fields else (k, v) :: modify fields key f := by
  simp only [modify, modifyM]
  split <;> rfl

/-- A change is found under its key, and all else is found as before. -/
theorem get?_modify (fields : Fields) (key k : String) (f : Json → Json) :
    (fields.modify key f).get? k = if k = key then (fields.get? k).map f else fields.get? k := by
  induction fields with
  | nil => simp
  | cons field rest ih =>
    obtain ⟨name, v⟩ := field
    rw [modify_cons]
    split
    · next h => subst h; simp only [get?_cons]; split <;> rfl
    · next h =>
      simp only [get?_cons, ih]
      split <;> split <;> simp_all

/-- A change leaves the keys as they are. -/
theorem keys_modify (fields : Fields) (key : String) (f : Json → Json) :
    (fields.modify key f).map Prod.fst = fields.map Prod.fst := by
  induction fields with
  | nil => rfl
  | cons field rest ih =>
    obtain ⟨name, v⟩ := field
    rw [modify_cons]
    split <;> simp [ih]

/-! ## Changes of one field -/

/-- Two changes of one field make one change. -/
theorem modify_modify (fields : Fields) (key : String) (f g : Json → Json) :
    (fields.modify key f).modify key g = fields.modify key fun value => g (f value) := by
  induction fields with
  | nil => rfl
  | cons field rest ih =>
    obtain ⟨k, v⟩ := field
    by_cases h : key = k
    · simp [modify_cons, h]
    · simp [modify_cons, h, ih]

theorem modify_id (fields : Fields) (key : String) :
    fields.modify key (fun value => value) = fields := by
  induction fields with
  | nil => rfl
  | cons field rest ih =>
    obtain ⟨k, v⟩ := field
    rw [modify_cons, ih, ite_self]

/-- Only what the change does to the value of the field matters. -/
theorem modify_congr {fields : Fields} {key : String} {f g : Json → Json}
    (h : ∀ value, fields.get? key = some value → f value = g value) :
    fields.modify key f = fields.modify key g := by
  induction fields with
  | nil => rfl
  | cons field rest ih =>
    obtain ⟨k, v⟩ := field
    rw [modify_cons, modify_cons]
    split
    · next e => rw [h v (by rw [get?_cons, if_pos e])]
    · next e => rw [ih fun value hvalue => h value (by rw [get?_cons, if_neg e]; exact hvalue)]

/-! ## Order -/

theorem mem_insert {fields : Fields} {key : String} {value : Json} {field : String × Json}
    (h : field ∈ fields.insert key value) : field = (key, value) ∨ field ∈ fields := by
  induction fields with
  | nil => simpa [insert] using h
  | cons head rest ih =>
    simp only [insert] at h
    split at h
    · simpa using h
    · split at h
      · next e => simp at h ⊢; grind
      · simp at h ⊢; grind

/-- A field whose key is greater than all others comes last. -/
theorem insert_of_greatest {fields : Fields} {key : String} (h : ∀ field ∈ fields, field.1 < key)
    (value : Json) : fields.insert key value = fields ++ [(key, value)] := by
  induction fields with
  | nil => rfl
  | cons head rest ih =>
    obtain ⟨k, v⟩ := head
    have hlt : k < key := h (k, v) List.mem_cons_self
    have hne : key ≠ k := fun e => String.lt_irrefl k (e ▸ hlt)
    rw [Fields.insert, if_neg (Std.not_lt.2 (Std.le_of_lt hlt)), if_neg hne,
      ih fun field hmem => h field (List.mem_cons_of_mem _ hmem), List.cons_append]

/-- Fields in the order of their keys are put one behind the other. -/
theorem Sorted.foldl_insert {before fields : Fields} (h : (before ++ fields).Sorted) :
    fields.foldl (fun before field => before.insert field.1 field.2) before = before ++ fields := by
  induction fields generalizing before with
  | nil => rw [List.foldl_nil, List.append_nil]
  | cons field rest ih =>
    have hgreatest : ∀ other ∈ before, other.1 < field.1 := fun other hmem =>
      (List.pairwise_append.1 h).2.2 other hmem field List.mem_cons_self
    rw [List.append_cons] at h
    rw [List.foldl_cons, insert_of_greatest hgreatest, ih h, List.append_cons before field rest]

theorem Sorted.insert {fields : Fields} (h : fields.Sorted) (key : String) (value : Json) :
    (fields.insert key value).Sorted := by
  induction fields with
  | nil => simp [Fields.insert, Sorted]
  | cons head rest ih =>
    obtain ⟨hhead, hrest⟩ := List.pairwise_cons.1 h
    simp only [Fields.insert]
    split
    · next lt =>
      refine List.pairwise_cons.2 ⟨fun field hf => ?_, h⟩
      rcases List.mem_cons.1 hf with rfl | hf
      · exact lt
      · exact String.lt_trans lt (hhead field hf)
    · next notLt =>
      split
      · next e => exact List.pairwise_cons.2 ⟨fun field hf => e ▸ hhead field hf, hrest⟩
      · next ne =>
        refine List.pairwise_cons.2 ⟨fun field hf => ?_, ih hrest⟩
        rcases mem_insert hf with rfl | hf
        · exact Std.lt_of_le_of_ne (Std.not_lt.1 notLt) (Ne.symm ne)
        · exact hhead field hf

theorem Sorted.erase {fields : Fields} (h : fields.Sorted) (key : String) :
    (fields.erase key).Sorted := List.Pairwise.filter _ h

theorem sorted_iff_keys (fields : Fields) :
    fields.Sorted ↔ (fields.map Prod.fst).Pairwise (· < ·) := by
  simp [Sorted, List.pairwise_map]

theorem Sorted.modify {fields : Fields} (h : fields.Sorted) (key : String) (f : Json → Json) :
    (fields.modify key f).Sorted := by
  rw [sorted_iff_keys, keys_modify, ← sorted_iff_keys]
  exact h

end Fields

end Reshape
