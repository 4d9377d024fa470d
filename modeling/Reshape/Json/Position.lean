import Reshape.Json.Fields

/-!
# Positions in a document

A position leads from a document to one value inside it, by the keys of objects and the indexes of
arrays. Unlike a path of the query language it names exactly one place, so it can say where
something changed and that all else is as before.
-/

namespace Reshape

/-- One step into a document. -/
inductive Position.Step where
  | key (key : String)
  | index (index : Nat)
deriving DecidableEq

/-- The place of one value in a document. -/
abbrev Position := List Position.Step

/-- Neither of the positions lies inside the other. -/
def Position.Apart (p q : Position) : Prop := ¬p <+: q ∧ ¬q <+: p

instance Position.decidableApart (p q : Position) : Decidable (p.Apart q) :=
  inferInstanceAs (Decidable (¬p <+: q ∧ ¬q <+: p))

theorem Position.Apart.symm {p q : Position} (h : p.Apart q) : q.Apart p := ⟨h.2, h.1⟩

theorem Position.apart_cons_iff {s t : Position.Step} {p q : Position} :
    Position.Apart (s :: p) (t :: q) ↔ s ≠ t ∨ p.Apart q := by
  simp only [Position.Apart, List.cons_prefix_cons]
  grind

theorem Position.apart_append_iff {p q r : Position} :
    Position.Apart (p ++ q) (p ++ r) ↔ q.Apart r := by
  simp only [Position.Apart, List.prefix_append_right_inj]

/-- What lies inside two positions is as far apart as these. -/
theorem Position.Apart.append {p q : Position} (h : p.Apart q) (p' q' : Position) :
    Position.Apart (p ++ p') (q ++ q') := by
  refine ⟨fun hprefix => ?_, fun hprefix => ?_⟩
  · -- both `p` and `q` begin `q ++ q'`, so one of them begins the other
    have hp : p <+: q ++ q' := (List.prefix_append p p').trans hprefix
    exact (List.prefix_or_prefix_of_prefix hp (List.prefix_append q q')).elim h.1 h.2
  · have hq : q <+: p ++ p' := (List.prefix_append q q').trans hprefix
    exact (List.prefix_or_prefix_of_prefix (List.prefix_append p p') hq).elim h.1 h.2

namespace Json

/-- The value at a position. -/
def at? : Json → Position → Option Json
  | value, [] => some value
  | .object fields, .key key :: rest => (Fields.get? fields key).bind fun value => value.at? rest
  | .array items, .index n :: rest => items[n]?.bind fun item => item.at? rest
  | _, _ => none

/-- The document with another value at a position, if there is one already. -/
def setAt : Json → Position → Json → Json
  | _, [], new => new
  | .object fields, .key key :: rest, new =>
    .object (Fields.modify fields key fun value => value.setAt rest new)
  | .array items, .index n :: rest, new => .array (items.modify n fun item => item.setAt rest new)
  | value, _, _ => value

/-- The document with other values at several positions, set in turn. -/
def setAll (document : Json) (changes : List (Position × Json)) : Json :=
  changes.foldl (fun document (position, new) => document.setAt position new) document

/-! ## Lookup -/

@[simp] theorem at?_nil (value : Json) : value.at? [] = some value := by cases value <;> rfl

theorem at?_append (value : Json) (p q : Position) :
    value.at? (p ++ q) = (value.at? p).bind fun inner => inner.at? q := by
  induction p generalizing value with
  | nil => simp
  | cons s p ih =>
    cases value <;> cases s <;> simp [at?, Option.bind_assoc, ih]

@[simp] theorem setAt_nil (value new : Json) : value.setAt [] new = new := by cases value <;> rfl

/-- What is set at a position is found there. -/
theorem at?_setAt_append {value old : Json} {p : Position} (h : value.at? p = some old)
    (new : Json) (q : Position) : (value.setAt p new).at? (p ++ q) = new.at? q := by
  induction p generalizing value with
  | nil => simp
  | cons s p ih =>
    cases value <;> cases s <;> simp only [at?, reduceCtorEq] at h
    · obtain ⟨item, hitem, h⟩ := Option.bind_eq_some_iff.1 h
      simp [setAt, at?, hitem, ih h]
    · obtain ⟨field, hfield, h⟩ := Option.bind_eq_some_iff.1 h
      simp [setAt, at?, Fields.get?_modify, hfield, ih h]

/-- What is set at a position changes nothing at positions apart from it. -/
theorem at?_setAt_apart {p q : Position} (h : p.Apart q) (value new : Json) :
    (value.setAt p new).at? q = value.at? q := by
  induction p generalizing value q with
  | nil => exact absurd (List.nil_prefix) h.1
  | cons s p ih =>
    cases q with
    | nil => exact absurd (List.nil_prefix) h.2
    | cons t q =>
      rw [Position.apart_cons_iff] at h
      cases value with
      | array items =>
        cases s <;> cases t <;> try rfl
        next n m =>
          by_cases e : n = m
          · subst e
            have hin := ih (h.resolve_left (by simp))
            cases hitem : items[n]? <;> simp [setAt, at?, List.getElem?_modify_eq, hitem, hin]
          · simp [setAt, at?, List.getElem?_modify_ne _ _ e]
      | object fields =>
        cases s <;> cases t <;> try rfl
        next k l =>
          by_cases e : k = l
          · subst e
            have hin := ih (h.resolve_left (by simp))
            cases hfield : Fields.get? fields k <;>
              simp [setAt, at?, Fields.get?_modify, hfield, hin]
          · simp [setAt, at?, Fields.get?_modify, Ne.symm e]
      | _ => cases s <;> rfl

/-- What is there already can be set without a change. -/
theorem setAt_of_at? {value inner : Json} {p : Position} (h : value.at? p = some inner) :
    value.setAt p inner = value := by
  induction p generalizing value with
  | nil =>
    rw [at?_nil] at h
    rw [setAt_nil, Option.some.inj h]
  | cons s p ih =>
    cases value <;> cases s <;> simp only [at?, reduceCtorEq] at h
    · obtain ⟨item, hitem, h⟩ := Option.bind_eq_some_iff.1 h
      obtain ⟨hn, rfl⟩ := List.getElem?_eq_some_iff.1 hitem
      rw [setAt, List.modify_eq_set, hitem]
      simp [ih h]
    · obtain ⟨field, hfield, h⟩ := Option.bind_eq_some_iff.1 h
      rw [setAt, Fields.modify_congr (g := fun value => value), Fields.modify_id]
      intro value hvalue
      rw [← Option.some.inj (hfield.symm.trans hvalue)]
      exact ih h

/-! ## Several changes -/

@[simp] theorem setAll_nil (value : Json) : value.setAll [] = value := rfl

theorem setAll_cons (value new : Json) (p : Position) (changes : List (Position × Json)) :
    value.setAll ((p, new) :: changes) = (value.setAt p new).setAll changes := rfl

theorem setAll_append (value : Json) (first second : List (Position × Json)) :
    value.setAll (first ++ second) = (value.setAll first).setAll second := List.foldl_append ..

theorem setAll_of_at? {changes : List (Position × Json)} {value : Json}
    (h : ∀ change ∈ changes, value.at? change.1 = some change.2) :
    value.setAll changes = value := by
  induction changes with
  | nil => rfl
  | cons change changes ih =>
    obtain ⟨hfirst, hrest⟩ := List.forall_mem_cons.1 h
    rw [setAll_cons, setAt_of_at? hfirst]
    exact ih hrest

theorem at?_setAll_apart {changes : List (Position × Json)} {q : Position}
    (h : ∀ change ∈ changes, change.1.Apart q) (value : Json) :
    (value.setAll changes).at? q = value.at? q := by
  induction changes generalizing value with
  | nil => rfl
  | cons change changes ih =>
    obtain ⟨p, new⟩ := change
    rw [setAll_cons, ih fun change hin => h change (List.mem_cons_of_mem _ hin),
      at?_setAt_apart (h (p, new) (List.mem_cons_self ..))]

/-- When no position lies inside another, each of the values set is found in the end. -/
theorem at?_setAll {changes : List (Position × Json)} {value : Json}
    (hapart : changes.Pairwise fun a b => a.1.Apart b.1)
    (hfound : ∀ change ∈ changes, (value.at? change.1).isSome) :
    ∀ change ∈ changes, (value.setAll changes).at? change.1 = some change.2 := by
  induction changes generalizing value with
  | nil => simp
  | cons change changes ih =>
    obtain ⟨p, new⟩ := change
    obtain ⟨hfirst, hrest⟩ := List.pairwise_cons.1 hapart
    intro change hin
    rw [setAll_cons]
    rcases List.mem_cons.1 hin with rfl | hin
    · obtain ⟨old, hold⟩ := Option.isSome_iff_exists.1 (hfound (p, new) (List.mem_cons_self ..))
      have hset := at?_setAt_append hold new []
      rw [at?_setAll_apart fun change hin => (hfirst change hin).symm]
      simpa using hset
    · refine ih hrest (fun change hin => ?_) change hin
      rw [at?_setAt_apart (hfirst change hin)]
      exact hfound change (List.mem_cons_of_mem _ hin)

/-- `at?_setAll` for positions and values in two lists of one length. -/
theorem map_at?_setAll {value : Json} {positions : List Position} {values : List Json}
    (hlength : values.length = positions.length) (hapart : positions.Pairwise Position.Apart)
    (hfound : ∀ p ∈ positions, (value.at? p).isSome) :
    positions.map (value.setAll (positions.zip values)).at? = values.map some := by
  have hfst : (positions.zip values).map Prod.fst = positions :=
    List.map_fst_zip (Nat.le_of_eq hlength.symm)
  have hsnd : (positions.zip values).map Prod.snd = values :=
    List.map_snd_zip (Nat.le_of_eq hlength)
  have hset := at?_setAll (List.pairwise_map.1 (hfst.symm ▸ hapart))
    fun change hin => hfound change.1 (List.of_mem_zip hin).1
  generalize hafter : value.setAll (positions.zip values) = after at hset ⊢
  calc
    positions.map after.at? = (positions.zip values).map fun change => after.at? change.1 := by
      conv => lhs; rw [← hfst, List.map_map]
      rfl
    _ = (positions.zip values).map fun change => some change.2 := List.map_congr_left hset
    _ = values.map some := by
      conv => rhs; rw [← hsnd, List.map_map]
      rfl

/-- Changes inside one item change that item only. -/
theorem setAll_index (items : List Json) (n : Nat) (changes : List (Position × Json)) :
    (array items).setAll (changes.map fun (p, new) => (.index n :: p, new))
      = .array (items.modify n fun item => item.setAll changes) := by
  induction changes generalizing items with
  | nil => exact congrArg array (List.modify_id n items).symm
  | cons change changes ih =>
    obtain ⟨p, new⟩ := change
    have hstep : (array items).setAt (.index n :: p) new
        = .array (items.modify n fun item => item.setAt p new) := rfl
    rw [List.map_cons, setAll_cons, hstep, ih, List.modify_modify_eq]
    rfl

/-- Changes inside one field change that field only. -/
theorem setAll_key (fields : Fields) (key : String) (changes : List (Position × Json)) :
    (object fields).setAll (changes.map fun (p, new) => (.key key :: p, new))
      = .object (fields.modify key fun value => value.setAll changes) := by
  induction changes generalizing fields with
  | nil => simp [setAll_nil, Fields.modify_id]
  | cons change changes ih =>
    obtain ⟨p, new⟩ := change
    have hstep : (object fields).setAt (.key key :: p) new
        = .object (fields.modify key fun value => value.setAt p new) := rfl
    rw [List.map_cons, setAll_cons, hstep, ih, Fields.modify_modify]
    rfl

end Json

end Reshape
