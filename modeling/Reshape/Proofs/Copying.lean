import Reshape.Proofs.Refusals

/-!
# A path copies what it finds

The value of a path goes from the document to an operand and from there into the document again.
Both ways take arrays apart item by item, objects are passed on whole, and several values found are
treated as an array of them. So nothing is lost on the way: what is stored are the nodes that the
path has found, and how many these are decides whether they are stored as an array.

That `null` removes a field is about the operand and not about its items. One `null` found is
nothing to store, like no node at all; two are an array of two.
-/

namespace Reshape

/-! ## Operands -/

/-- Unless it is a text or `null`, a value of a document is rendered as its compact text. -/
theorem Operand.render_ofJson {node : Json} (hstring : node.kind ≠ .string)
    (hnull : node.kind ≠ .null) : (ofJson node).render = node.compact := by
  cases node with
  | null => exact absurd rfl hnull
  | string s => exact absurd rfl hstring
  | bool b => cases b <;> rfl
  | number n => rfl
  | array items =>
    -- an array is rendered by being stored first
    have hstored := toJson_ofJson .storeNull (.array items)
    rw [ofJson] at hstored ⊢
    rw [render, hstored]
    all_goals simp
  | object fields => rfl

theorem Operand.ofJson_eq_null_iff {node : Json} : ofJson node = .null ↔ node = .null := by
  cases node <;> simp [ofJson]

/-! ## Nodes found -/

/-- What is stored of the nodes that a path finds: one node as it is, several as an array. -/
def copyOf : List Json → Option Json
  | [] | [.null] => none
  | [node] => some node
  | nodes => some (.array nodes)

/-- Where the operand is `null`, nothing is copied. -/
theorem copyOf_of_null {nodes : List Json} (h : Operand.ofNodes nodes = .null) :
    copyOf nodes = none := by
  match nodes with
  | [] => rfl
  | [node] =>
    obtain rfl := Operand.ofJson_eq_null_iff.1 h
    rfl
  | first :: second :: rest => exact absurd h (by simp [Operand.ofNodes])

/-- Otherwise the copy is what the operand is stored as. -/
theorem copyOf_of_toJson {nodes : List Json} (hnull : Operand.ofNodes nodes ≠ .null)
    {policy : NonFinite} {stored : Json}
    (h : (Operand.ofNodes nodes).toJson policy = .ok stored) : copyOf nodes = some stored := by
  rw [Operand.toJson_ofNodes] at h
  obtain rfl := Except.ok.inj h
  match nodes with
  | [] => exact absurd rfl hnull
  | [node] =>
    cases node with
    | null => exact absurd rfl hnull
    | bool | number | string | array | object => rfl
  | first :: second :: rest => simp [copyOf]

/-! ## Expressions -/

namespace Expression

/-- The expression is a path, or a path in parentheses. -/
inductive Copies (source : Path) : Expression → Prop where
  | path : Copies source (.path source)
  | group {inner : Expression} : Copies source inner → Copies source (.group inner)

variable {source : Path} {value : Expression}

theorem Copies.notArithmetic (h : value.Copies source) : value.NotArithmetic := by
  induction h with
  | path => exact .path source
  | group _ ih => exact .group ih

theorem Copies.eval_eq (h : value.Copies source) (node : Json) :
    value.eval node = .ofNodes (source.select [node]) := by
  induction h with
  | path => rw [eval, Path.select]
  | group _ ih => rw [eval, ih]

/-- What is stored is the copy of what was found. -/
theorem Copies.eq_copyOf (h : value.Copies source) {policy : NonFinite} {node : Json}
    {stored : Option Json} (hstored : value.Stores policy node stored) :
    stored = copyOf (source.select [node]) := by
  cases stored with
  | none =>
    rw [Stores, h.eval_eq] at hstored
    exact (copyOf_of_null hstored).symm
  | some v =>
    rw [Stores, h.eval_eq] at hstored
    exact (copyOf_of_toJson hstored.1 hstored.2).symm

end Expression

/--
**What is copied is stored as it was found.** A value of a document that is made an operand and then
stored is the same value, under either policy; unless it is a text or `null`, the operand is
rendered as the compact text of the value. An assignment of a path, in parentheses or not, is never
refused. In every container that its target leads to it stores what the path finds in the instance:
nothing for no node and for one `null`, the one node otherwise, or the array of all nodes found.
-/
theorem copying_is_faithful (policy : NonFinite) :
    (∀ node, (Operand.ofJson node).toJson policy = .ok node)
    ∧ (∀ node : Json, node.kind ≠ .string → node.kind ≠ .null →
      (Operand.ofJson node).render = node.compact)
    ∧ ∀ (target source : Path) (value : Expression) (document : Json), value.Copies source →
      ∃ after, document.assign policy target value = .ok after
        ∧ ∀ (path : Path) (last : Segment), target = path ++ [last] →
          document.EachInstance
            (fun old new => path.ChangesContainers
              (Fields.Assigned last.name (copyOf (source.select [old]))) old new) after := by
  refine ⟨fun node => Operand.toJson_ofJson policy node, fun node => Operand.render_ofJson,
    fun target source value document h => ?_⟩
  obtain rfl | ⟨path, last, rfl⟩ := List.eq_nil_or_concat' target
  · exact ⟨document, rfl, fun path last hnil => absurd hnil (by simp)⟩
  obtain ⟨after, hafter⟩ :=
    Edit.write_of_notArithmetic h.notArithmetic Fields.assign policy path last document
  refine ⟨after, hafter, fun path' last' htarget => ?_⟩
  obtain ⟨rfl, hlast⟩ := List.append_inj' htarget rfl
  obtain rfl := List.singleton_inj.1 hlast
  have hchanges := write_changes Fields.assigned_assign (Outcome.eq_of_result_eq_ok hafter)
  refine hchanges.mono fun old new => ?_
  -- the stored value is the copy, so the effect is that of the copy
  rintro ⟨stored, hstored, hnew⟩
  exact h.eq_copyOf hstored ▸ hnew

/-- A document with the given parts, and with a box that holds the given fields. -/
def boxed (parts : List Json) (fields : Fields) : Json :=
  .object [("box", .object fields), ("parts", .array parts)]

/-- The parts in a list of their own, with one that is `null`. -/
def nestedParts : List Json := [.array [.object [("size", .number (.int 3))], .null], .null]

/-- Of no part and of one `null` there is no copy, of one part and of several there is. -/
theorem copying_is_faithful_boxed :
    Expression.Copies [.mk "parts" .each] (.group (.path [.mk "parts" .each]))
    ∧ (Json.array [boxed [] [("copy", .null)], boxed [.null] [("copy", .null)],
        boxed [.string ""] [], boxed nestedParts []]).assign .reject [.plain "box", .plain "copy"]
        (.group (.path [.mk "parts" .each]))
      = .ok (.array [boxed [] [], boxed [.null] [],
        boxed [.string ""] [("copy", .string "")],
        boxed nestedParts [("copy", .array nestedParts)]])
    ∧ (boxed nestedParts []).EachInstance
        (fun old new => Path.ChangesContainers [.plain "box"]
          (Fields.Assigned "copy" (copyOf (Path.select [.mk "parts" .each] [old]))) old new)
        (boxed nestedParts [("copy", .array nestedParts)]) := by
  have hgroup : Expression.Copies [.mk "parts" .each] (.group (.path [.mk "parts" .each])) :=
    .group .path
  obtain ⟨-, -, hassign⟩ := copying_is_faithful .reject
  obtain ⟨after, hafter, hchanges⟩ :=
    hassign [.plain "box", .plain "copy"] [.mk "parts" .each] _ (boxed nestedParts []) hgroup
  have hresult : (boxed nestedParts []).assign .reject [.plain "box", .plain "copy"]
      (.group (.path [.mk "parts" .each]))
      = .ok (boxed nestedParts [("copy", .array nestedParts)]) := rfl
  obtain rfl := Except.ok.inj (hafter.symm.trans hresult)
  exact ⟨hgroup, rfl, hchanges [.plain "box"] (.plain "copy") rfl⟩

end Reshape
