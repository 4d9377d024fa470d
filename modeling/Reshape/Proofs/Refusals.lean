import Reshape.Proofs.Preservation

/-!
# When an assignment is refused

An assignment stores what its expression computes for each instance of the document, and it may meet
a number there that no document can hold. Such a number is never hidden: whatever an expression
computes is a value as a document could have it, or one number that arithmetic has come to. So it is
seen from the outside what will be refused, and an expression that is no arithmetic never is.

The values for all instances are computed one after the other before anything is stored. The first
number that is refused is therefore the one that is reported, wherever the target leads.
-/

namespace Reshape

/-- A double is finite unless it is not a number or infinite. -/
theorem not_isFinite_iff (x : Float) : ¬x.isFinite ↔ x.isNaN ∨ x.isInf := by
  unfold Float.isFinite Float.isNaN Float.isInf
  unfold Float.Model.isFinite Float.Model.isNaN Float.Model.isInf
  cases x.toModel.unpack with
  | infinity s => exact ⟨fun _ => .inr rfl, fun _ => Bool.false_ne_true⟩
  | notANumber => exact ⟨fun _ => .inl rfl, fun _ => Bool.false_ne_true⟩
  | zero s => exact ⟨fun h => absurd rfl h, fun h => h.elim nofun nofun⟩
  | finite s m e hm => exact ⟨fun h => absurd rfl h, fun h => h.elim nofun nofun⟩

/-! ## What expressions compute -/

namespace Operand

/-- Numbers that arithmetic has come to are not found in values of a document, at any depth. -/
theorem leaves_ofJson (value : Json) (x : Float) : .float x ∉ (ofJson value).leaves := by
  induction value with
  | array items ih =>
    rw [ofJson, ofJsonAll_eq_map, leaves_list, List.flatMap_map]
    intro h
    -- a leaf of an array is a leaf of one of its items
    obtain ⟨item, hitem, hleaf⟩ := List.mem_flatMap.1 h
    exact ih item hitem hleaf
  | null | bool | number | string | object =>
    intro h
    exact Operand.noConfusion (List.mem_singleton.1 h)

theorem exists_ofNodes (nodes : List Json) : ∃ value, ofNodes nodes = ofJson value := by
  match nodes with
  | [] => exact ⟨.null, rfl⟩
  | [node] => exact ⟨node, rfl⟩
  | first :: second :: rest => exact ⟨.array (first :: second :: rest), rfl⟩

end Operand

theorem Literal.exists_operand (literal : Literal) :
    ∃ value, literal.operand = Operand.ofJson value := by
  cases literal with
  | null => exact ⟨.null, rfl⟩
  | bool b => exact ⟨.bool b, rfl⟩
  | number n => exact ⟨.number n, rfl⟩
  | string s => exact ⟨.string s, rfl⟩

namespace Expression

/-- Below its groups, the expression is a literal, a path or a concatenation. -/
inductive NotArithmetic : Expression → Prop where
  | literal (value : Literal) : NotArithmetic (.literal value)
  | path (steps : Path) : NotArithmetic (.path steps)
  | concat (left right : Expression) : NotArithmetic (.concat left right)
  | group {inner : Expression} : NotArithmetic inner → NotArithmetic (.group inner)

/-- What is no arithmetic computes values as a document could have them. -/
theorem NotArithmetic.exists_eval {value : Expression} (h : value.NotArithmetic) (node : Json) :
    ∃ found, value.eval node = Operand.ofJson found := by
  induction h with
  | literal value =>
    rw [eval]
    exact value.exists_operand
  | path steps =>
    rw [eval]
    exact Operand.exists_ofNodes _
  | concat left right =>
    rw [eval]
    exact ⟨.string _, rfl⟩
  | group _ ih =>
    rw [eval]
    exact ih

/-- An expression computes a number by arithmetic, or a value as a document could have it. -/
theorem eval_cases (node : Json) : ∀ value : Expression,
    (∃ x, value.eval node = .float x) ∨ ∃ found, value.eval node = Operand.ofJson found
  | .literal value => .inr (NotArithmetic.exists_eval (.literal value) node)
  | .path steps => .inr (NotArithmetic.exists_eval (.path steps) node)
  | .concat left right => .inr (NotArithmetic.exists_eval (.concat left right) node)
  | .arithmetic op left right => by
    rw [eval]
    -- two texts are joined by `+`, and all else is computed with numbers
    unfold ArithmeticOp.apply
    split
    · exact .inr ⟨.string _, rfl⟩
    · exact .inl ⟨_, rfl⟩
  | .group inner => by
    rw [eval]
    exact eval_cases node inner

/-- Where arithmetic has come to a number, this number is all that was computed. -/
theorem eval_eq_of_mem_leaves {value : Expression} {node : Json} {x : Float}
    (h : .float x ∈ (value.eval node).leaves) : value.eval node = .float x := by
  -- a value as a document could have it has no such leaf
  rcases value.eval_cases node with ⟨y, hy⟩ | ⟨found, hfound⟩
  · rw [hy] at h
    exact hy.trans (List.mem_singleton.1 h).symm
  · rw [hfound] at h
    exact absurd h (Operand.leaves_ofJson found x)

/-! ## What is refused -/

/-- The expression computes a number that no document can hold. -/
def ComesTo (value : Expression) (node : Json) (x : Float) : Prop :=
  value.eval node = .float x ∧ (x.isNaN ∨ x.isInf)

/-- What is no arithmetic comes to no such number. -/
theorem NotArithmetic.not_comesTo {value : Expression} (h : value.NotArithmetic) (node : Json)
    (x : Float) : ¬value.ComesTo node x := by
  rintro ⟨hx, -⟩
  obtain ⟨found, hfound⟩ := h.exists_eval node
  refine Operand.leaves_ofJson found x ?_
  rw [← hfound, hx]
  exact List.mem_singleton.2 rfl

/-- A number of arithmetic is stored if it is finite, and otherwise as the policy says. -/
theorem valueFor_of_float {value : Expression} {node : Json} {x : Float}
    (h : value.eval node = .float x) (policy : NonFinite) (target : Path) :
    value.valueFor policy target node =
      if x.isFinite then .ok (some (.number (.double x)))
      else
        match policy with
        | .storeNull => .ok (some .null)
        | .reject => .error (.notFinite target x) := by
  unfold valueFor
  rw [h]
  simp only [Operand.toJson]
  split
  · rfl
  · cases policy <;> rfl

theorem valueFor_of_ofJson {value : Expression} {node found : Json}
    (h : value.eval node = Operand.ofJson found) (policy : NonFinite) (target : Path) :
    ∃ stored, value.valueFor policy target node = .ok stored := by
  unfold valueFor
  rw [h]
  split
  · exact ⟨none, rfl⟩
  · exact ⟨some found, by rw [Operand.toJson_ofJson]; rfl⟩

/-- For an instance, what is refused is a number that no document can hold, under `reject`. -/
theorem valueFor_eq_error_iff {policy : NonFinite} {target : Path} {value : Expression}
    {node : Json} {refusal : Refusal} :
    value.valueFor policy target node = .error refusal
      ↔ policy = .reject ∧ ∃ x, value.ComesTo node x ∧ refusal = .notFinite target x := by
  constructor
  · intro h
    rcases value.eval_cases node with ⟨x, hx⟩ | ⟨found, hfound⟩
    · rw [valueFor_of_float hx] at h
      split at h
      · exact absurd h (by simp)
      · next hfinite =>
        cases policy with
        | storeNull => exact absurd h (by simp)
        | reject =>
          exact ⟨rfl, x, ⟨hx, (not_isFinite_iff x).1 hfinite⟩, (Except.error.inj h).symm⟩
    · obtain ⟨stored, hstored⟩ := valueFor_of_ofJson hfound policy target
      exact absurd (hstored.symm.trans h) (by simp)
  · rintro ⟨rfl, x, ⟨hx, hfinite⟩, rfl⟩
    rw [valueFor_of_float hx, if_neg ((not_isFinite_iff x).2 hfinite)]

/-- For an instance where no such number is computed, there is a value to store. -/
theorem valueFor_eq_ok_iff {target : Path} {value : Expression} {node : Json} :
    (∃ stored, value.valueFor .reject target node = .ok stored) ↔ ∀ x, ¬value.ComesTo node x := by
  constructor
  · rintro ⟨stored, hstored⟩ x hx
    exact absurd (hstored.symm.trans (valueFor_eq_error_iff.2 ⟨rfl, x, hx, rfl⟩)) (by simp)
  · intro h
    cases hvalue : value.valueFor .reject target node with
    | ok stored => exact ⟨stored, rfl⟩
    | error refusal =>
      obtain ⟨-, x, hx, -⟩ := valueFor_eq_error_iff.1 hvalue
      exact absurd hx (h x)

/-- The expression computes such a number for one of the nodes, and for none before it. -/
def ComesFirstTo (value : Expression) (nodes : List Json) (x : Float) : Prop :=
  ∃ before node after, nodes = before ++ node :: after
    ∧ (∀ earlier ∈ before, ∀ y, ¬value.ComesTo earlier y) ∧ value.ComesTo node x

/-- If there is such a number for some node, there is a first one. -/
theorem exists_comesFirstTo_iff {value : Expression} {nodes : List Json} :
    (∃ x, value.ComesFirstTo nodes x) ↔ ∃ node ∈ nodes, ∃ x, value.ComesTo node x := by
  constructor
  · rintro ⟨x, before, node, after, rfl, -, hx⟩
    exact ⟨node, List.mem_append_right before List.mem_cons_self, x, hx⟩
  · rintro ⟨node, hnode, x, hx⟩
    induction nodes with
    | nil => exact absurd hnode List.not_mem_nil
    | cons first nodes ih =>
      -- the first node is such a node, or the induction finds one behind it
      by_cases hfirst : ∃ y, value.ComesTo first y
      · obtain ⟨y, hy⟩ := hfirst
        exact ⟨y, [], first, nodes, rfl, by simp, hy⟩
      · have hrest : node ∈ nodes := (List.mem_cons.1 hnode).resolve_left fun e =>
          hfirst ⟨x, e ▸ hx⟩
        obtain ⟨y, before, node, after, rfl, hbefore, hy⟩ := ih hrest
        refine ⟨y, first :: before, node, after, rfl, ?_, hy⟩
        exact List.forall_mem_cons.2 ⟨fun y hy => hfirst ⟨y, hy⟩, hbefore⟩

end Expression

/-! ## Documents -/

/-- One computation after the other comes to an error if one does and all before it do not. -/
theorem mapM_eq_error_iff {α β ε : Type} {f : α → Except ε β} {items : List α} {e : ε} :
    items.mapM f = .error e
      ↔ ∃ before item after, items = before ++ item :: after
        ∧ (∀ earlier ∈ before, ∃ b, f earlier = .ok b) ∧ f item = .error e := by
  constructor
  · intro h
    induction items with
    | nil => exact absurd h (by simp [pure, Except.pure])
    | cons item items ih =>
      rw [List.mapM_cons] at h
      -- the first error ends the computation, and what comes after it is not asked
      cases hitem : f item with
      | error e' =>
        rw [hitem] at h
        obtain rfl : e' = e := Except.error.inj h
        exact ⟨[], item, items, rfl, by simp, hitem⟩
      | ok b =>
        have hitems : items.mapM f = .error e := by
          rw [hitem] at h
          cases hrest : items.mapM f with
          | error e' =>
            rw [hrest] at h
            exact h
          | ok bs =>
            rw [hrest] at h
            exact absurd h (by simp [bind, Except.bind, pure, Except.pure])
        obtain ⟨before, failed, after, rfl, hbefore, hfailed⟩ := ih hitems
        refine ⟨item :: before, failed, after, rfl, ?_, hfailed⟩
        exact List.forall_mem_cons.2 ⟨⟨b, hitem⟩, hbefore⟩
  · rintro ⟨before, item, after, rfl, hbefore, hitem⟩
    exact mapM_of_error hbefore hitem

/-- What is written is refused for the first number that no document can hold. -/
theorem Edit.write_refused_iff (change : String → Option Json → Fields → Fields)
    (policy : NonFinite) (path : Path) (last : Segment) (value : Expression) (document : Json)
    (refusal : Refusal) :
    ((write change policy (path ++ [last]) value).on document).result = .error refusal
      ↔ policy = .reject ∧ ∃ x, value.ComesFirstTo document.instances x
        ∧ refusal = .notFinite (path ++ [last]) x := by
  have hresult : ((write change policy (path ++ [last]) value).on document).result
      = .error refusal
      ↔ document.instances.mapM (value.valueFor policy (path ++ [last])) = .error refusal := by
    rw [on_write, List.getLast?_concat]
    simp only
    cases document.instances.mapM (value.valueFor policy (path ++ [last])) with
    | ok stored => simp [Outcome.result]
    | error r => simp [Outcome.result]
  rw [hresult, mapM_eq_error_iff]
  constructor
  · rintro ⟨before, node, after, hnodes, hbefore, hnode⟩
    obtain ⟨rfl, x, hx, rfl⟩ := Expression.valueFor_eq_error_iff.1 hnode
    refine ⟨rfl, x, ⟨before, node, after, hnodes, fun earlier hearlier => ?_, hx⟩, rfl⟩
    exact Expression.valueFor_eq_ok_iff.1 (hbefore earlier hearlier)
  · rintro ⟨rfl, x, ⟨before, node, after, hnodes, hbefore, hx⟩, rfl⟩
    refine ⟨before, node, after, hnodes, fun earlier hearlier => ?_, ?_⟩
    · exact Expression.valueFor_eq_ok_iff.2 (hbefore earlier hearlier)
    · exact Expression.valueFor_eq_error_iff.2 ⟨rfl, x, hx, rfl⟩

/-- What is no arithmetic is written, whatever the policy. -/
theorem Edit.write_of_notArithmetic {value : Expression} (h : value.NotArithmetic)
    (change : String → Option Json → Fields → Fields) (policy : NonFinite) (path : Path)
    (last : Segment) (document : Json) :
    ∃ after, ((write change policy (path ++ [last]) value).on document).result = .ok after := by
  cases hresult : ((write change policy (path ++ [last]) value).on document).result with
  | ok after => exact ⟨after, rfl⟩
  | error refusal =>
    obtain ⟨-, x, hfirst, -⟩ :=
      (write_refused_iff change policy path last value document _).1 hresult
    obtain ⟨node, -, y, hy⟩ := Expression.exists_comesFirstTo_iff.1 ⟨x, hfirst⟩
    exact absurd hy (h.not_comesTo node y)

/--
**An assignment is refused exactly for a number that no document can hold.** So it is under
`reject`, when arithmetic comes to such a number for some instance; the refusal has the first of
these numbers and the target, which its message names as it is displayed, and it does not matter
what the target leads to. An expression that is no arithmetic below its groups is never refused.
What this rests on is that no number of arithmetic is ever inside a list.
-/
theorem assignment_refused_iff (policy : NonFinite) (path : Path) (last : Segment)
    (value : Expression) (document : Json) :
    (∀ refusal, document.assign policy (path ++ [last]) value = .error refusal
      ↔ policy = .reject ∧ ∃ x, value.ComesFirstTo document.instances x
        ∧ refusal = .notFinite (path ++ [last]) x)
    ∧ (∀ refusal, document.append policy (path ++ [last]) value = .error refusal
      ↔ policy = .reject ∧ ∃ x, value.ComesFirstTo document.instances x
        ∧ refusal = .notFinite (path ++ [last]) x)
    ∧ ((∃ x, value.ComesFirstTo document.instances x)
      ↔ ∃ node ∈ document.instances, ∃ x, value.eval node = .float x ∧ (x.isNaN ∨ x.isInf))
    ∧ (∀ x, (Refusal.notFinite (path ++ [last]) x).message
      = "Non-finite number " ++ nameNonFinite x ++ " cannot be stored in field '"
        ++ Path.display (path ++ [last]) ++ "'")
    ∧ (value.NotArithmetic →
      (∃ after, document.assign policy (path ++ [last]) value = .ok after)
      ∧ ∃ after, document.append policy (path ++ [last]) value = .ok after)
    ∧ ∀ node x, .float x ∈ (value.eval node).leaves → value.eval node = .float x := by
  refine ⟨?_, ?_, Expression.exists_comesFirstTo_iff, fun x => rfl, fun h => ⟨?_, ?_⟩,
    fun node x => Expression.eval_eq_of_mem_leaves⟩
  · exact Edit.write_refused_iff Fields.assign policy path last value document
  · exact Edit.write_refused_iff Fields.append policy path last value document
  · exact Edit.write_of_notArithmetic h Fields.assign policy path last document
  · exact Edit.write_of_notArithmetic h Fields.append policy path last document

/-- One by the field `n`. -/
def inverseOfN : Expression :=
  .arithmetic .divide (.literal (.number (.int 1))) (.path [.plain "n"])

/--
The second quotient is refused, though the target leads to nothing in the document. A concatenation
with the very quotient is none itself, and is stored.
-/
theorem assignment_refused_inverse :
    (Json.array [.object [("n", .number (.int 1))], .object []]).assign .reject
        [.plain "none", .plain "share"] inverseOfN
      = .error (.notFinite [.plain "none", .plain "share"] (1 / 0))
    ∧ inverseOfN.ComesFirstTo [.object [("n", .number (.int 1))], .object []] (1 / 0)
    ∧ Expression.NotArithmetic (.group (.concat inverseOfN (.literal (.string "!"))))
    ∧ (∃ after, (Json.array [.object [("n", .number (.int 1))], .object []]).append .reject
        [.plain "none", .plain "share"] (.group (.concat inverseOfN (.literal (.string "!"))))
      = .ok after)
    ∧ .float (1 / 0) ∈ (inverseOfN.eval (.object [])).leaves
    ∧ inverseOfN.eval (.object []) = .float (1 / 0) := by
  have hrefused : (Json.array [.object [("n", .number (.int 1))], .object []]).assign .reject
      [.plain "none", .plain "share"] inverseOfN
      = .error (.notFinite [.plain "none", .plain "share"] (1 / 0)) := rfl
  have hconcat : Expression.NotArithmetic
      (.group (.concat inverseOfN (.literal (.string "!")))) :=
    .group (.concat _ _)
  have hleaf : .float (1 / 0) ∈ (inverseOfN.eval (.object [])).leaves := by
    exact List.mem_singleton.2 rfl
  obtain ⟨hassign, -, -, -, -, hwhole⟩ := assignment_refused_iff .reject [.plain "none"]
    (.plain "share") inverseOfN (.array [.object [("n", .number (.int 1))], .object []])
  obtain ⟨-, x, hfirst, hx⟩ := (hassign _).1 hrefused
  obtain ⟨-, -, -, -, hstored, -⟩ := assignment_refused_iff .reject [.plain "none"]
    (.plain "share") (.group (.concat inverseOfN (.literal (.string "!"))))
    (.array [.object [("n", .number (.int 1))], .object []])
  obtain ⟨-, rfl⟩ := Refusal.notFinite.inj hx
  exact ⟨hrefused, hfirst, hconcat, (hstored hconcat).2, hleaf, hwhole _ _ hleaf⟩

end Reshape
