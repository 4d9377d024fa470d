import Reshape.Proofs.Runs

/-!
# Two policies for numbers that no document can hold

A policy is asked in one place only: where a result of arithmetic is stored, maybe deep inside a
list. There `storeNull` goes on with a `null`, and `reject` refuses the statement. This file follows
that difference outwards.

* For values, for all instances of a document and for single statements, `reject` does what
  `storeNull` does, or refuses a number (`Statement.on_policies`).
* So two runs of a program go side by side up to the first statement for which `reject` refuses a
  number. A run that is refused for another reason, or not at all, is the same under both.
-/

namespace Reshape

/-- A number was refused that no document can hold. -/
def Refusal.OfNumber (refusal : Refusal) : Prop :=
  ∃ target x, refusal = .notFinite target x

/-! ## Computations under both policies -/

/--
The lenient computation comes to something, and the strict one comes to the same or to an error that
is allowed to it.
-/
def StricterBy {ε α : Type} (allowed : ε → Prop) (strict lenient : Except ε α) : Prop :=
  ∃ a, lenient = .ok a ∧ (strict = .ok a ∨ ∃ e, strict = .error e ∧ allowed e)

namespace StricterBy

variable {ε α β : Type} {allowed : ε → Prop}

theorem ok (a : α) : StricterBy allowed (.ok a) (.ok a) := ⟨a, rfl, .inl rfl⟩

theorem map {strict lenient : Except ε α} (h : StricterBy allowed strict lenient) (f : α → β) :
    StricterBy allowed (strict.map f) (lenient.map f) := by
  obtain ⟨a, rfl, rfl | ⟨e, rfl, he⟩⟩ := h
  · exact ok (f a)
  · exact ⟨f a, rfl, .inr ⟨e, rfl, he⟩⟩

/-- What is made of the errors stays allowed. -/
theorem mapError {ε' : Type} {allowed' : ε' → Prop} {strict lenient : Except ε α}
    (h : StricterBy allowed strict lenient) {g : ε → ε'} (hg : ∀ e, allowed e → allowed' (g e)) :
    StricterBy allowed' (strict.mapError g) (lenient.mapError g) := by
  obtain ⟨a, rfl, rfl | ⟨e, rfl, he⟩⟩ := h
  · exact ok a
  · exact ⟨a, rfl, .inr ⟨g e, rfl, hg e he⟩⟩

/-- The error for the first item that has one is the error for all of them. -/
theorem mapM {strict lenient : α → Except ε β} {items : List α}
    (h : ∀ a ∈ items, StricterBy allowed (strict a) (lenient a)) :
    StricterBy allowed (items.mapM strict) (items.mapM lenient) := by
  induction items with
  | nil => exact ok []
  | cons item items ih =>
    obtain ⟨b, hlenient, hstrict⟩ := h item List.mem_cons_self
    obtain ⟨bs, hlenients, hstricts⟩ := ih fun a ha => h a (List.mem_cons_of_mem item ha)
    refine ⟨b :: bs, by rw [List.mapM_cons, hlenient, hlenients]; rfl, ?_⟩
    rw [List.mapM_cons]
    rcases hstrict with hstrict | ⟨e, hstrict, he⟩
    · rcases hstricts with hstricts | ⟨e, hstricts, he⟩
      · exact .inl (by rw [hstrict, hstricts]; rfl)
      · exact .inr ⟨e, by rw [hstrict, hstricts]; rfl, he⟩
    · exact .inr ⟨e, by rw [hstrict]; rfl, he⟩

end StricterBy

/-! ## Values -/

namespace Operand

theorem toJsonAll_eq_mapM (policy : NonFinite) (items : List Operand) :
    toJsonAll policy items = items.mapM (toJson policy) := by
  induction items with
  | nil => rfl
  | cons item items ih => rw [toJsonAll, List.mapM_cons, ih]

theorem toJson_list (policy : NonFinite) (items : List Operand) :
    (list items).toJson policy = (items.mapM (toJson policy)).map .array := by
  rw [toJson, toJsonAll_eq_mapM]
  cases items.mapM (toJson policy) <;> rfl

/-- What `reject` refuses to store are numbers that are not finite, however deep they lie. -/
theorem toJson_stricter (operand : Operand) :
    StricterBy (fun x => ¬x.isFinite) (operand.toJson .reject) (operand.toJson .storeNull) := by
  induction operand with
  | null | bool | number | text | object => exact .ok _
  | float x =>
    simp only [toJson]
    -- a finite number is stored under both policies
    split
    · exact .ok _
    · next hx => exact ⟨.null, rfl, .inr ⟨x, rfl, hx⟩⟩
  | list items ih =>
    rw [toJson_list, toJson_list]
    exact (StricterBy.mapM ih).map _

end Operand

/-- The values for an instance differ only by the refusal of a number. -/
theorem Expression.valueFor_stricter (value : Expression) (target : Path) (node : Json) :
    StricterBy Refusal.OfNumber (value.valueFor .reject target node)
      (value.valueFor .storeNull target node) := by
  unfold valueFor
  split
  · exact .ok none
  · exact ((value.eval node).toJson_stricter.map some).mapError fun x _ => ⟨target, x, rfl⟩

/-! ## Statements -/

/-- The outcome is not the refusal of a number. -/
def Outcome.NumbersAccepted (outcome : Outcome) : Prop :=
  ∀ refusal, outcome.refusal = some refusal → ¬refusal.OfNumber

theorem Outcome.numbersAccepted_of_done (document : Json) :
    Outcome.NumbersAccepted ⟨document, none⟩ :=
  fun refusal h => absurd h (by simp)

namespace Edit

/--
The edit under `storeNull` never refuses a number, and under `reject` it does the same or refuses
one and changes nothing.
-/
def Stricter (strict lenient : Edit Unit) : Prop :=
  ∀ document, (lenient.on document).NumbersAccepted
    ∧ (strict.on document = lenient.on document
      ∨ ∃ refusal, strict.on document = ⟨document, some refusal⟩ ∧ refusal.OfNumber)

/-- A write refuses at most a number that `storeNull` does not, and then changes nothing. -/
theorem write_stricter (change : String → Option Json → Fields → Fields) (target : Path)
    (value : Expression) :
    Stricter (write change .reject target value) (write change .storeNull target value) := by
  intro document
  rw [on_write, on_write]
  cases target.getLast? with
  | none => exact ⟨Outcome.numbersAccepted_of_done document, .inl rfl⟩
  | some field =>
    obtain ⟨stored, hlenient, hstrict⟩ :=
      StricterBy.mapM fun node (_ : node ∈ document.instances) =>
        value.valueFor_stricter target node
    simp only [hlenient]
    refine ⟨Outcome.numbersAccepted_of_done _, ?_⟩
    -- the same values are stored, or one of them is refused before anything is stored
    rcases hstrict with hstrict | ⟨refusal, hstrict, hnumber⟩
    · exact .inl (by rw [hstrict])
    · exact .inr ⟨refusal, by rw [hstrict], hnumber⟩

/-- An edit that asks for no policy is the same under both. -/
theorem stricter_of_numbersAccepted {edit : Edit Unit}
    (h : ∀ document, (edit.on document).NumbersAccepted) : Stricter edit edit :=
  fun document => ⟨h document, .inl rfl⟩

/-- A filter refuses documents, but no numbers. -/
theorem filter_stricter (predicate : Predicate) :
    Stricter (filter predicate) (filter predicate) := by
  refine stricter_of_numbersAccepted fun document refusal h => ?_
  rw [on_filter] at h
  split at h
  · exact absurd h (by simp)
  · obtain rfl := Option.some.inj h
    rintro ⟨target, x, hnumber⟩
    exact absurd hnumber (by simp)

theorem rename_stricter (target source : Path) :
    Stricter (rename target source) (rename target source) := by
  refine stricter_of_numbersAccepted fun document refusal h => ?_
  rw [refusal_rename] at h
  exact absurd h (by simp)

end Edit

/-- Every statement does under `reject` what it does under `storeNull`, or refuses a number. -/
theorem Statement.apply_stricter (statement : Statement) :
    Edit.Stricter (statement.apply .reject) (statement.apply .storeNull) := by
  cases statement with
  | filter predicate => exact Edit.filter_stricter predicate
  | assign target value => exact Edit.write_stricter Fields.assign target value
  | append target value => exact Edit.write_stricter Fields.append target value
  | rename target source => exact Edit.rename_stricter target source

/-! ## Runs -/

namespace Program

theorem run_nil (policy : NonFinite) (document : Json) :
    run policy [] document = ⟨document, none⟩ := rfl

/-- A run carries out its first statement, and goes on unless that was refused. -/
theorem run_cons (policy : NonFinite) (statement : Statement) (program : Program)
    (document : Json) :
    run policy (statement :: program) document =
      match (statement.apply policy).on document with
      | ⟨between, none⟩ => run policy program between
      | ⟨between, some refusal⟩ => ⟨between, some refusal⟩ :=
  Edit.on_bind _ _ document

/-- A run goes on from what its first statements leave, unless one of them was refused. -/
theorem run_append (policy : NonFinite) (program more : Program) (document : Json) :
    run policy (program ++ more) document =
      match run policy program document with
      | ⟨between, none⟩ => run policy more between
      | ⟨between, some refusal⟩ => ⟨between, some refusal⟩ := by
  induction program generalizing document with
  | nil => rw [List.nil_append, run_nil]
  | cons statement program ih =>
    rw [List.cons_append, run_cons, run_cons]
    rcases (statement.apply policy).on document with ⟨between, _ | refusal⟩
    · exact ih between
    · rfl

/--
The statements before the one with index `k` are carried out, and this one is refused. The document
is what it leaves then.
-/
def StopsAt (policy : NonFinite) (program : Program) (document : Json) (k : Nat) (after : Json)
    (refusal : Refusal) : Prop :=
  ∃ between statement, run policy (program.take k) document = ⟨between, none⟩
    ∧ program[k]? = some statement
    ∧ (statement.apply policy).on between = ⟨after, some refusal⟩

/-- A run that is refused stops at a statement, and leaves what is there then. -/
theorem run_eq_refused_iff {policy : NonFinite} {program : Program} {document after : Json}
    {refusal : Refusal} :
    run policy program document = ⟨after, some refusal⟩
      ↔ ∃ k, program.StopsAt policy document k after refusal := by
  constructor
  · intro h
    -- a run is a loop over its statements, which stops at the first refusal
    obtain ⟨done, failed, rest, between, rfl, hdone, hfailed⟩ := refused_forM h
    refine ⟨done.length, between, failed, ?_, ?_, hfailed⟩
    · rw [List.take_left]
      exact hdone
    · rw [List.getElem?_append_right (Nat.le_refl _), Nat.sub_self]
      rfl
  · rintro ⟨k, between, statement, hdone, hget, hfailed⟩
    obtain ⟨hk, rfl⟩ := List.getElem?_eq_some_iff.1 hget
    rw [← List.take_append_drop k program, run_append, hdone, List.drop_eq_getElem_cons hk]
    simp only
    rw [run_cons, hfailed]

/-- What comes to an end under `reject` does so under `storeNull`, with the same document. -/
theorem run_storeNull {program : Program} {document after : Json}
    (h : run .reject program document = ⟨after, none⟩) :
    run .storeNull program document = ⟨after, none⟩ := by
  induction program generalizing document with
  | nil => rwa [run_nil] at h ⊢
  | cons statement program ih =>
    rw [run_cons] at h ⊢
    -- a statement that refuses a number would have ended the run
    rcases (statement.apply_stricter document).2 with hsame | ⟨refusal, hrefused, -⟩
    · rw [← hsame]
      split at h
      · exact ih h
      · exact absurd (Outcome.mk.inj h).2 (by simp)
    · rw [hrefused] at h
      exact absurd (Outcome.mk.inj h).2 (by simp)

end Program

/--
**The two policies differ only on runs that `reject` refuses for a number.** A run that comes to an
end under `reject` is the same under `storeNull`. One that is refused stops at a statement: if it is
refused for a number, the document is what `storeNull` has made of it by then, and otherwise
`storeNull` stops at the same statement, with the same refusal and the same document. `storeNull`
never refuses a number.
-/
theorem policies_differ_only_on_refused_numbers (program : Program) (document : Json) :
    (∀ after, program.run .reject document = ⟨after, none⟩ →
      program.run .storeNull document = ⟨after, none⟩)
    ∧ (∀ policy after refusal, program.run policy document = ⟨after, some refusal⟩
      ↔ ∃ k, program.StopsAt policy document k after refusal)
    ∧ (∀ k after refusal, program.StopsAt .reject document k after refusal →
      (¬refusal.OfNumber → program.StopsAt .storeNull document k after refusal)
      ∧ (refusal.OfNumber → Program.run .storeNull (program.take k) document = ⟨after, none⟩))
    ∧ (program.run .storeNull document).NumbersAccepted := by
  refine ⟨fun after => Program.run_storeNull, fun policy after refusal =>
    Program.run_eq_refused_iff, ?_, ?_⟩
  · rintro k after refusal ⟨between, statement, hdone, hget, hfailed⟩
    refine ⟨fun hother => ⟨between, statement, Program.run_storeNull hdone, hget, ?_⟩,
      fun _ => ?_⟩
    · rcases (statement.apply_stricter between).2 with hsame | ⟨refusal', hrefused, hnumber⟩
      · rw [← hsame, hfailed]
      · -- the only other refusal is that of a number
        obtain rfl := Option.some.inj (Outcome.mk.inj (hfailed.symm.trans hrefused)).2
        exact absurd hnumber hother
    · obtain rfl := statement.apply_atomic .reject between after refusal hfailed
      exact Program.run_storeNull hdone
  · intro refusal h
    rcases hrun : program.run .storeNull document with ⟨after, _ | refusal'⟩
    · rw [hrun] at h
      exact absurd h (by simp)
    · rw [hrun] at h
      obtain rfl := Option.some.inj h
      obtain ⟨k, between, statement, -, -, hfailed⟩ := Program.run_eq_refused_iff.1 hrun
      exact (statement.apply_stricter between).1 _ (by rw [hfailed])

/-- Sets one field to a number, and another one to a quotient by zero. -/
def numberAndQuotient : Program :=
  [.assign [.plain "a"] (.literal (.number (.int 1))),
    .assign [.plain "b"] (.arithmetic .divide (.path [.plain "a"]) (.literal (.number (.int 0))))]

/-- Sets one field to a number, and then filters what is no array. -/
def numberAndFilter : Program :=
  [.assign [.plain "a"] (.literal (.number (.int 1))), .filter (.prune [])]

/-- The object that either program leaves after its first statement. -/
def numberAlone : Json := .object [("a", .number (.int 1))]

/--
The quotient is refused by the one policy, and is a `null` for the other. The filter of an object is
refused by both, with the same document, and that of an array by neither.
-/
theorem policies_differ_on_quotient :
    numberAndFilter.run .reject (.array [.object []]) = ⟨.array [numberAlone], none⟩
    ∧ numberAndFilter.run .storeNull (.array [.object []]) = ⟨.array [numberAlone], none⟩
    ∧ numberAndFilter.StopsAt .reject (.object []) 1 numberAlone (.notAnArray .object)
    ∧ ¬Refusal.OfNumber (.notAnArray .object)
    ∧ numberAndFilter.StopsAt .storeNull (.object []) 1 numberAlone (.notAnArray .object)
    ∧ numberAndQuotient.run .reject (.object [])
      = ⟨numberAlone, some (.notFinite [.plain "b"] (1 / 0))⟩
    ∧ numberAndQuotient.StopsAt .reject (.object []) 1 numberAlone
      (.notFinite [.plain "b"] (1 / 0))
    ∧ Refusal.OfNumber (.notFinite [.plain "b"] (1 / 0))
    ∧ Program.run .storeNull (numberAndQuotient.take 1) (.object []) = ⟨numberAlone, none⟩
    ∧ numberAndQuotient.run .storeNull (.object [])
      = ⟨.object [("a", .number (.int 1)), ("b", .null)], none⟩ := by
  have hdone : numberAndFilter.run .reject (.array [.object []]) = ⟨.array [numberAlone], none⟩ :=
    rfl
  have hfilter : numberAndFilter.StopsAt .reject (.object []) 1 numberAlone
      (.notAnArray .object) :=
    ⟨numberAlone, _, rfl, rfl, rfl⟩
  have hother : ¬Refusal.OfNumber (.notAnArray .object) := by
    rintro ⟨target, x, h⟩
    exact absurd h (by simp)
  have hquotient : numberAndQuotient.StopsAt .reject (.object []) 1 numberAlone
      (.notFinite [.plain "b"] (1 / 0)) :=
    ⟨numberAlone, _, rfl, rfl, rfl⟩
  have hnumber : Refusal.OfNumber (.notFinite [.plain "b"] (1 / 0)) := ⟨_, _, rfl⟩
  obtain ⟨hsame, -, -, -⟩ :=
    policies_differ_only_on_refused_numbers numberAndFilter (.array [.object []])
  obtain ⟨-, -, hfilterStops, -⟩ :=
    policies_differ_only_on_refused_numbers numberAndFilter (.object [])
  obtain ⟨-, hrefused, hquotientStops, -⟩ :=
    policies_differ_only_on_refused_numbers numberAndQuotient (.object [])
  exact ⟨hdone, hsame _ hdone, hfilter, hother, (hfilterStops 1 _ _ hfilter).1 hother,
    (hrefused _ _ _).2 ⟨1, hquotient⟩, hquotient, hnumber,
    (hquotientStops 1 _ _ hquotient).2 hnumber, rfl⟩

end Reshape
