import Reshape.Run

/-!
# Runs and batches

An edit works in place, so what a refused one leaves behind is a question of its own. This file
answers it for the statements, and then for runs:

* a refused statement leaves the document as it found it, since all that can be refused is found
  out before anything is changed;
* a run that is refused has done all statements before the refused one, and nothing else;
* a batch is refused before it does anything if a text of it cannot be read, and is otherwise the
  run of its texts one by one.
-/

namespace Reshape

/-! ## One statement -/

namespace Edit

/-- The edit leaves the document as it was whenever it is refused. -/
def Atomic (edit : Edit Unit) : Prop :=
  ∀ document after refusal, edit.on document = ⟨after, some refusal⟩ → after = document

theorem write_atomic (change : String → Option Json → Fields → Fields) (policy : NonFinite)
    (target : Path) (value : Expression) : (write change policy target value).Atomic := by
  intro document after refusal h
  rw [on_write] at h
  split at h
  · injection h with _ h
    exact absurd h (by simp)
  · split at h
    · injection h with _ h
      exact absurd h (by simp)
    · injection h with h
      exact h.symm

theorem filter_atomic (predicate : Predicate) : (filter predicate).Atomic := by
  intro document after refusal h
  rw [on_filter] at h
  split at h
  · injection h with _ h
    exact absurd h (by simp)
  · injection h with h
    exact h.symm

/-- A renaming does nothing to any document, or moves one field to another one in all containers. -/
theorem rename_cases (target source : Path) :
    (∀ document, (rename target source).on document = ⟨document, none⟩)
    ∨ ∃ old new : String, old ≠ new ∧ ∀ document, (rename target source).on document
      = ⟨document.mapInstances (Path.modifyContainers target.dropLast (Fields.rename old new)),
        none⟩ := by
  cases hnew : target.getLast? with
  | none => exact .inl fun document => by simp [on_rename, hnew]
  | some new =>
    cases hold : source.getLast? with
    | none => exact .inl fun document => by simp [on_rename, hold]
    | some old =>
      by_cases hname : new.name = old.name
      · exact .inl fun document => by simp [on_rename, hnew, hold, hname]
      · refine .inr ⟨old.name, new.name, Ne.symm hname, fun document => ?_⟩
        simp [on_rename, hnew, hold, hname]

/-- Renaming is never refused. -/
theorem refusal_rename (target source : Path) (document : Json) :
    ((rename target source).on document).refusal = none := by
  rcases rename_cases target source with hnothing | ⟨old, new, -, hmoves⟩
  · rw [hnothing]
  · rw [hmoves]

end Edit

/-- Statements of all four kinds are atomic. -/
theorem Statement.apply_atomic (policy : NonFinite) (statement : Statement) :
    (statement.apply policy).Atomic := by
  cases statement with
  | filter predicate => exact Edit.filter_atomic predicate
  | assign target value => exact Edit.write_atomic _ policy target value
  | append target value => exact Edit.write_atomic _ policy target value
  | rename target source =>
    intro document after refusal h
    have hnone := Edit.refusal_rename target source document
    rw [Statement.apply] at h
    rw [h] at hnone
    exact absurd hnone (by simp)

/-! ## Texts -/

/-- The text can be read as a statement. -/
def Readable (text : String) : Prop := ∃ statement, Statement.read text = .ok statement

instance decidableSucceeds {ε α : Type} (result : Except ε α) : Decidable (∃ a, result = .ok a) :=
  match result with
  | .ok a => isTrue ⟨a, rfl⟩
  | .error _ => isFalse (by simp)

instance decidableReadable (text : String) : Decidable (Readable text) :=
  inferInstanceAs (Decidable (∃ _, _ = _))

theorem on_applyText {text : String} {statement : Statement}
    (h : Statement.read text = .ok statement) (policy : NonFinite) (document : Json) :
    (applyText policy text).on document = (statement.apply policy).on document := by
  rw [applyText, Edit.on_ofExcept_bind, h]

theorem applyText_atomic (policy : NonFinite) (text : String) : (applyText policy text).Atomic := by
  intro document after refusal h
  rw [applyText, Edit.on_ofExcept_bind] at h
  split at h
  · exact Statement.apply_atomic policy _ document after refusal h
  · injection h with h
    exact h.symm

/-! ## Runs -/

/-- A run that is refused has carried out the edits before the refused one. -/
theorem refused_forM {α : Type} {edit : α → Edit Unit} {steps : List α}
    {document after : Json} {refusal : Refusal}
    (h : (steps.forM edit).on document = ⟨after, some refusal⟩) :
    ∃ done failed rest between, steps = done ++ failed :: rest
      ∧ (done.forM edit).on document = ⟨between, none⟩
      ∧ (edit failed).on between = ⟨after, some refusal⟩ := by
  induction steps generalizing document with
  | nil =>
    injection h with _ h
    exact absurd h (by simp)
  | cons step steps ih =>
    have hrun : ((step :: steps).forM edit).on document
        = (edit step >>= fun _ => steps.forM edit).on document := rfl
    rw [hrun, Edit.on_bind] at h
    split at h
    -- where the first edit came to an end, the refusal is one of the others
    · next between hstep =>
      obtain ⟨done, failed, rest, last, rfl, hdone, hfailed⟩ := ih h
      refine ⟨step :: done, failed, rest, last, rfl, ?_, hfailed⟩
      have hrun : ((step :: done).forM edit).on document
          = (edit step >>= fun _ => done.forM edit).on document := rfl
      rw [hrun, Edit.on_bind, hstep]
      exact hdone
    · next between refusal' hstep =>
      exact ⟨[], step, steps, document, rfl, rfl, hstep.trans h⟩

/-! ## Batches -/

/-- Computations that have no effect have none one after the other. -/
theorem mapM_eq_pure {m : Type → Type} [Monad m] [LawfulMonad m] {α β : Type} {f : α → m β}
    {g : α → β} {items : List α} (h : ∀ a ∈ items, f a = pure (g a)) :
    items.mapM f = pure (items.map g) := by
  induction items with
  | nil => rfl
  | cons a items ih =>
    rw [List.mapM_cons, h a List.mem_cons_self, ih fun b hb => h b (List.mem_cons_of_mem a hb)]
    simp

/-- Where one computation after the other is made, the first error ends it. -/
theorem mapM_of_error {α β ε : Type} {f : α → Except ε β} {before after : List α} {a : α} {e : ε}
    (hbefore : ∀ b ∈ before, ∃ c, f b = .ok c) (ha : f a = .error e) :
    (before ++ a :: after).mapM f = .error e := by
  induction before with
  | nil => rw [List.nil_append, List.mapM_cons, ha]; rfl
  | cons b before ih =>
    obtain ⟨c, hb⟩ := hbefore b (List.mem_cons_self ..)
    rw [List.cons_append, List.mapM_cons, hb, ih fun b hb => hbefore b (List.mem_cons_of_mem _ hb)]
    rfl

theorem mapM_read_of_unreadable {before after : List String} {text : String} {refusal : Refusal}
    (hbefore : ∀ t ∈ before, Readable t) (htext : Statement.read text = .error refusal) :
    (before ++ text :: after).mapM Statement.read = .error refusal :=
  mapM_of_error hbefore htext

/-- Texts that can all be read are carried out in a batch as one by one. -/
theorem on_applyBatch {texts : List String} (h : ∀ t ∈ texts, Readable t) (policy : NonFinite)
    (document : Json) :
    (applyBatch policy texts).on document = (texts.forM (applyText policy)).on document := by
  suffices hall : ∃ program, texts.mapM Statement.read = .ok program
      ∧ ∀ document, (Program.apply policy program).on document
        = (texts.forM (applyText policy)).on document by
    obtain ⟨program, hread, hrun⟩ := hall
    rw [applyBatch, Edit.on_ofExcept_bind, hread]
    exact hrun document
  induction texts with
  | nil => exact ⟨[], rfl, fun _ => rfl⟩
  | cons text texts ih =>
    obtain ⟨statement, hread⟩ := h text (List.mem_cons_self ..)
    obtain ⟨program, hreads, hrun⟩ := ih fun t ht => h t (List.mem_cons_of_mem _ ht)
    refine ⟨statement :: program, ?_, fun document => ?_⟩
    · rw [List.mapM_cons, hread, hreads]
      rfl
    · calc
        (Program.apply policy (statement :: program)).on document
            = (statement.apply policy >>= fun _ => Program.apply policy program).on document := rfl
        _ = (applyText policy text >>= fun _ => texts.forM (applyText policy)).on document := by
          rw [Edit.on_bind, Edit.on_bind, on_applyText hread]
          simp only [hrun]
        _ = ((text :: texts).forM (applyText policy)).on document := rfl

/--
**A batch is its texts one by one, unless one of them cannot be read.** In that case the first
such text is the cause of the refusal, and the document is untouched. Otherwise the outcome is
that of carrying out the texts in turn up to the first refusal; if there is one, the document is
what the texts before it made of it. The last part is for statements of every kind: a refused one
changes nothing.
-/
theorem runBatch_eq_run_in_turn (policy : NonFinite) (texts : List String) (document : Json) :
    (∀ before text after refusal, texts = before ++ text :: after → (∀ t ∈ before, Readable t) →
      Statement.read text = .error refusal →
      runBatch policy texts document = ⟨document, some refusal⟩)
    ∧ ((∀ t ∈ texts, Readable t) →
      runBatch policy texts document = (texts.forM (applyText policy)).on document
      ∧ ∀ last refusal, runBatch policy texts document = ⟨last, some refusal⟩ →
        ∃ done failed rest, texts = done ++ failed :: rest
          ∧ runBatch policy done document = ⟨last, none⟩
          ∧ runText policy failed last = ⟨last, some refusal⟩)
    ∧ ∀ statement after refusal,
      (Statement.apply policy statement).on document = ⟨after, some refusal⟩ →
        after = document := by
  refine ⟨?_, fun hread => ⟨on_applyBatch hread policy document, ?_⟩, ?_⟩
  · rintro before text after refusal rfl hbefore htext
    rw [runBatch, applyBatch, Edit.on_ofExcept_bind, mapM_read_of_unreadable hbefore htext]
  · intro last refusal h
    rw [runBatch, on_applyBatch hread] at h
    obtain ⟨done, failed, rest, between, rfl, hdone, hfailed⟩ := refused_forM h
    -- the refused statement has left what the ones before it made
    obtain rfl := applyText_atomic policy failed between last refusal hfailed
    refine ⟨done, failed, rest, rfl, ?_, hfailed⟩
    rw [runBatch, on_applyBatch fun t ht => hread t (List.mem_append_left _ ht)]
    exact hdone
  · exact fun statement => Statement.apply_atomic policy statement document

/-- Two assignments, and between them a filter of what is no array. -/
def filterBetween : List String := ["map -> a = 1", "filter -> a = 1", "map -> b = 2"]

/-- Three texts, of which only the first has an arrow. -/
def twoUnmarked : List String := ["map -> a = 1", "map a = 1", "filter"]

/--
Of the texts that cannot be read the first is reported, before anything is done. Where all can be
read, the run is left with what was done before the filter.
-/
theorem runBatch_stops_at_filter :
    Readable "map -> a = 1"
    ∧ Statement.read "map a = 1" = .error (.unmarked "map a = 1" Verb.all)
    ∧ runBatch .reject twoUnmarked (.object [])
      = ⟨.object [], some (.unmarked "map a = 1" Verb.all)⟩
    ∧ (∀ t ∈ filterBetween, Readable t)
    ∧ runBatch .reject filterBetween (.object [])
      = (filterBetween.forM (applyText .reject)).on (.object [])
    ∧ (∃ after, (Statement.apply .reject (.filter (.prune []))).on (.object [])
        = ⟨after, some (.notAnArray .object)⟩ ∧ after = .object [])
    ∧ ∃ last refusal, runBatch .reject filterBetween (.object []) = ⟨last, some refusal⟩
      ∧ last.compact = "\x7b\"a\":1\x7d"
      ∧ refusal.message = "'filter' expected array, found object"
      ∧ ∃ done failed rest, filterBetween = done ++ failed :: rest
        ∧ runBatch .reject done (.object []) = ⟨last, none⟩
        ∧ runText .reject failed last = ⟨last, some refusal⟩ := by
  have hfirst : Readable "map -> a = 1" := by decide +kernel
  have hunmarked : Statement.read "map a = 1" = .error (.unmarked "map a = 1" Verb.all) := rfl
  have hread : ∀ t ∈ filterBetween, Readable t := by
    intro t ht
    rcases List.mem_cons.1 ht with rfl | ht
    · exact hfirst
    · rcases List.mem_cons.1 ht with rfl | ht
      · decide +kernel
      · obtain rfl := List.mem_singleton.1 ht
        decide +kernel
  have hfilter : (Statement.apply .reject (.filter (.prune []))).on (.object [])
      = ⟨.object [], some (.notAnArray .object)⟩ := rfl
  obtain ⟨hunreadable, -, -⟩ := runBatch_eq_run_in_turn .reject twoUnmarked (.object [])
  obtain ⟨-, hreadable, hatomic⟩ := runBatch_eq_run_in_turn .reject filterBetween (.object [])
  obtain ⟨hbatch, hstops⟩ := hreadable hread
  refine ⟨hfirst, hunmarked, ?_, hread, hbatch, ⟨_, hfilter, hatomic _ _ _ hfilter⟩,
    ?_⟩
  · refine hunreadable ["map -> a = 1"] "map a = 1" ["filter"] _ rfl (fun t ht => ?_) hunmarked
    obtain rfl := List.mem_singleton.1 ht
    exact hfirst
  · -- what the run has come to is evaluated where it can be compared: in texts
    have hdocument : (runBatch .reject filterBetween (.object [])).document.compact
        = "\x7b\"a\":1\x7d" := by
      decide +kernel
    have hrefusal : (runBatch .reject filterBetween (.object [])).refusal.map Refusal.message
        = some "'filter' expected array, found object" := by
      decide +kernel
    cases hrun : runBatch .reject filterBetween (.object []) with
    | mk last refusal =>
      rw [hrun] at hdocument hrefusal
      obtain ⟨refusal, rfl, hmessage⟩ := Option.map_eq_some_iff.1 hrefusal
      obtain ⟨done, failed, rest, htexts, hdone, hfailed⟩ := hstops last refusal hrun
      exact ⟨last, refusal, rfl, hdocument, hmessage, done, failed, rest, htexts, hdone, hfailed⟩

end Reshape
