import Reshape.Json.WellFormed
import Reshape.Pipeline
import Reshape.Proofs.JsonTokens

/-!
# Written documents are read back

A document of integers is read back from each of its two forms. The proof follows the document.
Inside brackets each entry is read together with the spaces around it, so the forms need not be told
apart.

* `ReadsEntry` says that a value is read from its text wherever this may stand: before nothing, a
  space, a comma or a closing bracket, none of which is ever read as a part of the value.
* `enclosed_ok` is about the entries of arrays and objects alike, `readsEntry_writeAt` about all
  documents.
-/

namespace Reshape

namespace Json

open Reshape.Parser Reshape.Grammar

/-! ## Progress -/

theorem advances_scalarParser : scalarParser.Advances := by
  have hsign (w : String) (hw : 0 < w.toList.length) (value : Json) :
      (do sign w; return value : Parser Json).Advances :=
    (advances_sign hw).bind fun _ => leavesSuffix_pure _
  exact (hsign "null" (by decide) _).orElse <| (hsign "true" (by decide) _).orElse <|
    (hsign "false" (by decide) _).orElse <| (advances_stringParser.map _).orElse <|
    advances_numberParser.map _

/-- Entries in brackets read something, if only the brackets. -/
theorem advances_enclosed {α : Type} {entry : Parser α} (hentry : entry.Advances)
    (opening closing : Char) : (enclosed opening closing entry).Advances := by
  have hclose (as : List α) : (do let _ ← char closing; return as : Parser (List α)).LeavesSuffix :=
    ((advances_char _).bind fun _ => leavesSuffix_pure _).leavesSuffix
  exact (advances_char _).bind fun _ =>
    (leavesSuffix_spaces.bind fun _ => hclose []).orElse <|
      (hentry.spaced.sepBy1 (advances_char _)).leavesSuffix.bind hclose

theorem advances_fieldParser {value : Parser Json} (hvalue : value.Advances) :
    (fieldParser value).Advances :=
  advances_stringParser.bind fun _ => (advances_char _).spaced.leavesSuffix.bind fun _ =>
    hvalue.leavesSuffix.bind fun _ => leavesSuffix_pure _

theorem advances_valueParser (depth : Nat) : (valueParser depth).Advances := by
  induction depth with
  | zero => exact advances_scalarParser
  | succ depth ih =>
    exact ((advances_enclosed ih _ _).map _).orElse <|
      ((advances_enclosed (advances_fieldParser ih) _ _).map _).orElse advances_scalarParser

/-! ## Entries -/

/-- An entry begins with something else than a space or a closing bracket. -/
abbrev OpensEntry (c : Char) : Prop := ¬isSpace c ∧ c ∉ [']', '\x7d']

/-- After an entry comes nothing, a space, a comma or a closing bracket. -/
def EndsEntry (rest : List Char) : Prop := ∀ c ∈ rest.head?, isSpace c ∨ c ∈ [',', ']', '\x7d']

/-- Where the text stands as an entry, the parser reads it as the value. -/
structure ReadsEntry {α : Type} (p : Parser α) (text : List Char) (a : α) : Prop where
  opens : StartsWith OpensEntry text
  ok : ∀ rest, EndsEntry rest → p (text ++ rest) = .ok (a, rest)

theorem endsEntry_cons {c : Char} (h : isSpace c ∨ c ∈ [',', ']', '\x7d']) (rest : List Char) :
    EndsEntry (c :: rest) := by
  intro c' hc'
  obtain rfl := Option.some.inj hc'
  exact h

/-- A gap may come between an entry and what ends it. -/
theorem endsEntry_gap {gap rest : List Char} (hgap : IsGap gap) (hrest : EndsEntry rest) :
    EndsEntry (gap ++ rest) := by
  cases gap with
  | nil => exact hrest
  | cons c gap => exact endsEntry_cons (.inl (hgap c List.mem_cons_self)) _

theorem EndsEntry.endsNumber {rest : List Char} (h : EndsEntry rest) : EndsNumber rest := by
  have hapart : ∀ c ∈ rest.head?, ¬c.isDigit ∧ c ∉ ['.', 'e', 'E'] := by
    intro c hc
    -- by the few characters that may come there
    rcases h c hc with hspace | hmem
    · have hspaces : ∀ c ∈ [' ', '\t', '\r', '\n'], ¬c.isDigit ∧ c ∉ ['.', 'e', 'E'] := by decide
      exact hspaces c (by simpa [isSpace_iff] using hspace)
    · have hsigns : ∀ c ∈ [',', ']', '\x7d'], ¬c.isDigit ∧ c ∉ ['.', 'e', 'E'] := by decide
      exact hsigns c hmem
  exact {
    no_digit := fun c hc => (hapart c hc).1
    no_point := fun hpoint => (hapart '.' hpoint).2 (by decide)
    no_exponent := fun c hc hmem => (hapart c hc).2 (List.mem_cons_of_mem _ hmem) }

theorem begins_closing {closing : Char} (hclosing : closing ∈ [']', '\x7d']) (rest : List Char) :
    Begins (closing :: rest) := by
  have hclosings : ∀ c ∈ [']', '\x7d'], ¬isSpace c := by decide
  exact startsWith_cons (hclosings closing hclosing) rest

theorem endsEntry_closing {closing : Char} (hclosing : closing ∈ [']', '\x7d'])
    (rest : List Char) : EndsEntry (closing :: rest) :=
  endsEntry_cons (.inr (List.mem_cons_of_mem _ hclosing)) rest

/-- What separates entries is a gap, on one line or on several. -/
theorem isGap_lineBreak (style : Style) (level : Nat) : IsGap (style.lineBreak level) := by
  cases style with
  | compact => exact isGap_nil
  | indented =>
    intro c hc
    rcases List.mem_cons.1 hc with rfl | hc
    · decide
    · rw [List.eq_of_mem_replicate hc]
      decide

section

variable {α : Type} {entry : Parser α} {write : α → List Char} {gap after : List Char}

/-- An entry is read with the gaps on both sides of it. -/
theorem ReadsEntry.after_gap {a : α} {text rest : List Char} (h : ReadsEntry entry text a)
    (hgap : IsGap gap) (hrest : EndsEntry rest) :
    spaced entry (gap ++ (text ++ rest)) = .ok (a, skipSpaces rest) := by
  have hbegins : Begins (text ++ rest) := (h.opens.append rest).mono fun _ hc => hc.1
  refine spaced_ok ?_
  rw [skipSpaces_gap hgap hbegins]
  exact h.ok rest hrest

/-- The entries after the first one, in front of another text. -/
def moreEntries (gap : List Char) (texts : List (List Char)) (after : List Char) : List Char :=
  texts.foldr (fun text more => ',' :: (gap ++ (text ++ more))) after

theorem moreEntries_cons (gap text : List Char) (texts : List (List Char)) (after : List Char) :
    moreEntries gap (text :: texts) after
      = ',' :: (gap ++ (text ++ moreEntries gap texts after)) := rfl

theorem flatMap_append_eq_moreEntries (gap : List Char) (texts : List (List Char))
    (after : List Char) :
    texts.flatMap (fun text => ',' :: gap ++ text) ++ after = moreEntries gap texts after := by
  induction texts with
  | nil => rfl
  | cons text texts ih =>
    rw [moreEntries_cons, ← ih]
    simp

/-- A comma ends an entry, and so does what comes after all of them. -/
theorem endsEntry_more (hafter : EndsEntry after) (gap : List Char) (texts : List (List Char)) :
    EndsEntry (moreEntries gap texts after) := by
  cases texts with
  | nil => exact hafter
  | cons text texts => exact endsEntry_cons (.inr List.mem_cons_self) _

/-- The entries after the first one are read as long as there is a comma. -/
theorem moreEntries_ok (hentry : entry.Advances) (hgap : IsGap gap) (hafter : EndsEntry after)
    (hcomma : ',' ∉ (skipSpaces after).head?) {values : List α}
    (h : ∀ a ∈ values, ReadsEntry entry (write a) a) :
    many (char ',' *> spaced entry) (skipSpaces (moreEntries gap (values.map write) after))
      = .ok (values, skipSpaces after) := by
  have hconsumes : (char ',' *> spaced entry).Consumes :=
    ((advances_char ',').seqRight hentry.spaced.leavesSuffix).consumes
  induction values with
  | nil => exact many_done hconsumes (char_fails hcomma).seqRight
  | cons a values ih =>
    -- an entry is read with the comma before it
    have hfirst : (char ',' *> spaced entry)
        (',' :: (gap ++ (write a ++ moreEntries gap (values.map write) after)))
        = .ok (a, skipSpaces (moreEntries gap (values.map write) after)) :=
      (seqRight_ok (char_ok ',' _)).trans
        ((h a List.mem_cons_self).after_gap hgap (endsEntry_more hafter gap _))
    rw [List.map_cons, moreEntries_cons, skipSpaces_of_begins (startsWith_cons (by decide) _)]
    exact many_next hconsumes hfirst (ih fun b hb => h b (List.mem_cons_of_mem a hb))

/-- The entries, of which there is one at least, are read. -/
theorem entries_ok (hentry : entry.Advances) (hgap : IsGap gap) (hafter : EndsEntry after)
    (hcomma : ',' ∉ (skipSpaces after).head?) {a : α} {values : List α}
    (h : ∀ b ∈ a :: values, ReadsEntry entry (write b) b) :
    sepBy1 (spaced entry) (char ',')
      (gap ++ (write a ++ moreEntries gap (values.map write) after))
      = .ok (a :: values, skipSpaces after) := by
  have hfirst := (h a List.mem_cons_self).after_gap hgap
    (endsEntry_more hafter gap (values.map write))
  have hmore := moreEntries_ok hentry hgap hafter hcomma
    fun b hb => h b (List.mem_cons_of_mem a hb)
  rw [sepBy1, bind_ok hfirst, bind_ok hmore]
  rfl

/-- Entries between brackets are read back, whatever comes after them. -/
theorem enclosed_ok (hentry : entry.Advances) (style : Style) (level : Nat)
    (opening closing : Char) (hclosing : closing ∈ [']', '\x7d']) {values : List α}
    (h : ∀ a ∈ values, ReadsEntry entry (write a) a) (rest : List Char) :
    enclosed opening closing entry
      (style.enclose level opening closing (values.map write) ++ rest) = .ok (values, rest) := by
  cases values with
  | nil =>
    have hnone : (do spaces; let _ ← char closing; return [] : Parser (List α)) (closing :: rest)
        = .ok ([], rest) := by
      rw [bind_ok (spaces_ok _), skipSpaces_of_begins (begins_closing hclosing rest),
        bind_ok (char_ok closing rest)]
      rfl
    exact (bind_ok (char_ok opening _)).trans (orElse_ok hnone)
  | cons a values =>
    have hgap : IsGap (style.lineBreak (level + 1)) := isGap_lineBreak style (level + 1)
    have hafter : EndsEntry (style.lineBreak level ++ closing :: rest) :=
      endsEntry_gap (isGap_lineBreak style level) (endsEntry_closing hclosing rest)
    have hskip : skipSpaces (style.lineBreak level ++ closing :: rest) = closing :: rest :=
      skipSpaces_gap (isGap_lineBreak style level) (begins_closing hclosing rest)
    have hcomma : ',' ∉ (skipSpaces (style.lineBreak level ++ closing :: rest)).head? := by
      rw [hskip]
      intro hmem
      obtain rfl := Option.some.inj hmem
      exact absurd hclosing (by decide)
    have htext : style.enclose level opening closing ((a :: values).map write) ++ rest
        = opening :: (style.lineBreak (level + 1) ++ (write a
          ++ moreEntries (style.lineBreak (level + 1)) (values.map write)
            (style.lineBreak level ++ closing :: rest))) := by
      rw [← flatMap_append_eq_moreEntries]
      simp [Style.enclose]
    have hentries := entries_ok hentry hgap hafter hcomma h
    rw [hskip] at hentries
    -- the first entry does not begin with the closing bracket, so the brackets are not empty
    have hnotEmpty (tail : List Char) :
        (do spaces; let _ ← char closing; return [] : Parser (List α)).Fails
          (style.lineBreak (level + 1) ++ (write a ++ tail)) := by
      have hopens := (h a List.mem_cons_self).opens.append tail
      refine bind_fails (spaces_ok _) ?_
      rw [skipSpaces_gap hgap (hopens.mono fun _ hc => hc.1)]
      exact (char_fails fun hmem => (hopens.head closing hmem).2 hclosing).bind
    rw [htext, enclosed, bind_ok (char_ok opening _), orElse_next (hnotEmpty _),
      bind_ok hentries, bind_ok (char_ok closing rest)]
    rfl

theorem enclosed_fails {opening closing : Char} {text : List Char} (h : opening ∉ text.head?) :
    (enclosed opening closing entry).Fails text :=
  (char_fails h).bind

end

/-! ## Scalars -/

/-- A scalar begins like an entry, and not with an opening bracket. -/
abbrev OpensScalar (c : Char) : Prop := OpensEntry c ∧ c ∉ ['[', '\x7b']

/-- A scalar is read at every depth. -/
theorem ReadsEntry.of_scalar {text : List Char} {value : Json}
    (hopens : StartsWith OpensScalar text)
    (hok : ∀ rest, EndsEntry rest → scalarParser (text ++ rest) = .ok (value, rest)) (depth : Nat) :
    ReadsEntry (valueParser depth) text value := by
  refine ⟨hopens.mono fun _ hc => hc.1, fun rest hrest => ?_⟩
  cases depth with
  | zero => exact hok rest hrest
  | succ depth =>
    have hbracket := (hopens.append rest).head
    have harray : (enclosed '[' ']' (valueParser depth)).Fails (text ++ rest) :=
      enclosed_fails fun hmem => (hbracket '[' hmem).2 (by decide)
    have hobject : (enclosed '\x7b' '\x7d' (fieldParser (valueParser depth))).Fails
        (text ++ rest) :=
      enclosed_fails fun hmem => (hbracket '\x7b' hmem).2 (by decide)
    rw [valueParser, orElse_next (harray.map _), orElse_next (hobject.map _)]
    exact hok rest hrest

/-- A word is not read where another character stands than its first. -/
theorem word_alternative_fails {w : String} {c : Char} {text : List Char}
    (hw : w.toList.head? = some c) (h : c ∉ text.head?) (value : Json) :
    (do sign w; return value : Parser Json).Fails text :=
  (sign_fails_of_head hw h).bind

/-- Strings and numbers begin otherwise than the three words. -/
theorem scalarParser_of_head {text : List Char} (h : ∀ c ∈ text.head?, c ∉ ['n', 't', 'f']) :
    scalarParser text
      = ((Json.string <$> stringParser) <|> (Json.number <$> numberParser)) text := by
  rw [scalarParser, orElse_next (word_alternative_fails rfl (fun hc => h 'n' hc (by decide)) _),
    orElse_next (word_alternative_fails rfl (fun hc => h 't' hc (by decide)) _),
    orElse_next (word_alternative_fails rfl (fun hc => h 'f' hc (by decide)) _)]

theorem readsEntry_null (depth : Nat) : ReadsEntry (valueParser depth) ['n', 'u', 'l', 'l'] .null :=
  .of_scalar ⟨'n', rfl, by decide⟩
    (fun rest _ => orElse_ok (bind_ok (sign_ok "null" rest))) depth

theorem readsEntry_true (depth : Nat) :
    ReadsEntry (valueParser depth) ['t', 'r', 'u', 'e'] (.bool true) := by
  refine .of_scalar ⟨'t', rfl, by decide⟩ (fun rest _ => ?_) depth
  rw [scalarParser, orElse_next (word_alternative_fails (c := 'n') rfl (by simp) _)]
  exact orElse_ok (bind_ok (sign_ok "true" rest))

theorem readsEntry_false (depth : Nat) :
    ReadsEntry (valueParser depth) ['f', 'a', 'l', 's', 'e'] (.bool false) := by
  refine .of_scalar ⟨'f', rfl, by decide⟩ (fun rest _ => ?_) depth
  rw [scalarParser, orElse_next (word_alternative_fails (c := 'n') rfl (by simp) _),
    orElse_next (word_alternative_fails (c := 't') rfl (by simp) _)]
  exact orElse_ok (bind_ok (sign_ok "false" rest))

theorem readsEntry_string (s : String) (depth : Nat) :
    ReadsEntry (valueParser depth) (writeString s) (.string s) := by
  refine .of_scalar ⟨'"', rfl, by decide⟩ (fun rest _ => ?_) depth
  have hhead : ∀ c ∈ (writeString s ++ rest).head?, c ∉ ['n', 't', 'f'] := by
    intro c hc
    obtain rfl := Option.some.inj hc
    decide
  rw [scalarParser_of_head hhead]
  exact orElse_ok (map_ok _ (stringParser_ok s rest))

/-- A number begins like a scalar, and otherwise than a string or one of the words. -/
theorem opensScalar_of_digit {c : Char} (h : c.isDigit ∨ c = '-') :
    OpensScalar c ∧ c ∉ ['n', 't', 'f', '"'] := by
  have hspace : ¬isSpace c := by
    rcases h with hdigit | rfl
    · exact not_isSpace_of_isDigit hdigit
    · decide
  have hothers : ∀ c ∈ ['[', ']', '\x7b', '\x7d', 'n', 't', 'f', '"'],
      ¬(c.isDigit ∨ c = '-') := by
    decide
  have hno : c ∉ ['[', ']', '\x7b', '\x7d', 'n', 't', 'f', '"'] := fun hmem => hothers c hmem h
  simp_all [OpensScalar, OpensEntry]

theorem readsEntry_int {n : Int} (hn : Number.exactRange n) (depth : Nat) :
    ReadsEntry (valueParser depth) (Number.int n).write (.number (.int n)) := by
  have hstart := startsWith_write n
  have hopens : StartsWith OpensScalar (Number.int n).write :=
    hstart.mono fun c hc => (opensScalar_of_digit hc).1
  refine .of_scalar hopens (fun rest hrest => ?_) depth
  have hhead : ∀ c ∈ ((Number.int n).write ++ rest).head?, c ∉ ['n', 't', 'f', '"'] :=
    fun c hc => (opensScalar_of_digit ((hstart.append rest).head c hc)).2
  have hstring : stringParser.Fails ((Number.int n).write ++ rest) :=
    stringParser_fails fun hmem => hhead '"' hmem (by decide)
  -- neither a word nor a string begins like a number
  rw [scalarParser_of_head fun c hc hmem => hhead c hc (List.mem_append_left ['"'] hmem),
    orElse_next (hstring.map _)]
  exact map_ok _ (numberParser_ok hn hrest.endsNumber)

/-! ## Documents -/

theorem writeItems_eq_map (style : Style) (level : Nat) (items : List Json) :
    writeItems style level items = items.map (writeAt style level) := by
  induction items with
  | nil => rfl
  | cons item items ih => rw [writeItems, ih, List.map_cons]

/-- The text of a field. -/
def writeField (style : Style) (level : Nat) (field : String × Json) : List Char :=
  writeString field.1 ++ style.colon ++ writeAt style level field.2

theorem writeFields_eq_map (style : Style) (level : Nat) (fields : Fields) :
    writeFields style level fields = fields.map (writeField style level) := by
  induction fields with
  | nil => rfl
  | cons field fields ih => rw [writeFields, ih, List.map_cons]; rfl

/-- After the colon there is a gap, if anything. -/
theorem exists_gap_of_colon (style : Style) : ∃ gap, IsGap gap ∧ style.colon = ':' :: gap := by
  cases style with
  | compact => exact ⟨[], isGap_nil, rfl⟩
  | indented => exact ⟨[' '], isGap_space, rfl⟩

/-- A field is read back if its value is. -/
theorem ReadsEntry.field {value : Parser Json} {style : Style} {level : Nat}
    {field : String × Json} (h : ReadsEntry value (writeAt style level field.2) field.2) :
    ReadsEntry (fieldParser value) (writeField style level field) field := by
  refine ⟨⟨'"', rfl, by decide⟩, fun rest hrest => ?_⟩
  have hbegins : Begins (writeAt style level field.2 ++ rest) :=
    (h.opens.append rest).mono fun _ hc => hc.1
  obtain ⟨gap, hgap, hcolon⟩ := exists_gap_of_colon style
  have hread : spaced (char ':') (':' :: gap ++ (writeAt style level field.2 ++ rest))
      = .ok (':', writeAt style level field.2 ++ rest) := by
    have hskip : skipSpaces (':' :: gap ++ (writeAt style level field.2 ++ rest))
        = ':' :: (gap ++ (writeAt style level field.2 ++ rest)) :=
      skipSpaces_of_begins ⟨':', rfl, by decide⟩
    rw [spaced_ok (hskip ▸ char_ok ':' _), skipSpaces_gap hgap hbegins]
  rw [writeField, hcolon, List.append_assoc, List.append_assoc, fieldParser,
    bind_ok (stringParser_ok field.1 _), bind_ok hread, bind_ok (h.ok rest hrest)]
  rfl

/-- Sorted fields, put in one by one, stay as they are. -/
theorem ofEntries_eq {fields : Fields} (h : fields.Sorted) : ofEntries fields = .object fields :=
  congrArg Json.object (@Fields.Sorted.foldl_insert [] fields h)

theorem startsWith_enclose {description : Char → Prop} {opening : Char} (h : description opening)
    (style : Style) (level : Nat) (closing : Char) (entries : List (List Char)) :
    StartsWith description (style.enclose level opening closing entries) := by
  cases entries with
  | nil => exact startsWith_cons h _
  | cons entry entries => exact startsWith_cons h _

section

variable {style : Style} {depth level : Nat}

/-- An array is read back if its items are. -/
theorem ReadsEntry.array {items : List Json}
    (h : ∀ item ∈ items,
      ReadsEntry (valueParser depth) (writeAt style (level + 1) item) item) :
    ReadsEntry (valueParser (depth + 1)) (writeAt style level (.array items)) (.array items) := by
  rw [writeAt, writeItems_eq_map]
  refine ⟨startsWith_enclose (by decide) style level ']' _, fun rest _ => ?_⟩
  have hitems := enclosed_ok (advances_valueParser depth) style level '[' ']'
    (by decide) h rest
  rw [valueParser]
  exact orElse_ok (map_ok Json.array hitems)

/-- An object is read back if the values of its fields are. -/
theorem ReadsEntry.object {fields : Fields} (hsorted : fields.Sorted)
    (h : ∀ field ∈ fields,
      ReadsEntry (valueParser depth) (writeAt style (level + 1) field.2) field.2) :
    ReadsEntry (valueParser (depth + 1)) (writeAt style level (.object fields))
      (.object fields) := by
  rw [writeAt, writeFields_eq_map]
  refine ⟨startsWith_enclose (by decide) style level '\x7d' _, fun rest _ => ?_⟩
  have hfields := enclosed_ok (advances_fieldParser (advances_valueParser depth)) style level
    '\x7b' '\x7d' (by decide) (fun field hmem => (h field hmem).field) rest
  have hopening : StartsWith (fun c => c ≠ '[') (style.enclose level '\x7b' '\x7d'
      (fields.map (writeField style (level + 1))) ++ rest) :=
    (startsWith_enclose (by decide) style level '\x7d' _).append rest
  have hbracket : '[' ∉ (style.enclose level '\x7b' '\x7d'
      (fields.map (writeField style (level + 1))) ++ rest).head? := fun hmem =>
    hopening.head '[' hmem rfl
  -- an array is tried first, and fails at the bracket
  rw [valueParser, orElse_next ((enclosed_fails hbracket).map _), ← ofEntries_eq hsorted]
  exact orElse_ok (map_ok ofEntries hfields)

end

/-- A document of integers is read back at every place and in both forms. -/
theorem readsEntry_writeAt (style : Style) (value : Json) :
    ∀ depth level, value.WellFormed → value.IsIntegral → value.depth ≤ depth →
      ReadsEntry (valueParser depth) (writeAt style level value) value := by
  induction value with
  | null => exact fun depth _ _ _ _ => readsEntry_null depth
  | bool b =>
    cases b with
    | true => exact fun depth _ _ _ _ => readsEntry_true depth
    | false => exact fun depth _ _ _ _ => readsEntry_false depth
  | string s => exact fun depth _ _ _ _ => readsEntry_string s depth
  | number n =>
    intro depth level hwell hintegral _
    cases n with
    | int n => exact readsEntry_int hwell depth
    | double x => exact hintegral.elim
  | array items ih =>
    intro depth level hwell hintegral hdepth
    cases depth with
    | zero => exact absurd hdepth (Nat.not_succ_le_zero _)
    | succ depth =>
      exact .array fun item hmem =>
        ih item hmem depth (level + 1) ((allWellFormed_iff items).1 hwell item hmem)
          ((allIntegral_iff items).1 hintegral item hmem)
          (Nat.le_trans (depth_le_depthOfAll hmem) (Nat.le_of_succ_le_succ hdepth))
  | object fields ih =>
    intro depth level hwell hintegral hdepth
    cases depth with
    | zero => exact absurd hdepth (Nat.not_succ_le_zero _)
    | succ depth =>
      exact .object hwell.1 fun field hmem =>
        ih field hmem depth (level + 1) ((fieldsWellFormed_iff fields).1 hwell.2 field hmem)
          ((fieldsIntegral_iff fields).1 hintegral field hmem)
          (Nat.le_trans (depth_le_depthOfFields hmem) (Nat.le_of_succ_le_succ hdepth))

section

variable {document : Json} (hwell : document.WellFormed) (hintegral : document.IsIntegral)
  (hdepth : document.depth ≤ depthLimit)
include hwell hintegral hdepth

/-- A gap after the text of a document does not matter. -/
theorem read?_write (style : Style) {gap : List Char} (hgap : IsGap gap) :
    read? (document.write style ++ String.ofList gap) = some document := by
  have hentry : ReadsEntry (valueParser depthLimit) (writeAt style 0 document) document :=
    readsEntry_writeAt style document depthLimit 0 hwell hintegral hdepth
  -- behind the gap the text ends
  have hend : EndsEntry gap := fun c hc => .inl (hgap c (List.mem_of_mem_head? hc))
  have hread : spaced (valueParser depthLimit) (writeAt style 0 document ++ gap)
      = .ok (document, []) := by
    rw [← skipSpaces_of_gap hgap]
    exact hentry.after_gap isGap_nil hend
  have htext : (document.write style ++ String.ofList gap).toList
      = writeAt style 0 document ++ gap := by
    rw [write, String.toList_append, String.toList_ofList, String.toList_ofList]
  rw [read?, readWithin?, runAll, htext, hread]
  rfl

end

end Json

open Json

namespace Pipeline

/--
**What a pipeline writes is read back.** A document of integers, as deep as documents may be, comes
back from its text on one line, from its text over several lines, from the rendered pipeline, and
from the written result in both forms.
-/
theorem reads_what_it_writes (p : Pipeline) (hwell : p.document.WellFormed)
    (hintegral : p.document.IsIntegral) (hdepth : p.document.depth ≤ depthLimit) :
    ofText p.toText = .ok { document := p.document }
    ∧ ofText p.toIndentedText = .ok { document := p.document }
    ∧ ofText (toString p) = .ok { document := p.document }
    ∧ ∀ pretty, ofText (p.output pretty) = .ok { document := p.document } := by
  have hread (style : Style) {gap : List Char} (hgap : IsGap gap) :
      ofText (p.document.write style ++ String.ofList gap) = .ok { document := p.document } := by
    rw [ofText, read?_write hwell hintegral hdepth style hgap]
  have htext (style : Style) :
      ofText (p.document.write style) = .ok { document := p.document } := by
    simpa using hread style isGap_nil
  -- the result ends with a line end, which is a gap
  have hline : IsGap ['\n'] := by simp [IsGap, Parser.isSpace]
  refine ⟨htext .compact, htext .indented, htext .compact, fun pretty => ?_⟩
  cases pretty with
  | true => exact hread .indented hline
  | false => exact hread .compact hline

/-- Both containers with and without entries, every way to write a character, and the limits. -/
def everyForm : Json :=
  .object [
    ("", .array []),
    ("\"\\\n\x01é", .object []),
    ("limits", .array [.number (.int (-9223372036854775808)), .number (.int 0),
      .number (.int 18446744073709551615)]),
    ("nested", .array [.array [.object [("😀/", .null)]], .bool true, .bool false,
      .string "\x7f\t\r\x08\x0c\x1f"])]

/-- All four texts of one document, of which the first is shown. -/
theorem reads_what_it_writes_everyForm :
    ({ document := everyForm } : Pipeline).toText
      = "\x7b\"\":[],\"\\\"\\\\\\n\\u0001é\":\x7b\x7d," ++
        "\"limits\":[-9223372036854775808,0,18446744073709551615]," ++
        "\"nested\":[[\x7b\"😀/\":null\x7d],true,false,\"\x7f\\t\\r\\b\\f\\u001f\"]\x7d"
    ∧ ofText ({ document := everyForm } : Pipeline).toText = .ok { document := everyForm }
    ∧ ofText ({ document := everyForm } : Pipeline).toIndentedText = .ok { document := everyForm }
    ∧ ofText (toString ({ document := everyForm } : Pipeline)) = .ok { document := everyForm }
    ∧ ∀ pretty, ofText (({ document := everyForm } : Pipeline).output pretty)
        = .ok { document := everyForm } := by
  have hwell : everyForm.WellFormed := by decide +kernel
  have hintegral : everyForm.IsIntegral := by decide +kernel
  have hdepth : everyForm.depth ≤ depthLimit := by decide +kernel
  exact ⟨by decide +kernel, reads_what_it_writes { document := everyForm } hwell hintegral hdepth⟩

end Pipeline

end Reshape
