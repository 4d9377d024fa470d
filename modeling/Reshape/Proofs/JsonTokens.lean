import Reshape.Json.Reader
import Reshape.Json.Writer
import Reshape.Proofs.Tokens

/-!
# Numbers and strings of documents are read back

The scalars of a document: an integer is written as its digits, of which no zero stands in front of
others, and a string character by character, the escapes included. Each is read back from its text,
whatever comes after a string, and after an integer whatever is no part of it.
-/

namespace Reshape.Json

open Reshape.Parser Reshape.Grammar

variable {rest text : List Char}

/-! ## Progress -/

theorem advances_wholeDigits : wholeDigits.Advances :=
  ((advances_char _).bind fun _ => leavesSuffix_pure _).orElse advances_digits

theorem advances_numberParser : numberParser.Advances :=
  (advances_numeral advances_wholeDigits).converting _

theorem advances_hexDigit : hexDigit.Advances := (advances_satisfy _ _).converting _

theorem advances_fourHexDigits : fourHexDigits.Advances :=
  advances_hexDigit.bind fun _ => advances_hexDigit.leavesSuffix.bind fun _ =>
    advances_hexDigit.leavesSuffix.bind fun _ => advances_hexDigit.leavesSuffix.bind fun _ =>
      leavesSuffix_pure _

/-- A code of one unit or two is read, if it is that of a character. -/
theorem advances_unicodeEscape : unicodeEscape.Advances := by
  refine advances_fourHexDigits.bind fun unit => ?_
  have hlow : (char '\\' *> char 'u' *> fourHexDigits).LeavesSuffix :=
    (((advances_char _).seqRight (advances_char _).leavesSuffix).seqRight
      advances_fourHexDigits.leavesSuffix).leavesSuffix
  split
  · refine hlow.bind fun low => ?_
    split
    · exact leavesSuffix_pure _
    · exact leavesSuffix_fail _
  · split
    · exact leavesSuffix_fail _
    · exact leavesSuffix_pure _

theorem advances_stringChar : stringChar.Advances :=
  (advances_satisfy _ _).orElse <| (advances_char _).seqRight <| Advances.leavesSuffix <|
    ((advances_satisfy _ _).converting _).orElse <|
      (advances_char _).seqRight advances_unicodeEscape.leavesSuffix

theorem advances_stringParser : stringParser.Advances :=
  (advances_char _).bind fun _ => advances_stringChar.leavesSuffix.many.bind fun _ =>
    (advances_char _).leavesSuffix.bind fun _ => leavesSuffix_pure _

/-! ## Numbers -/

/-- No zero stands in front of other digits. -/
theorem toDigits_ne_zero {m : Nat} (hm : m ≠ 0) :
    StartsWith (fun c => c ≠ '0') (Nat.toDigits 10 m) := by
  induction m using Nat.strongRecOn with
  | ind m ih =>
    -- one digit is left, or the digits of a tenth of the number come first
    by_cases hlt : m < 10
    · have hdigit : ∀ d < 10, d ≠ 0 → Nat.digitChar d ≠ '0' := by decide
      rw [Nat.toDigits_of_lt_base hlt]
      exact ⟨_, rfl, hdigit m hlt hm⟩
    · rw [Nat.toDigits_of_base_le (by decide) (by omega)]
      exact (ih (m / 10) (by omega) (by omega)).append _

/-- The digits of a number are read back, of which the first one is a zero for zero only. -/
theorem wholeDigits_ok {m : Nat} (hrest : ∀ c ∈ rest.head?, ¬c.isDigit) :
    wholeDigits (Nat.toDigits 10 m ++ rest) = .ok (Nat.toDigits 10 m, rest) := by
  -- a single zero is an alternative of its own
  by_cases hm : m = 0
  · subst hm
    exact orElse_ok (bind_ok (char_ok '0' rest))
  · have hhead : '0' ∉ (Nat.toDigits 10 m ++ rest).head? := fun hzero =>
      ((toDigits_ne_zero hm).append rest).head _ hzero rfl
    rw [wholeDigits, orElse_next (char_fails hhead).bind]
    exact digits_ok isDigit_toDigits Nat.toDigits_ne_nil hrest

/-- An integer of the exact range is read back from its text. -/
theorem numberParser_ok {n : Int} (hn : Number.exactRange n) (hrest : EndsNumber rest) :
    numberParser ((Number.int n).write ++ rest) = .ok (.int n, rest) := by
  obtain ⟨negative, m, hwrite, hm, hzero⟩ := write_int n
  have hwhole : wholeDigits (Nat.toDigits 10 m ++ rest) = .ok (Nat.toDigits 10 m, rest) :=
    wholeDigits_ok hrest.no_digit
  have hnumber : numberOf? ⟨negative, Nat.toDigits 10 m, none, none⟩ = some (.int n) := by
    simpa [numberOf?, Numeral.isInteger, Numeral.integer, hm, hn] using hzero
  rw [numberParser, converting, hwrite, List.append_assoc,
    numeral_ok isDigit_toDigits Nat.toDigits_ne_nil hwhole hrest]
  simp only [hnumber]

/-! ## Strings -/

theorem hexDigit_ok {n : Nat} (hn : n < 16) (rest : List Char) :
    hexDigit (Nat.digitChar n :: rest) = .ok (n, rest) := by
  have hvalue : ∀ d < 16, hexValue? (Nat.digitChar d) = some d := by decide
  rw [hexDigit, converting, satisfy_ok rfl]
  simp only [hvalue n hn]

/-- The code of a control character is read back. -/
theorem unicodeEscape_ok {c : Char} (hc : c < ' ') (rest : List Char) :
    unicodeEscape
      ('0' :: '0' :: Nat.digitChar (c.toNat / 16) :: Nat.digitChar (c.toNat % 16) :: rest)
      = .ok (c, rest) := by
  have hsmall : c.toNat < 32 := hc
  have hcode : fourHexDigits
      ('0' :: '0' :: Nat.digitChar (c.toNat / 16) :: Nat.digitChar (c.toNat % 16) :: rest)
      = .ok (c.toNat, rest) := by
    have hzero (text : List Char) : hexDigit ('0' :: text) = .ok (0, text) :=
      hexDigit_ok (n := 0) (by decide) text
    rw [fourHexDigits, bind_ok (hzero _), bind_ok (hzero _), bind_ok (hexDigit_ok (by omega) _),
      bind_ok (hexDigit_ok (by omega) _)]
    simp only [run_pure, Except.ok.injEq, Prod.mk.injEq, and_true]
    omega
  -- the code of a control character is no half of a pair
  rw [unicodeEscape, bind_ok hcode, if_neg (by simp; omega), if_neg (by simp; omega),
    Char.ofNat_toNat]
  rfl

/-- What stands after a backslash is read by one of two alternatives. -/
theorem stringChar_escape (text : List Char) :
    stringChar ('\\' :: text)
      = (converting (satisfy .charClass fun _ => true) shortEscape?
        <|> (char 'u' *> unicodeEscape)) text := by
  have hplain : (satisfy .charClass fun c => ' ' ≤ c && c != '"' && c != '\\').Fails
      ('\\' :: text) := satisfy_fails (by simp)
  rw [stringChar, orElse_next hplain, seqRight_ok (char_ok '\\' text)]

theorem stringChar_shortEscape {e c : Char} (h : shortEscape? e = some c) (rest : List Char) :
    stringChar ('\\' :: e :: rest) = .ok (c, rest) := by
  rw [stringChar_escape]
  refine orElse_ok ?_
  rw [converting, satisfy_ok rfl]
  simp only [h]

/-- A character is written after a backslash, by its code, or as it is. -/
theorem escapeChar_cases (c : Char) :
    (∃ e, escapeChar c = ['\\', e] ∧ shortEscape? e = some c)
    ∨ (c < ' ' ∧ escapeChar c =
        ['\\', 'u', '0', '0', Nat.digitChar (c.toNat / 16), Nat.digitChar (c.toNat % 16)])
    ∨ (' ' ≤ c ∧ c ≠ '"' ∧ c ≠ '\\' ∧ escapeChar c = [c]) := by
  -- seven characters have a letter of their own
  by_cases hshort : c ∈ ['"', '\\', '\x08', '\x0c', '\n', '\r', '\t']
  · left
    simp only [List.mem_cons, List.not_mem_nil, or_false] at hshort
    rcases hshort with rfl | rfl | rfl | rfl | rfl | rfl | rfl <;> exact ⟨_, rfl, rfl⟩
  · simp only [List.mem_cons, List.not_mem_nil, or_false, not_or] at hshort
    obtain ⟨hquote, hbackslash, hb, hf, hn, hr, ht⟩ := hshort
    right
    simp only [escapeChar, hquote, hbackslash, hb, hf, hn, hr, ht, if_false]
    split
    · next hlt => exact .inl ⟨hlt, rfl⟩
    · next hge => exact .inr ⟨Char.not_lt.1 hge, hquote, hbackslash, rfl⟩

/-- Each character is read back from what it is written as. -/
theorem stringChar_ok (c : Char) (rest : List Char) :
    stringChar (escapeChar c ++ rest) = .ok (c, rest) := by
  rcases escapeChar_cases c with ⟨e, hwrite, he⟩ | ⟨hlt, hwrite⟩ | ⟨hge, hquote, hbackslash, hwrite⟩
  · rw [hwrite]
    exact stringChar_shortEscape he rest
  · -- no letter stands for the code, so the code is read
    have hno : (converting (satisfy .charClass fun _ => true) shortEscape?).Fails
        ('u' :: '0' :: '0' :: Nat.digitChar (c.toNat / 16) :: Nat.digitChar (c.toNat % 16) ::
          rest) :=
      ⟨_, rfl⟩
    rw [hwrite]
    change stringChar ('\\' :: 'u' :: '0' :: '0' :: _) = _
    rw [stringChar_escape]
    exact (orElse_next hno).trans ((seqRight_ok (char_ok 'u' _)).trans (unicodeEscape_ok hlt rest))
  · rw [hwrite]
    exact orElse_ok (satisfy_ok (by simp [hge, hquote, hbackslash]) rest)

/-- The closing quote is no character of a string. -/
theorem stringChar_fails (rest : List Char) : stringChar.Fails ('"' :: rest) :=
  (satisfy_fails (by simp)).orElse (char_fails (by simp)).seqRight

/-- The characters of a string are read up to the closing quote. -/
theorem many_stringChar_ok (cs rest : List Char) :
    many stringChar (cs.flatMap escapeChar ++ '"' :: rest) = .ok (cs, '"' :: rest) := by
  induction cs with
  | nil => exact many_done advances_stringChar.consumes (stringChar_fails rest)
  | cons c cs ih =>
    rw [List.flatMap_cons, List.append_assoc]
    exact many_next advances_stringChar.consumes (stringChar_ok c _) ih

/-- Every string is read back from its text. -/
theorem stringParser_ok (s : String) (rest : List Char) :
    stringParser (writeString s ++ rest) = .ok (s, rest) := by
  have htext : writeString s ++ rest = '"' :: (s.toList.flatMap escapeChar ++ '"' :: rest) := by
    simp [writeString]
  rw [htext, stringParser, bind_ok (char_ok '"' _), bind_ok (many_stringChar_ok s.toList rest),
    bind_ok (char_ok '"' rest), String.ofList_toList]
  rfl

theorem stringParser_fails (h : '"' ∉ text.head?) : stringParser.Fails text := (char_fails h).bind

end Reshape.Json
