import FilterSql.Json.Printer
import FilterSql.Json.Reader

/-!
# Quoted texts read back

A text is read back from its quoted form. Each character is read back on its own: as it stands, from
its letter after a backslash, or from the four digits of a control character.

## Main results

* `FilterSql.Json.readStringChars_writeChar`: one character.
* `FilterSql.Json.readString_writeString`: a text, in front of other text.
-/

namespace FilterSql.Json

open Text

/-- The four digits of a control character stand for it. -/
theorem natOfHex?_control : ∀ n < 0x20,
    (padLeft '0' 4 (hexDigits n)).length = 4 ∧
      natOfHex? (padLeft '0' 4 (hexDigits n)) = some n := by
  decide

/-- A control character is read back from its four digits. -/
theorem readStringChars_control {c : Char} (hc : c.toNat < 0x20) (rest : List Char) :
    readStringChars (['\\', 'u'] ++ padLeft '0' 4 (hexDigits c.toNat) ++ rest) =
      consChar c (readStringChars rest) := by
  obtain ⟨hlength, hvalue⟩ := natOfHex?_control c.toNat hc
  match hdigits : padLeft '0' 4 (hexDigits c.toNat), hlength with
  | [a, b, d, e], _ =>
    rw [hdigits] at hvalue
    have hunit : codeUnit? a b d e = some c.toNat := hvalue
    have hlow : isLowSurrogate c.toNat = false := by
      simp only [isLowSurrogate, Bool.and_eq_false_iff, decide_eq_false_iff_not]
      omega
    have hhigh : isHighSurrogate c.toNat = false := by
      simp only [isHighSurrogate, Bool.and_eq_false_iff, decide_eq_false_iff_not]
      omega
    simp [readStringChars, hunit, hlow, hhigh]

/-- A character is written by a letter after a backslash, by four digits, or as it stands. -/
theorem writeChar_cases (c : Char) :
    (∃ e, writeChar c = ['\\', e] ∧ e ≠ 'u' ∧ shortEscape? e = some c) ∨
      (c.toNat < 0x20 ∧ writeChar c = ['\\', 'u'] ++ padLeft '0' 4 (hexDigits c.toNat)) ∨
      (c ≠ '"' ∧ c ≠ '\\' ∧ ¬ c.toNat < 0x20 ∧ writeChar c = [c]) := by
  by_cases hshort : c ∈ ['"', '\\', '\x08', '\t', '\n', '\x0c', '\r']
  · simp only [List.mem_cons, List.not_mem_nil, or_false] at hshort
    rcases hshort with rfl | rfl | rfl | rfl | rfl | rfl | rfl
    all_goals exact .inl ⟨_, rfl, by decide, rfl⟩
  · simp only [List.mem_cons, List.not_mem_nil, or_false, not_or] at hshort
    obtain ⟨hquote, hbackslash, hletters⟩ := hshort
    by_cases hcontrol : c.toNat < 0x20
    · exact .inr (.inl ⟨hcontrol, by simp [writeChar, hquote, hbackslash, hletters, hcontrol]⟩)
    · exact .inr (.inr ⟨hquote, hbackslash, hcontrol,
        by simp [writeChar, hquote, hbackslash, hletters, hcontrol]⟩)

/-- A character is read back from the way in which it is written inside a text. -/
theorem readStringChars_writeChar (c : Char) (rest : List Char) :
    readStringChars (writeChar c ++ rest) = consChar c (readStringChars rest) := by
  obtain ⟨e, hwrite, hu, hescape⟩ | ⟨hcontrol, hwrite⟩ | ⟨hquote, hbackslash, hplain, hwrite⟩ :=
    writeChar_cases c
  · simp [hwrite, readStringChars, hescape]
  · rw [hwrite]
    exact readStringChars_control hcontrol rest
  · simp [hwrite, readStringChars, hbackslash, hplain]

/-- A text is read back from its characters as written, up to the closing quote. -/
theorem readStringChars_flatMap (s rest : List Char) :
    readStringChars (s.flatMap writeChar ++ '"' :: rest) = .ok (s, rest) := by
  induction s with
  | nil => simp [readStringChars]
  | cons c s ih =>
    rw [List.flatMap_cons, List.append_assoc, readStringChars_writeChar, ih]
    rfl

/-- A text is read back from its quoted form, in front of other text. -/
theorem readString_writeString (s : String) (rest : List Char) :
    ∃ quoted, writeString s ++ rest = '"' :: quoted ∧ readString quoted = .ok (s, rest) := by
  refine ⟨s.toList.flatMap writeChar ++ '"' :: rest, by simp [writeString], ?_⟩
  rw [readString, readStringChars_flatMap]
  simp [Except.map]

end FilterSql.Json
