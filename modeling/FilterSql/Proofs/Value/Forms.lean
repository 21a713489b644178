import FilterSql.Proofs.Decimal.Reader
import FilterSql.Proofs.Value.Collections

/-!
# Typed and textual forms of values

Besides texts, as they come from a form, most types take a form of their own: a number, a boolean, a
list of elements or the members of a choice. The text of such a value is read like the value itself.
A list or an object is read back from its text and then taken as it is. A number takes another way:
its text is first tried as a whole number of 64 bits and then as a literal of a binary number. Whole
numbers beyond the 64 bits with a sign are converted in both ways, and a number that is not kept
exactly has a point or a power of ten in its text, so it is not taken for a whole number.

That a binary number is the value of its JSON text and is read from it as a literal depends on the
digits of the text, and is taken for granted here.

## Main definitions

* `FilterSql.Value.Typed`: the raw values that a type takes as they are.
* `FilterSql.Value.Printable`: the raw values whose texts hold all of them.

## Main results

* `FilterSql.Value.forms_agree`: a typed value and its text are read alike.
-/

namespace FilterSql

open Text

/-- The raw values whose JSON texts hold all of them. -/
structure Json.Printable (raw : Json) : Prop where
  /-- Objects are sorted, each key once. -/
  canonical : raw.canonical = raw
  /-- Lists and objects are not nested more deeply than they are read. -/
  depth : raw.depth ≤ maxDepth
  /-- Each number that is not kept exactly is the value of its text. -/
  floats : ∀ x, .float x ∈ raw.numbers → (Number.float x).ReadsBack
  /-- Each number that is not kept exactly is read from its text as a literal. -/
  literals : ∀ x, .float x ∈ raw.numbers →
    Decimal.readFloat? (writeNumber (.float x)) = some x

theorem Json.Printable.read_eq {raw : Json} (h : raw.Printable) : read raw.text = .ok raw := by
  refine read_of_canonical h.canonical (fun n hn => ?_) h.depth
  cases n with
  | int n exact => exact Number.readsBack_int n exact
  | float x => exact h.floats x hn

namespace Value

variable {type : ValueType} {raw : Json} {s : String}

/-- The raw values that a type takes as they are, besides texts. -/
inductive Typed : ValueType → Json → Prop
  | numeric (n : Json.Number) : Typed .numeric (.number n)
  | wordCount (n : Json.Number) : Typed .stringLength (.number n)
  | bool (b : Bool) : Typed .bool (.bool b)
  | nullable (b : Bool) : Typed .nullable (.bool b)
  | collection (items : List Json) : Typed .collection (.array items)
  | singleChoice (members : List (String × Json)) : Typed .singleChoice (.object members)

/-! ### Numbers -/

/-- The value of a JSON number. -/
def ofNumber (n : Json.Number) : Value :=
  match n.toInt64? with
  | some i => int i
  | none => float n.toFloat

theorem readNumeric_number (n : Json.Number) : readNumeric (.number n) = .ok (ofNumber n) := by
  rw [readNumeric, ofNumber]
  cases n.toInt64? <;> rfl

theorem exists_mark_writeNumber (x : Float) :
    ∃ c ∈ Json.writeNumber (.float x), Decimal.Style.IsMark c := by
  rw [Json.writeNumber]
  split
  · exact Decimal.Style.exists_mark_write rfl x
  · exact ⟨'n', by decide⟩

/-- A number that is not finite has no text as a number. -/
theorem isFinite_of_literal {x : Float}
    (h : Decimal.readFloat? (Json.writeNumber (.float x)) = some x) : x.isFinite = true := by
  by_contra hx
  rw [Json.writeNumber, if_neg hx] at h
  cases h

/-- A whole number is read from its digits, or converted, like the number itself. -/
theorem readNumeral_integerChars {n : Int} (exact : Json.Exact n) :
    readNumeral (integerChars n) = .ok (ofNumber (.int n exact)) := by
  have hleast : -0x8000000000000000 ≤ n := exact.1
  have hmost : n < 0x10000000000000000 := exact.2
  have hempty : (integerChars n).isEmpty = false := by
    cases n with
    | ofNat n =>
      obtain ⟨c, s, hs, -⟩ := exists_digitsOfNat_eq_cons n
      rw [integerChars, hs]
      rfl
    | negSucc n => rfl
  have hsigned : (Json.Number.int n exact).toInt64? =
      if n < 0x8000000000000000 then some n else none := rfl
  rw [readNumeral, hempty, Decimal.readInt?_integerChars, ofNumber, hsigned]
  by_cases hfits : n < 0x8000000000000000
  · have hrange : Decimal.minInt ≤ n ∧ n ≤ Decimal.maxInt := by
      rw [Decimal.minInt, Decimal.maxInt]
      omega
    rw [if_pos hrange, if_pos hfits]
    rfl
  · have hrange : ¬ (Decimal.minInt ≤ n ∧ n ≤ Decimal.maxInt) := by
      rw [Decimal.minInt, Decimal.maxInt]
      omega
    -- too large for 64 bits with a sign, so the digits are read as a literal
    obtain ⟨k, rfl⟩ := Int.eq_ofNat_of_zero_le (by omega : 0 ≤ n)
    have hfloat : Decimal.readFloat? (integerChars k) = some (Float.ofInt k) :=
      Decimal.readFloat?_digitsOfNat (by omega) (by omega)
    have hfinite := Decimal.isFinite_ofInt (n := k) (by omega) (by omega)
    simp only [if_neg hrange, if_neg hfits, hfloat, hfinite, if_true]
    rfl

/-- A number is read from its text like the number itself. -/
theorem readNumeral_writeNumber (n : Json.Number)
    (h : ∀ x, n = .float x → Decimal.readFloat? (Json.writeNumber n) = some x) :
    readNumeral (Json.writeNumber n) = .ok (ofNumber n) := by
  cases n with
  | int n exact => exact readNumeral_integerChars exact
  | float x =>
    obtain ⟨c, hc, hmark⟩ := exists_mark_writeNumber x
    have hempty : (Json.writeNumber (.float x)).isEmpty = false :=
      List.isEmpty_eq_false_iff.2 (List.ne_nil_of_mem hc)
    have hread := h x rfl
    have hfinite := isFinite_of_literal hread
    simp only [readNumeral, hempty, Decimal.readInt?_eq_none_of_mark hc hmark, hread, hfinite,
      Bool.false_eq_true, if_false, if_true]
    rfl

theorem readNumeric_text (n : Json.Number)
    (h : ∀ x, n = .float x → Decimal.readFloat? (Json.writeNumber n) = some x) :
    readNumeric (.string (Json.number n).text) = readNumeric (.number n) := by
  rw [readNumeric_number, readNumeric, Json.text, String.toList_ofList, Json.write,
    (Json.noBlank_writeNumber n).trimChars, readNumeral_writeNumber n h]
  rfl

/-! ### Lists and objects -/

/-- The text of an object is read like the object. -/
theorem read_singleChoice_of_read {members : List (String × Json)}
    (h : Json.read s = .ok (.object members)) :
    read .singleChoice (.string s) = read .singleChoice (.object members) := by
  simp only [read, readChoice, h]

/-! ### Both forms -/

/-- What is read from a typed value is a value, or a problem with values of the type. -/
theorem Typed.ok_or_invalid (h : Typed type raw) :
    (∃ v, read type raw = .ok v) ∨
      ∃ problem, read type raw = .error (.invalidValue type problem) := by
  cases h with
  | numeric n => exact .inl ⟨_, readNumeric_number n⟩
  | wordCount n => exact .inl ⟨_, readNumeric_number n⟩
  | bool b => exact .inl ⟨_, rfl⟩
  | nullable b => exact .inl ⟨_, rfl⟩
  | collection items =>
    cases hids : readChoiceIds items with
    | ok ids => exact .inl ⟨_, read_collection_array_of_ok hids⟩
    | error problem => exact .inr ⟨_, read_collection_array_of_error hids⟩
  | singleChoice members =>
    cases hchoice : readChoiceMembers members with
    | ok v => exact .inl ⟨v, by rw [read, readChoice, hchoice]; rfl⟩
    | error problem => exact .inr ⟨problem, by rw [read, readChoice, hchoice]; rfl⟩

theorem Typed.read_eq (h : Typed type raw) (hprint : raw.Printable) :
    read type (.string raw.text) = read type raw := by
  have hliteral {n : Json.Number} (hraw : raw = .number n) (x : Float) (hx : n = .float x) :
      Decimal.readFloat? (Json.writeNumber n) = some x := by
    subst hraw hx
    exact hprint.literals x (List.mem_singleton.2 rfl)
  cases h with
  | numeric n => exact readNumeric_text n (hliteral rfl)
  | wordCount n => exact readNumeric_text n (hliteral rfl)
  | bool b => cases b <;> rfl
  | nullable b => cases b <;> rfl
  | collection items => exact read_collection_of_read hprint.read_eq
  | singleChoice members => exact read_singleChoice_of_read hprint.read_eq

/-- A number, a boolean, a list or an object and its JSON text are read alike under the types that
take it: both give the same value, or both have the same problem with values of the type. Each whole
number of 64 bits with a sign is kept exactly in both forms. -/
theorem forms_agree :
    (∀ type raw, Typed type raw → raw.Printable →
      read type (.string raw.text) = read type raw ∧
        ((∃ v, read type raw = .ok v) ∨
          ∃ problem, read type raw = .error (.invalidValue type problem))) ∧
    ∀ n : Int, Decimal.minInt ≤ n → n ≤ Decimal.maxInt →
      ∀ type, type = .numeric ∨ type = .stringLength →
        read type (.number (.ofInt n)) = .ok (.int n) ∧
          read type (.string (integer n)) = .ok (.int n) := by
  refine ⟨fun type raw h hprint => ⟨h.read_eq hprint, h.ok_or_invalid⟩, ?_⟩
  intro n hleast hmost type htype
  rw [Decimal.minInt] at hleast
  rw [Decimal.maxInt] at hmost
  have exact : Json.Exact n := ⟨hleast, by omega⟩
  have hnumber : Json.Number.ofInt n = .int n exact := dif_pos exact
  have hvalue : ofNumber (.int n exact) = .int n := by
    rw [ofNumber, Json.Number.toInt64?.eq_def]
    simp only [if_pos (by omega : n < 0x8000000000000000)]
  have hread : readNumeric (.number (.int n exact)) = .ok (.int n) := by
    rw [readNumeric_number, hvalue]
  have htext : readNumeric (.string (integer n)) = .ok (.int n) :=
    (readNumeric_text (.int n exact) nofun).trans hread
  rw [hnumber]
  rcases htype with rfl | rfl <;> exact ⟨hread, htext⟩

/-- The greatest whole number that is kept exactly, a number that looks whole, a list with a number
in it, an object without a name, and the least whole number. -/
theorem forms_agree_of_extremes :
    let greatest : Json := .number (.ofInt 18446744073709551615)
    let three : Json := .number (.float 3.0)
    let seven : Json := .array [.string "mint", .number (.ofInt 7)]
    let unnamed : Json := .object [("id", .number (.float 3.0))]
    (greatest.Printable ∧ three.Printable ∧ seven.Printable ∧ unnamed.Printable) ∧
    read .numeric (.string "18446744073709551615") = read .numeric greatest ∧
    read .stringLength (.string "3.0") = .ok (.float 3.0) ∧
    read .collection (.string "[\"mint\",7]") = .error (.invalidValue .collection .notChoice) ∧
    read .singleChoice (.string "\x7b\"id\":3.0\x7d") =
      .error (.invalidValue .singleChoice .missingKeys) ∧
    read .numeric (.string "-9223372036854775808") = .ok (.int (-9223372036854775808)) := by
  intro greatest three seven unnamed
  have honly {x : Float} (hx : Json.Number.float x ∈ [Json.Number.float 3.0]) : x = 3.0 :=
    Json.Number.float.inj (List.mem_singleton.1 hx)
  have hback : (Json.Number.float 3.0).ReadsBack := rfl
  have hliteral : Decimal.readFloat? (Json.writeNumber (.float 3.0)) = some 3.0 := by decide +kernel
  have hgreatest : greatest.Printable := ⟨rfl, by decide, nofun, nofun⟩
  have hthree : three.Printable :=
    ⟨rfl, by decide, fun x hx => honly hx ▸ hback, fun x hx => honly hx ▸ hliteral⟩
  have hseven : seven.Printable := ⟨rfl, by decide, nofun, nofun⟩
  have hunnamed : unnamed.Printable :=
    ⟨rfl, by decide, fun x hx => honly hx ▸ hback, fun x hx => honly hx ▸ hliteral⟩
  obtain ⟨hforms, hints⟩ := forms_agree
  have htexts : greatest.text = "18446744073709551615" ∧ three.text = "3.0" ∧
      seven.text = "[\"mint\",7]" ∧ unnamed.text = "\x7b\"id\":3.0\x7d" ∧
      integer (-9223372036854775808) = "-9223372036854775808" := by decide +kernel +zetaReduce
  obtain ⟨hgreatestText, hthreeText, hsevenText, hunnamedText, hleastText⟩ := htexts
  rw [← hgreatestText, ← hthreeText, ← hsevenText, ← hunnamedText, ← hleastText]
  exact ⟨⟨hgreatest, hthree, hseven, hunnamed⟩, (hforms _ _ (.numeric _) hgreatest).1,
    (hforms _ _ (.wordCount _) hthree).1, (hforms _ _ (.collection _) hseven).1,
    (hforms _ _ (.singleChoice _) hunnamed).1,
    (hints (-9223372036854775808) (by decide) (by decide) .numeric (.inl rfl)).2⟩

end Value

end FilterSql
