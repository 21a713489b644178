import FilterSql.Proofs.Decimal.Reader
import FilterSql.Summary

/-!
# Numbers in groups

A decimal text is an optional minus sign, a row of digits, and possibly a point with more digits.
Thousands separators put the digits before the point in groups: first one to three digits, then
groups of three with a comma before each. The sign and what follows the point stay as they are, and
without its commas the text is the one that it was.

Whole numbers and finite binary numbers are written as decimal texts, so this is how they stand in
summaries.

## Main definitions

* `FilterSql.Decimal.Numeral`: a decimal text in its parts.
* `FilterSql.Decimal.Groups`: digits in groups.

## Main results

* `FilterSql.Decimal.exists_groups`: a row of digits is written in groups.
* `FilterSql.Decimal.groupThousands_chars`: only the digits before the point are changed.
* `FilterSql.Decimal.exists_numeral_integerChars`, `FilterSql.Decimal.exists_numeral_write`: numbers
  are written as decimal texts.
* `FilterSql.Decimal.number_in_groups`: all of this for the numbers of summaries.
-/

namespace FilterSql.Decimal

open Text

/-! ### Decimal texts -/

/-- An optional minus sign, at least one digit, and possibly a point with digits behind it. -/
structure Numeral where
  /-- Whether there is a minus sign. -/
  negative : Bool
  /-- The digits before the point. -/
  whole : List Char
  /-- The digits behind the point, if there is a point. -/
  fraction : Option (List Char)
  whole_ne_nil : whole ≠ []
  isDigit_whole : ∀ c ∈ whole, isDigit c = true
  isDigit_fraction : ∀ digits, fraction = some digits → ∀ c ∈ digits, isDigit c = true

namespace Numeral

/-- The minus sign, if there is one. -/
def sign (n : Numeral) : List Char :=
  if n.negative then ['-'] else []

/-- The point and the digits behind it, if there is a point. -/
def tail (n : Numeral) : List Char :=
  n.fraction.elim [] ('.' :: ·)

/-- The characters of a decimal text. -/
def chars (n : Numeral) : List Char :=
  n.sign ++ n.whole ++ n.tail

/-- The decimal text. -/
def text (n : Numeral) : String :=
  String.ofList n.chars

end Numeral

/-- A row of digits has no other characters. -/
theorem notMem_of_digits {c : Char} {s : List Char} (hc : isDigit c = false)
    (hs : ∀ d ∈ s, isDigit d = true) : c ∉ s := by
  intro hmem
  rw [hs c hmem] at hc
  cases hc

namespace Numeral

variable (n : Numeral)

theorem notMem_whole {c : Char} (hc : isDigit c = false) : c ∉ n.whole :=
  notMem_of_digits hc n.isDigit_whole

theorem comma_notMem_sign : ',' ∉ n.sign := by
  rw [sign]
  split <;> simp

theorem comma_notMem_tail : ',' ∉ n.tail := by
  rw [tail]
  cases hfraction : n.fraction with
  | none => simp
  | some digits =>
    have hdigits : ',' ∉ digits := notMem_of_digits rfl (n.isDigit_fraction digits hfraction)
    simpa using hdigits

end Numeral

/-! ### Groups -/

/-- Digits in groups: a first group of one to three digits, and groups of three. -/
structure Groups where
  /-- The first group. -/
  first : List Char
  /-- The groups after the first one. -/
  rest : List (List Char)
  first_ne_nil : first ≠ []
  length_first_le : first.length ≤ 3
  length_of_mem_rest : ∀ group ∈ rest, group.length = 3

namespace Groups

/-- The digits of all groups. -/
def digits (g : Groups) : List Char :=
  g.first ++ g.rest.flatten

/-- The groups with a comma before each but the first. -/
def chars (g : Groups) : List Char :=
  g.first ++ g.rest.flatMap (',' :: ·)

/-- A single digit. -/
def single (c : Char) : Groups where
  first := [c]
  rest := []
  first_ne_nil := by simp
  length_first_le := by simp
  length_of_mem_rest := by simp

/-- A digit before the others, in the first group or, where that has three digits already, in a
group of its own. -/
def cons (c : Char) (g : Groups) : Groups :=
  if h : g.first.length = 3 then
    { first := [c]
      rest := g.first :: g.rest
      first_ne_nil := by simp
      length_first_le := by simp
      length_of_mem_rest := List.forall_mem_cons.2 ⟨h, g.length_of_mem_rest⟩ }
  else
    { first := c :: g.first
      rest := g.rest
      first_ne_nil := by simp
      length_first_le := Nat.lt_of_le_of_ne g.length_first_le h
      length_of_mem_rest := g.length_of_mem_rest }

@[simp] theorem digits_single (c : Char) : (single c).digits = [c] := rfl

@[simp] theorem chars_single (c : Char) : (single c).chars = [c] := rfl

@[simp] theorem digits_cons (c : Char) (g : Groups) : (g.cons c).digits = c :: g.digits := by
  rw [cons]
  split <;> rfl

theorem length_digits (g : Groups) : g.digits.length = g.first.length + 3 * g.rest.length := by
  have hrest : g.rest.flatten.length = g.rest.length * 3 := by
    rw [List.length_flatten, List.map_congr_left g.length_of_mem_rest]
    simp
  rw [digits, List.length_append, hrest, Nat.mul_comm]

/-- The first group is full if the digits can be parted in groups of three. -/
theorem length_first_eq_iff (g : Groups) : g.first.length = 3 ↔ g.digits.length % 3 = 0 := by
  have hpos : 0 < g.first.length := List.length_pos_of_ne_nil g.first_ne_nil
  have hle := g.length_first_le
  have hlength := g.length_digits
  omega

/-- A comma is written behind a digit where the groups after it are full. -/
theorem chars_cons (c : Char) (g : Groups) :
    (g.cons c).chars = if g.digits.length % 3 = 0 then c :: ',' :: g.chars else c :: g.chars := by
  rw [cons]
  by_cases hfull : g.first.length = 3
  · rw [dif_pos hfull, if_pos (g.length_first_eq_iff.1 hfull)]
    simp [chars]
  · rw [dif_neg hfull, if_neg (mt g.length_first_eq_iff.2 hfull)]
    rfl

end Groups

/-! ### Grouping -/

/-- A row of digits is written in groups. -/
theorem exists_groups {s : List Char} (h : s ≠ []) :
    ∃ g : Groups, g.digits = s ∧ groupDigits s = g.chars := by
  induction s with
  | nil => exact absurd rfl h
  | cons c s ih =>
    by_cases hs : s = []
    · subst hs
      exact ⟨.single c, rfl, rfl⟩
    · -- groups are counted from the right, so the digits after `c` are in groups already
      obtain ⟨g, rfl, hg⟩ := ih hs
      refine ⟨g.cons c, g.digits_cons c, ?_⟩
      rw [groupDigits, g.chars_cons, hg]
      simp only [hs, ne_eq, not_false_eq_true, and_true]

/-- Without its commas a row of digits in groups is what it was. -/
theorem filter_groupDigits {s : List Char} (h : ',' ∉ s) :
    (groupDigits s).filter (· ≠ ',') = s := by
  induction s with
  | nil => rfl
  | cons c s ih =>
    simp only [List.mem_cons, not_or] at h
    obtain ⟨hc, hs⟩ := h
    have hne : c ≠ ',' := Ne.symm hc
    rw [groupDigits]
    split <;> simpa [hne] using ih hs

theorem head?_groupDigits (s : List Char) : (groupDigits s).head? = s.head? := by
  cases s with
  | nil => rfl
  | cons c s =>
    rw [groupDigits]
    split <;> rfl

theorem getLast?_groupDigits (s : List Char) : (groupDigits s).getLast? = s.getLast? := by
  induction s with
  | nil => rfl
  | cons c s ih =>
    by_cases hs : s = []
    · subst hs
      rfl
    · have hlast : s.getLast? = some (s.getLast hs) := List.getLast?_eq_some_getLast hs
      rw [groupDigits]
      split <;> simp only [List.getLast?_cons, ih, hlast, Option.getD_some]

theorem groupThousands_of_head? {s : List Char} (h : s.head? ≠ some '-') :
    groupThousands s = groupUnsigned s := by
  rw [groupThousands.eq_def]
  split
  · simp at h
  · rfl

namespace Numeral

variable (n : Numeral)

theorem groupUnsigned_whole_append_tail :
    groupUnsigned (n.whole ++ n.tail) = groupDigits n.whole ++ n.tail := by
  have hwhole : ∀ c ∈ n.whole, decide (c ≠ '.') = true :=
    fun c hc => decide_eq_true fun hpoint => n.notMem_whole rfl (hpoint ▸ hc)
  have htail : n.tail.takeWhile (· ≠ '.') = [] ∧ n.tail.dropWhile (· ≠ '.') = n.tail := by
    rw [tail]
    cases n.fraction <;> simp
  rw [groupUnsigned, List.takeWhile_append_of_pos hwhole, List.dropWhile_append_of_pos hwhole,
    htail.1, htail.2, List.append_nil]

/-- Only the digits before the point are changed. -/
theorem groupThousands_chars :
    groupThousands n.chars = n.sign ++ groupDigits n.whole ++ n.tail := by
  rw [chars, sign, List.append_assoc, List.append_assoc, ← n.groupUnsigned_whole_append_tail]
  cases n.negative with
  | true => rfl
  | false =>
    have hhead : (n.whole ++ n.tail).head? ≠ some '-' := by
      rw [List.head?_append_of_ne_nil _ n.whole_ne_nil]
      exact fun hminus => n.notMem_whole rfl (List.mem_of_head? hminus)
    exact groupThousands_of_head? hhead

/-- Without its commas a decimal text in groups is what it was. -/
theorem filter_groupThousands : (groupThousands n.chars).filter (· ≠ ',') = n.chars := by
  have hself {s : List Char} (h : ',' ∉ s) : s.filter (· ≠ ',') = s :=
    List.filter_eq_self.2 fun c hc => decide_eq_true fun hcomma => h (hcomma ▸ hc)
  rw [n.groupThousands_chars, List.filter_append, List.filter_append, hself n.comma_notMem_sign,
    hself n.comma_notMem_tail, filter_groupDigits (n.notMem_whole rfl), chars]

end Numeral

/-! ### Written numbers -/

/-- A whole number is written as a decimal text without a point. -/
theorem exists_numeral_integerChars (k : Int) : ∃ n : Numeral, n.chars = integerChars k := by
  have hdigits (m : Nat) : ∀ c ∈ digitsOfNat m, isDigit c = true :=
    fun _ hc => isDigit_of_mem_digitsOfNat hc
  cases k with
  | ofNat m =>
    exact ⟨⟨false, digitsOfNat m, none, digitsOfNat_ne_nil m, hdigits m, nofun⟩,
      List.append_nil _⟩
  | negSucc m =>
    exact ⟨⟨true, digitsOfNat (m + 1), none, digitsOfNat_ne_nil _, hdigits _, nofun⟩,
      congrArg ('-' :: ·) (List.append_nil _)⟩

/-- Digits with a plain point are a decimal text, which has a point only where it is needed. -/
theorem exists_numeral_positional (negative : Bool) {digits : List Char} (hne : digits ≠ [])
    (hdigits : ∀ c ∈ digits, isDigit c = true) (exponent : Int) :
    ∃ n : Numeral, n.chars =
      (if negative then ['-'] else []) ++ Style.plain.positional digits exponent := by
  have hzeros (k : Nat) : ∀ c ∈ List.replicate k '0', isDigit c = true := by
    intro c hc
    rw [List.eq_of_mem_replicate hc]
    rfl
  cases exponent with
  | ofNat zeros =>
    refine ⟨⟨negative, digits ++ List.replicate zeros '0', none, by simp [hne],
      List.forall_mem_append.2 ⟨hdigits, hzeros zeros⟩, nofun⟩, ?_⟩
    simp [Numeral.chars, Numeral.sign, Numeral.tail, Style.positional, Style.plain]
  | negSucc places =>
    -- zeros in front leave at least one digit before the point
    let padded := padLeft '0' (places + 1 + 1) digits
    have hpadded : ∀ c ∈ padded, isDigit c = true :=
      List.forall_mem_append.2 ⟨hzeros _, hdigits⟩
    have hlength : places + 1 < padded.length := by
      simp only [padded, padLeft, List.length_append, List.length_replicate]
      omega
    have htake : padded.take (padded.length - (places + 1)) ≠ [] := by
      rw [← List.length_pos_iff_ne_nil, List.length_take]
      omega
    refine ⟨⟨negative, padded.take (padded.length - (places + 1)),
      some (padded.drop (padded.length - (places + 1))), htake,
      fun c hc => hpadded c (List.mem_of_mem_take hc), ?_⟩, ?_⟩
    · rintro _ ⟨⟩ c hc
      exact hpadded c (List.mem_of_mem_drop hc)
    · simp [Numeral.chars, Numeral.sign, Numeral.tail, Style.positional, padded]

section Finite

open Float.Model UnpackedFloat

theorem toNat_unpackExponent (b : BitVec Format.binary64.numBits) :
    (unpackExponent b).toNat = b.toNat / 0x10000000000000 % 0x800 := by
  delta unpackExponent
  rw [BitVec.toNat_cast, BitVec.extractLsb_toNat, Nat.shiftRight_eq_div_pow]
  rfl

/-- The greatest exponent is that of infinity and of what is no number. -/
theorem isFinite_eq_false {x : Float}
    (h : x.toBits.toNat / 0x10000000000000 % 0x800 = 2047) : x.isFinite = false := by
  have hones : @unpackExponent .binary64 x.toBits.toBitVec = -1#11 :=
    BitVec.eq_of_toNat_eq ((toNat_unpackExponent x.toBits.toBitVec).trans h)
  show (UnpackedFloat.unpack .binary64 x.toBits.toBitVec).isFinite = false
  delta UnpackedFloat.unpack
  dsimp only
  rw [if_pos hones]
  split <;> rfl

/-- A finite number is a magnitude with a sign. -/
theorem exists_ofFloat_eq_finite {x : Float} (h : x.isFinite = true) :
    ∃ negative v, Binary.ofFloat x = .finite negative v := by
  have hexponent : x.toBits.toNat / 0x10000000000000 % 0x800 ≠ 2047 := by
    intro hgreatest
    rw [isFinite_eq_false hgreatest] at h
    cases h
  rw [Binary.ofFloat]
  simp only [hexponent, if_false]
  split
  · exact ⟨_, _, rfl⟩
  · exact ⟨_, _, rfl⟩

end Finite

/-- A finite number is written as a decimal text. -/
theorem exists_numeral_write {x : Float} (h : x.isFinite = true) :
    ∃ n : Numeral, n.text = Style.plain.write x := by
  obtain ⟨negative, v, hv⟩ := exists_ofFloat_eq_finite h
  have hplain : Style.plain.writeMagnitude v = Style.plain.positional
      (digitsOfNat (shortest .up v).digits) (shortest .up v).exponent :=
    if_pos (.inr ⟨rfl, rfl⟩)
  obtain ⟨n, hn⟩ := exists_numeral_positional negative
    (digitsOfNat_ne_nil _) (fun _ hc => isDigit_of_mem_digitsOfNat hc) (shortest .up v).exponent
  refine ⟨n, ?_⟩
  rw [Numeral.text, hn, ← hplain, Style.write, hv]

/-! ### Numbers of summaries -/

/-- In a decimal text the digits before the point are put in groups, a first group of one to three
digits and groups of three with a comma before each; the sign and what follows the point stay as
they are. Without its commas the text is the one that it was, and none of them stands in the sign,
behind the point, or at an end of the groups. Whole numbers and finite binary numbers are written as
decimal texts. -/
theorem number_in_groups :
    (∀ n : Numeral, ∃ g : Groups, g.digits = n.whole ∧
      (Summary.number n.text).toList = n.sign ++ g.chars ++ n.tail ∧
      (Summary.number n.text).toList.filter (· ≠ ',') = n.text.toList ∧
      (',' ∉ n.sign ∧ ',' ∉ n.tail) ∧
      g.chars.head? ≠ some ',' ∧ g.chars.getLast? ≠ some ',') ∧
    (∀ k : Int, ∃ n : Numeral, n.text = integer k) ∧
    ∀ x : Float, x.isFinite = true → ∃ n : Numeral, n.text = Style.plain.write x := by
  refine ⟨fun n => ?groups, fun k => ?whole, fun x hx => exists_numeral_write hx⟩
  case groups =>
    obtain ⟨g, hdigits, hchars⟩ := exists_groups n.whole_ne_nil
    have hnumber : (Summary.number n.text).toList = groupThousands n.chars := by
      rw [Summary.number, Numeral.text, String.toList_ofList, String.toList_ofList]
    have hwhole : ',' ∉ n.whole := n.notMem_whole rfl
    refine ⟨g, hdigits, ?_, ?_, ⟨n.comma_notMem_sign, n.comma_notMem_tail⟩, ?_, ?_⟩
    · rw [hnumber, n.groupThousands_chars, hchars]
    · rw [hnumber, n.filter_groupThousands, Numeral.text, String.toList_ofList]
    · rw [← hchars, head?_groupDigits]
      exact fun hhead => hwhole (List.mem_of_head? hhead)
    · rw [← hchars, getLast?_groupDigits]
      exact fun hlast => hwhole (List.mem_of_getLast? hlast)
  case whole =>
    obtain ⟨n, hn⟩ := exists_numeral_integerChars k
    exact ⟨n, congrArg String.ofList hn⟩

/-- A negative number with a fraction. -/
theorem number_in_groups_of_negative_fraction :
    let x : Float := -1234567.25
    x.isFinite = true ∧ ∃ (n : Numeral) (g : Groups), n.text = Style.plain.write x ∧
      g.digits = n.whole ∧ (Summary.number n.text).toList = n.sign ++ g.chars ++ n.tail ∧
      Summary.number (Style.plain.write x) = "-1,234,567.25" := by
  intro x
  have hx : x.isFinite = true := by decide +kernel
  obtain ⟨n, hn⟩ := number_in_groups.2.2 x hx
  obtain ⟨g, hdigits, hnumber, -⟩ := number_in_groups.1 n
  exact ⟨hx, n, g, hn, hdigits, hnumber, by decide +kernel⟩

end FilterSql.Decimal
