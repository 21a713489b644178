import FilterSql.Decimal.Reader
import FilterSql.Proofs.Decimal.Written

/-!
# Numbers read from texts

A whole number is read from its digits if it is in the range of 64 bits, and it is not read from a
text that has a character which no whole number has. Digits that are read as a literal of a binary
number give what the whole number is converted to.

Below `2 ^ 64` the binary number of a whole number is finite: rounding makes the mantissa one digit
longer at most, so its exponent stays far below the greatest one of the format.

## Main results

* `FilterSql.Decimal.readInt?_integerChars`: whole numbers in the range of 64 bits are read.
* `FilterSql.Decimal.readInt?_eq_none_of_mark`: other texts are not read as whole numbers.
* `FilterSql.Decimal.readFloat?_digitsOfNat`: a literal of digits is read as the whole number.
* `FilterSql.Decimal.isFinite_ofInt`: large whole numbers below `2 ^ 64` are finite.
-/

namespace FilterSql.Decimal

open Text

variable {c : Char} {s : List Char} {n : Nat}

/-- A row of digits does not start with another character. -/
theorem digits_ne {d : Char} {rest : List Char} (hc : isDigit c = true) (hd : isDigit d = false) :
    c :: s ≠ d :: rest := by
  rintro ⟨⟩
  rw [hc] at hd
  cases hd

/-! ### Whole numbers -/

/-- A whole number is read from its digits if it is in the range of 64 bits. -/
theorem readInt?_integerChars (n : Int) :
    readInt? (integerChars n) = if minInt ≤ n ∧ n ≤ maxInt then some n else none := by
  have hrow (n : Nat) : ((digitsOfNat n).isEmpty || !(digitsOfNat n).all isDigit) = false := by
    have hall : (digitsOfNat n).all isDigit = true :=
      List.all_eq_true.2 fun _ hc => isDigit_of_mem_digitsOfNat hc
    obtain ⟨c, s, hs, -⟩ := exists_digitsOfNat_eq_cons n
    rw [hall, hs]
    rfl
  cases n with
  | ofNat n =>
    obtain ⟨c, s, hs, hc, -⟩ := exists_digitsOfNat_eq_cons n
    have hrow := hrow n
    have hnumber := natOfDigits_digitsOfNat n
    rw [hs] at hrow hnumber
    rw [integerChars, hs, readInt?, hrow, hnumber]
    · rfl
    · exact fun _ => digits_ne hc rfl
    · exact fun _ => digits_ne hc rfl
  | negSucc n =>
    have hneg : Int.negSucc n = -((n + 1 : Nat) : Int) := rfl
    rw [integerChars, readInt?, hrow, natOfDigits_digitsOfNat, hneg]
    simp only [Bool.false_eq_true, if_false, if_true]

/-- A text with a character that no whole number has is not read as one. -/
theorem readInt?_eq_none_of_mark (hc : c ∈ s) (h : Style.IsMark c) : readInt? s = none := by
  have hother {row : List Char} (hrow : c ∈ row) :
      (row.isEmpty || !row.all isDigit) = true := by
    have hall : row.all isDigit = false := List.all_eq_false.2 ⟨c, hrow, by simp [h.1]⟩
    rw [hall, Bool.not_false, Bool.or_true]
  cases s with
  | nil => cases hc
  | cons d rest =>
    by_cases hminus : d = '-'
    · subst hminus
      rw [readInt?, hother ((List.mem_cons.1 hc).resolve_left h.2.2), if_pos rfl]
    by_cases hplus : d = '+'
    · subst hplus
      rw [readInt?, hother ((List.mem_cons.1 hc).resolve_left h.2.1), if_pos rfl]
    rw [readInt?, hother hc, if_pos rfl]
    · exact fun _ heq => hminus (List.cons.inj heq).1
    · exact fun _ heq => hplus (List.cons.inj heq).1

/-! ### Literals of digits -/

/-- A literal of digits alone is read as the nearest binary number. -/
theorem readUnsigned?_digits (h : ∀ d ∈ c :: s, isDigit d = true) :
    readUnsigned? (c :: s) = some (ofScientific (natOfDigits (c :: s)) 0) := by
  have hc : isDigit c = true := h c List.mem_cons_self
  have hlower : c.toLower = c := by
    refine dif_neg fun hval => ?_
    have hcapital : 65 ≤ c.toNat := hval.1
    have hdigit := (isDigit_iff.1 hc).2
    omega
  -- the words for infinity and for no number start with a letter
  have hword {d : Char} {rest : List Char} (hd : isDigit d = false) :
      (c :: s).map Char.toLower ≠ d :: rest := by
    rw [List.map_cons, hlower]
    exact digits_ne hc hd
  have hinf : (c :: s).map Char.toLower ≠ "inf".toList := hword rfl
  have hinfinity : (c :: s).map Char.toLower ≠ "infinity".toList := hword rfl
  have hnan : (c :: s).map Char.toLower ≠ "nan".toList := hword rfl
  have hwhole : (c :: s).takeWhile isDigit = c :: s := List.takeWhile_eq_self_iff.2 h
  have hrest : (c :: s).dropWhile isDigit = [] := List.dropWhile_eq_nil_iff.2 h
  simp only [readUnsigned?, hinf, hinfinity, hnan, hwhole, hrest, decide_false, Bool.or_false,
    Bool.false_eq_true, if_false, List.isEmpty_cons, Bool.false_and, readExponent?,
    List.append_nil]
  rfl

theorem ofScientific_zero (hpos : 0 < n) (hn : n < 2 ^ 64) :
    ofScientific n 0 = Float.ofScientific n false 0 := by
  have hlength : (digitsOfNat n).length ≤ 20 :=
    (Nat.length_toDigits_le_iff (by decide) (by decide)).2 (by omega)
  have hleast :
      (decide (n = 0) || decide (Int.ofNat (digitsOfNat n).length + 0 < -340)) = false := by
    simp only [Bool.or_eq_false_iff, decide_eq_false_iff_not, Int.ofNat_eq_natCast]
    omega
  have hmost : ¬ 320 < Int.ofNat (digitsOfNat n).length + 0 := by
    simp only [Int.ofNat_eq_natCast]
    omega
  rw [ofScientific.eq_def]
  simp only [hleast, hmost, Bool.false_eq_true, if_false]

/-- A literal of digits is read as what the whole number is converted to. -/
theorem readFloat?_digitsOfNat (hpos : 0 < n) (hn : n < 2 ^ 64) :
    readFloat? (digitsOfNat n) = some (Float.ofInt n) := by
  have hconverted : Float.ofInt n = Float.ofScientific n false 0 := rfl
  obtain ⟨c, s, hs, hc, -⟩ := exists_digitsOfNat_eq_cons n
  have hdigits : ∀ d ∈ c :: s, isDigit d = true := fun d hd =>
    isDigit_of_mem_digitsOfNat (hs ▸ hd)
  have hread := readUnsigned?_digits hdigits
  rw [← hs, natOfDigits_digitsOfNat, ofScientific_zero hpos hn, hs] at hread
  rw [hs, readFloat?, hread, hconverted]
  · exact fun _ => digits_ne hc rfl
  · exact fun _ => digits_ne hc rfl

/-! ### Finite numbers -/

section Finite

open Float.Model UnpackedFloat

variable {m k : Nat} {e : Int}

theorem isFinite_unpack {b : BitVec Format.binary64.numBits} (h : unpackExponent b ≠ -1#_) :
    (UnpackedFloat.unpack .binary64 b).isFinite = true := by
  delta UnpackedFloat.unpack
  dsimp only
  rw [if_neg h]
  by_cases hexponent : unpackExponent b = 0#_
  · rw [if_pos hexponent]
    by_cases hmantissa : unpackMantissa b = 0#_
    · rw [dif_pos hmantissa]
      rfl
    · rw [dif_neg hmantissa]
      rfl
  · rw [if_neg hexponent]
    rfl

/-- A number is packed as a finite one unless its exponent is greater than that of the format. -/
theorem isFinite_pack {sign : Sign} {hm : 0 < m} (h : e ≤ 971) :
    (Float.Model.pack (.finite sign m e hm)).isFinite = true := by
  have hbias : Format.binary64.exponentBias = 1023 := rfl
  have hbounded :
      ¬ 2 ^ 11 ≤ (e + (Format.binary64.exponentBias : Int) + (52 : Nat)).toNat + 1 := by
    omega
  have hexponent :
      BitVec.ofNat 11 (e + (Format.binary64.exponentBias : Int) + (52 : Nat)).toNat ≠ -1#11 := by
    intro heq
    have hnat : (e + (Format.binary64.exponentBias : Int) + (52 : Nat)).toNat % 2 ^ 11 =
        2 ^ 11 - 1 := congrArg BitVec.toNat heq
    omega
  refine isFinite_unpack (b := UnpackedFloat.pack .binary64 (.finite sign m e hm)) ?_
  delta UnpackedFloat.pack
  dsimp only
  rw [if_neg hbounded]
  split
  · rw [unpackExponent_packComponents]
    exact hexponent
  · rw [unpackExponent_packComponents]
    decide

theorem isFinite_pack_zero (sign : Sign) : (Float.Model.pack (.zero sign)).isFinite = true := by
  cases sign <;> decide +kernel

theorem log2_le (h : m < 2 ^ (k + 1)) : m.log2 ≤ k := by
  by_cases hm : m = 0
  · subst hm
    exact Nat.zero_le k
  · exact Nat.le_of_lt_succ ((Nat.log2_lt hm).2 h)

theorem mantissa_shiftRight_le (em : ExtendedMantissa) (k : Nat) :
    (em >>> k).mantissa ≤ em.mantissa := by
  induction k with
  | zero => exact Nat.le_refl _
  | succ k ih => exact Nat.le_trans (Nat.div_le_self _ 2) ih

theorem roundedMantissa_le (em : ExtendedMantissa) : em.roundedMantissa ≤ em.mantissa + 1 := by
  obtain ⟨m, _ | _, _ | _⟩ := em
  · exact Nat.le_succ m
  · exact Nat.le_succ m
  · exact Nat.add_le_add_left (Nat.le_of_lt_succ (Nat.mod_lt m (by decide))) m
  · exact Nat.le_refl _

/-- Shifting a number to 53 digits makes its mantissa no longer, and its exponent no greater than it
has to be for that. -/
theorem shiftToTargetExponent_le (accuracy : Accuracy) (bound : Int) (hm : m < 2 ^ (k + 1))
    (he : e ≤ bound) (hleast : -1074 ≤ bound) (hbound : k + e - 52 ≤ bound) :
    (shiftToTargetExponent .binary64 m e accuracy).1.mantissa ≤ m ∧
      (shiftToTargetExponent .binary64 m e accuracy).2 ≤ bound := by
  have hlog := log2_le hm
  constructor
  · refine Nat.le_trans (mantissa_shiftRight_le _ _) ?_
    rcases accuracy with _ | (_ | _ | _) <;> exact Nat.le_refl m
  · show e + ((max ((m.log2 : Int) + 1 + e - (1 + 52 : Nat)) (3 - 2 ^ 10 - (1 + 52 : Nat)) -
      e).toNat : Int) ≤ bound
    omega

theorem isFinite_roundWithAccuracy (sign : Sign) (accuracy : Accuracy) (hm : m < 2 ^ 128)
    (he : e ≤ 0) :
    (Float.Model.pack (roundWithAccuracy .binary64 sign m e accuracy)).isFinite = true := by
  obtain ⟨hm₁, he₁⟩ := shiftToTargetExponent_le (k := 127) (e := e) accuracy 75 hm (by omega)
    (by decide) (by omega)
  rw [roundWithAccuracy]
  generalize shiftToTargetExponent .binary64 m e accuracy = first at *
  obtain ⟨em, e₁⟩ := first
  dsimp only at *
  have hrounded := roundedMantissa_le em
  -- rounding may have made the mantissa one digit longer, so it is shifted once more
  obtain ⟨-, he₂⟩ := shiftToTargetExponent_le (m := em.roundedMantissa) (k := 128) (e := e₁) .exact
    151 (by omega) (by omega) (by decide) (by omega)
  generalize shiftToTargetExponent .binary64 em.roundedMantissa e₁ .exact = second at *
  obtain ⟨em₂, e₂⟩ := second
  dsimp only at *
  by_cases hzero : em₂.mantissa = 0
  · rw [dif_pos hzero]
    exact isFinite_pack_zero sign
  · rw [dif_neg hzero]
    exact isFinite_pack (Int.le_trans he₂ (by decide))

/-- A whole number is written as a mantissa with some digits to spare, which is then rounded. -/
theorem unpacked_ofScientific_zero (hpos : n ≠ 0) :
    UnpackedFloat.ofScientific .binary64 n 0 =
      roundWithAccuracy .binary64 .positive
        (n <<< Format.binary64.mantissaBits * 10 ^ (0 : Int).toNat)
        (-Format.binary64.mantissaBits + 0) .exact := by
  delta UnpackedFloat.ofScientific
  rw [dif_neg hpos, if_neg (by decide),
    if_neg (show ¬ (0 : Int) < -((2 ^ 11 : Int) + (n.log2 : Nat)) by omega), if_pos (by decide)]
  rfl

/-- Whole numbers below `2 ^ 64` that are too large for 53 digits are finite. -/
theorem isFinite_ofInt (hlarge : 2 ^ 53 ≤ n) (hn : n < 2 ^ 64) :
    (Float.ofInt n).isFinite = true := by
  have hmodel : Float.ofInt n = .ofModel (Float.Model.ofScientific n 0) := dif_neg (by omega)
  rw [hmodel]
  show (Float.Model.pack (UnpackedFloat.ofScientific .binary64 n 0)).isFinite = true
  rw [unpacked_ofScientific_zero (by omega)]
  refine isFinite_roundWithAccuracy _ _ ?_ (by decide)
  rw [Nat.shiftLeft_eq]
  show n * 2 ^ 53 * 10 ^ 0 < 2 ^ 128
  omega

end Finite

end FilterSql.Decimal
