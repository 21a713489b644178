import FilterSql.Text.Digits
import Mathlib.Algebra.Group.Nat.Defs

/-!
# Rows of digits

A row of digits stands for a number, and a number is written as a row of digits without a zero at
its start, which stands for it again.

## Main results

* `FilterSql.Text.natOfDigits_append`: the number of two rows, one after the other.
* `FilterSql.Text.natOfDigits_lt`: a row of `k` digits stands for a number below `10 ^ k`.
* `FilterSql.Text.natOfDigits_digitsOfNat`: a number in digits stands for itself.
* `FilterSql.Text.natOfDigits_paddedNat`: so does a number filled up with zeros.
-/

namespace FilterSql.Text

/-! ### Digits -/

theorem isDigit_iff {c : Char} : isDigit c = true ↔ 48 ≤ c.toNat ∧ c.toNat ≤ 57 := by
  rw [isDigit, Bool.and_eq_true, decide_eq_true_iff, decide_eq_true_iff]
  exact Iff.rfl

theorem digitValue_lt {c : Char} (h : isDigit c = true) : digitValue c < 10 := by
  obtain ⟨-, hle⟩ := isDigit_iff.1 h
  have hzero : '0'.toNat = 48 := rfl
  rw [digitValue]
  omega

/-! ### Rows -/

theorem natOfDigits_eq (s : List Char) : natOfDigits s = Nat.ofDigitChars 10 s 0 :=
  Nat.ofDigitChars_eq_foldl.symm

@[simp] theorem natOfDigits_nil : natOfDigits [] = 0 := rfl

@[simp] theorem natOfDigits_singleton (c : Char) : natOfDigits [c] = digitValue c := by
  simp [natOfDigits]

theorem natOfDigits_append (s t : List Char) :
    natOfDigits (s ++ t) = 10 ^ t.length * natOfDigits s + natOfDigits t := by
  rw [natOfDigits_eq, Nat.ofDigitChars_append, Nat.ofDigitChars_eq_ofDigitChars_zero,
    ← natOfDigits_eq, ← natOfDigits_eq]

theorem natOfDigits_cons (c : Char) (s : List Char) :
    natOfDigits (c :: s) = 10 ^ s.length * digitValue c + natOfDigits s := by
  rw [← List.singleton_append, natOfDigits_append, natOfDigits_singleton]

/-- A row of digits stands for a number below the power of ten of its length. -/
theorem natOfDigits_lt {s : List Char} (h : ∀ c ∈ s, isDigit c = true) :
    natOfDigits s < 10 ^ s.length := by
  induction s with
  | nil => simp
  | cons c s ih =>
    obtain ⟨hc, hs⟩ := List.forall_mem_cons.1 h
    have hfirst : 10 ^ s.length * digitValue c ≤ 10 ^ s.length * 9 :=
      Nat.mul_le_mul_left _ (Nat.le_of_lt_succ (digitValue_lt hc))
    have hrest := ih hs
    rw [natOfDigits_cons, List.length_cons, Nat.pow_succ]
    omega

/-! ### Written numbers -/

theorem isDigit_of_mem_digitsOfNat {n : Nat} {c : Char} (h : c ∈ digitsOfNat n) :
    isDigit c = true :=
  Nat.isDigit_of_mem_toDigits (by decide) (by decide) h

@[simp] theorem natOfDigits_digitsOfNat (n : Nat) : natOfDigits (digitsOfNat n) = n := by
  rw [natOfDigits_eq, digitsOfNat, Nat.ofDigitChars_ten_toDigits]

theorem digitsOfNat_of_lt {d : Nat} (h : d < 10) : digitsOfNat d = [d.digitChar] :=
  Nat.toDigits_of_lt_base h

/-- A number is written with a first digit, which is zero for zero alone. -/
theorem exists_digitsOfNat_eq_cons (n : Nat) :
    ∃ c s, digitsOfNat n = c :: s ∧ isDigit c = true ∧ (c = '0' → n = 0) := by
  induction n using Nat.base_induction 10 (by decide) with
  | single d hd =>
    refine ⟨d.digitChar, [], digitsOfNat_of_lt hd,
      isDigit_of_mem_digitsOfNat (by rw [digitsOfNat_of_lt hd]; simp), fun hzero => ?_⟩
    simpa using hzero
  | digit m d hd hm ih =>
    obtain ⟨c, s, hs, hc, hzero⟩ := ih
    refine ⟨c, s ++ digitsOfNat d, ?_, hc, fun hc => ?_⟩
    · rw [digitsOfNat, ← Nat.toDigits_append_toDigits (by decide) hm hd, ← digitsOfNat, hs]
      rfl
    · exact absurd (hzero hc) (Nat.ne_of_gt hm)

theorem digitsOfNat_ne_nil (n : Nat) : digitsOfNat n ≠ [] := by
  obtain ⟨c, s, hs, -⟩ := exists_digitsOfNat_eq_cons n
  simp [hs]

/-! ### Numbers filled up with zeros -/

/-- A number fills a width that its digits fit into. -/
theorem length_paddedNat {width n : Nat} (hwidth : 0 < width) (h : n < 10 ^ width) :
    (paddedNat width n).length = width := by
  have hle : (digitsOfNat n).length ≤ width :=
    (Nat.length_toDigits_le_iff (by decide) hwidth).2 h
  rw [paddedNat, padLeft, List.length_append, List.length_replicate, Nat.sub_add_cancel hle]

theorem isDigit_of_mem_paddedNat {width n : Nat} {c : Char} (h : c ∈ paddedNat width n) :
    isDigit c = true := by
  rcases List.mem_append.1 h with h | h
  · rw [List.eq_of_mem_replicate h]
    rfl
  · exact isDigit_of_mem_digitsOfNat h

theorem natOfDigits_zeros (k : Nat) : natOfDigits (List.replicate k '0') = 0 := by
  induction k with
  | zero => rfl
  | succ k ih => rw [List.replicate_succ, natOfDigits_cons, ih]; rfl

@[simp] theorem natOfDigits_paddedNat (width n : Nat) : natOfDigits (paddedNat width n) = n := by
  rw [paddedNat, padLeft, natOfDigits_append, natOfDigits_zeros, Nat.mul_zero, Nat.zero_add,
    natOfDigits_digitsOfNat]

end FilterSql.Text
