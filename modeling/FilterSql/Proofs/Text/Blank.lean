import FilterSql.Proofs.Text.Digits
import FilterSql.Text.Blank
import FilterSql.Text.Case
import Mathlib.Data.List.DropRight

/-!
# Blanks around a text

Taking the blanks from both ends of a text leaves a part of it that has none there. It does not
matter how many blanks there are, nor whether the capital letters are made small before or after. A
text without blanks, such as a row of digits, is left as it is.

## Main definitions

* `FilterSql.Text.NoBlank`: a text without blanks.

## Main results

* `FilterSql.Text.trimChars_append_of_blank`: blanks around a text make no difference.
* `FilterSql.Text.trimChars_trimChars`: what is left has no blanks around it.
* `FilterSql.Text.NoBlank.trimChars`: a text without blanks is left as it is.
* `FilterSql.Text.trimChars_lowerChars`: the case of letters makes no difference.
-/

namespace FilterSql.Text

variable {s before after : List Char}

/-! ### Blanks -/

theorem trimEnd_append_of_blank (s : List Char) (h : ∀ c ∈ after, isBlank c = true) :
    trimEnd (s ++ after) = trimEnd s := by
  have hreverse : ∀ c ∈ after.reverse, isBlank c = true := fun c hc => h c (List.mem_reverse.1 hc)
  rw [trimEnd, List.reverse_append, List.dropWhile_append_of_pos hreverse, ← trimEnd]

/-- Blanks around a text make no difference to what is left of it. -/
theorem trimChars_append_of_blank (hbefore : ∀ c ∈ before, isBlank c = true) (s : List Char)
    (hafter : ∀ c ∈ after, isBlank c = true) :
    trimChars (before ++ s ++ after) = trimChars s := by
  rw [trimChars, List.append_assoc, List.dropWhile_append_of_pos hbefore, List.dropWhile_append]
  split
  case isTrue hempty =>
    rw [List.dropWhile_eq_nil_iff.2 hafter, trimChars, List.isEmpty_iff.1 hempty]
  case isFalse => exact trimEnd_append_of_blank _ hafter

theorem trimChars_sublist (s : List Char) : (trimChars s).Sublist s :=
  (List.rdropWhile_prefix isBlank _).sublist.trans (List.dropWhile_sublist isBlank)

/-- What is left of a text has no blanks around it. -/
theorem trimChars_trimChars (s : List Char) : trimChars (trimChars s) = trimChars s := by
  have hstart : (trimChars s).dropWhile isBlank = trimChars s := by
    cases htrim : trimChars s with
    | nil => rfl
    | cons c rest =>
      obtain ⟨cut, hcut⟩ : trimChars s <+: s.dropWhile isBlank := List.rdropWhile_prefix isBlank _
      rw [htrim, List.cons_append] at hcut
      have hc : isBlank c = false := by
        have hhead := List.head?_dropWhile_not isBlank s
        rw [← hcut] at hhead
        simpa using hhead
      exact List.dropWhile_cons_of_neg (by simp [hc])
  calc trimChars (trimChars s) = trimEnd (trimChars s) := by rw [trimChars, hstart]
    _ = trimChars s := List.rdropWhile_idempotent isBlank _

/-! ### Texts without blanks -/

/-- A text without blanks. -/
def NoBlank (s : List Char) : Prop := ∀ c ∈ s, isBlank c = false

-- by a test of each character, since the instance for all characters does not evaluate
instance (s : List Char) : Decidable (NoBlank s) :=
  decidable_of_iff (s.all (!isBlank ·) = true) (by simp [NoBlank])

theorem noBlank_nil : NoBlank [] := List.forall_mem_nil _

theorem NoBlank.cons {c : Char} (hc : isBlank c = false) (hs : NoBlank s) : NoBlank (c :: s) :=
  List.forall_mem_cons.2 ⟨hc, hs⟩

theorem NoBlank.append (hs : NoBlank s) (hafter : NoBlank after) : NoBlank (s ++ after) :=
  List.forall_mem_append.2 ⟨hs, hafter⟩

theorem NoBlank.take (hs : NoBlank s) (n : Nat) : NoBlank (s.take n) :=
  fun c hc => hs c (List.mem_of_mem_take hc)

theorem NoBlank.drop (hs : NoBlank s) (n : Nat) : NoBlank (s.drop n) :=
  fun c hc => hs c (List.mem_of_mem_drop hc)

/-- A text without blanks is left as it is. -/
theorem NoBlank.trimChars (h : NoBlank s) : trimChars s = s := by
  have hstart {t : List Char} (ht : NoBlank t) : t.dropWhile isBlank = t := by
    cases t with
    | nil => rfl
    | cons c t => exact List.dropWhile_cons_of_neg (by simp [ht c List.mem_cons_self])
  have hend : NoBlank s.reverse := fun c hc => h c (List.mem_reverse.1 hc)
  rw [Text.trimChars, hstart h, trimEnd, hstart hend, List.reverse_reverse]

theorem isBlank_of_isDigit {c : Char} (h : isDigit c = true) : isBlank c = false := by
  obtain ⟨hleast, hmost⟩ := isDigit_iff.1 h
  simp only [isBlank, Bool.or_eq_false_iff, Bool.and_eq_false_iff, beq_eq_false_iff_ne,
    decide_eq_false_iff_not]
  omega

theorem noBlank_replicate {c : Char} (hc : isBlank c = false) (n : Nat) :
    NoBlank (List.replicate n c) :=
  fun _ hd => List.eq_of_mem_replicate hd ▸ hc

theorem noBlank_digitsOfNat (n : Nat) : NoBlank (digitsOfNat n) :=
  fun _ hc => isBlank_of_isDigit (isDigit_of_mem_digitsOfNat hc)

theorem noBlank_integerChars (n : Int) : NoBlank (integerChars n) := by
  cases n with
  | ofNat n => exact noBlank_digitsOfNat n
  | negSucc n => exact (noBlank_digitsOfNat _).cons rfl

/-! ### Case -/

/-- Making a letter small makes no blank, nor does it take one away. -/
theorem isBlank_toLower (c : Char) : isBlank c.toLower = isBlank c := by
  by_cases h : 'A' ≤ c ∧ c ≤ 'Z'
  · have hbounds : 65 ≤ c.toNat ∧ c.toNat ≤ 90 := h
    have hlower : c.toLower.toNat = c.toNat + 32 := by
      have hletter : c.toLower = ⟨c.val + ('a'.val - 'A'.val), _⟩ := dif_pos ⟨h.1, h.2⟩
      have hval : c.toLower.toNat = (c.toNat + 32) % 4294967296 := by
        rw [hletter, Char.toNat, UInt32.toNat_add]
        rfl
      omega
    have hupper : ∀ n, 65 ≤ n → n ≤ 122 → isBlank (Char.ofNat n) = false := by decide
    have hsmall := hupper (c.toNat + 32) (by omega) (by omega)
    have hcapital := hupper c.toNat (by omega) (by omega)
    rw [← hlower, Char.ofNat_toNat] at hsmall
    rw [Char.ofNat_toNat] at hcapital
    rw [hsmall, hcapital]
  · have hsame : c.toLower = c := dif_neg fun hval => h ⟨hval.1, hval.2⟩
    rw [hsame]

theorem trimChars_lowerChars (s : List Char) :
    trimChars (lowerChars s) = lowerChars (trimChars s) := by
  have hsame : isBlank ∘ Char.toLower = isBlank := funext isBlank_toLower
  simp only [trimChars, trimEnd, lowerChars, List.dropWhile_map, ← List.map_reverse, hsame]

end FilterSql.Text
