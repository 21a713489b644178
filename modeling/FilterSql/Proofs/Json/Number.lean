import FilterSql.Json.Printer
import FilterSql.Json.Reader
import FilterSql.Proofs.Decimal.Written
import FilterSql.Proofs.Outcome

/-!
# Numbers read back

A number ends where the characters end that can continue it: what stands behind it in a list or in
an object does not change how it is read. A whole number is read back from its digits; that other
numbers are as well is up to the way in which their digits are found.

## Main definitions

* `FilterSql.Json.EndsNumber`: a text that does not continue a number before it.
* `FilterSql.Json.Number.ReadsBack`: a number that is the value of its own text.

## Main results

* `FilterSql.Json.readNumber_append`: a number is read alike with more text behind it.
* `FilterSql.Json.Number.readsBack_int`: whole numbers are read back.
* `FilterSql.Json.Number.ReadsBack.readValue`: a number is read back in front of other text.
-/

namespace FilterSql.Json

open Text

variable {negative : Bool} {s t rest : List Char} {n m : Nat} {limit : Nat}

/-! ### The end of a number -/

/-- A text that does not continue a number before it. -/
def EndsNumber (rest : List Char) : Prop :=
  ∀ c ∈ rest.head?, isDigit c = false ∧ c ≠ '.' ∧ c ≠ 'e' ∧ c ≠ 'E'

theorem endsNumber_nil : EndsNumber [] := nofun

theorem endsNumber_comma (s : List Char) : EndsNumber (',' :: s) := by
  rintro c ⟨⟩
  decide

theorem endsNumber_bracket (s : List Char) : EndsNumber (']' :: s) := by
  rintro c ⟨⟩
  decide

theorem endsNumber_brace (s : List Char) : EndsNumber ('\x7d' :: s) := by
  rintro c ⟨⟩
  decide

theorem EndsNumber.startsWithDigit_append (h : EndsNumber rest) (s : List Char) :
    startsWithDigit (s ++ rest) = startsWithDigit s := by
  cases s with
  | cons c s => rfl
  | nil =>
    cases rest with
    | nil => rfl
    | cons c rest => exact (h c rfl).1

theorem EndsNumber.dropWhile_append (h : EndsNumber rest) (s : List Char) :
    (s ++ rest).dropWhile isDigit = s.dropWhile isDigit ++ rest := by
  induction s with
  | nil =>
    cases rest with
    | nil => rfl
    | cons c rest => simp [List.dropWhile, (h c rfl).1]
  | cons c s ih =>
    rw [List.cons_append, List.dropWhile, List.dropWhile]
    cases isDigit c
    · rfl
    · exact ih

theorem EndsNumber.takeDigits_append (h : EndsNumber rest) (limit n : Nat) (s : List Char) :
    takeDigits limit n (s ++ rest) =
      ((takeDigits limit n s).1, (takeDigits limit n s).2 ++ rest) := by
  induction s generalizing n with
  | nil =>
    cases rest with
    | nil => rfl
    | cons c rest => simp [takeDigits, (h c rfl).1]
  | cons c s ih =>
    rw [List.cons_append, takeDigits, takeDigits]
    split
    · exact ih _
    · rfl

/-! ### Numbers with more text behind them -/

theorem takeDigits_suffix (limit n : Nat) (s : List Char) : (takeDigits limit n s).2 <:+ s := by
  induction s generalizing n with
  | nil => exact List.suffix_rfl
  | cons c s ih =>
    rw [takeDigits]
    split
    · exact (ih _).trans (List.suffix_cons c s)
    · exact List.suffix_rfl

/-- A reader that succeeds leaves the end of its text over, and does so as well with more text
behind. -/
def Extends (rest s : List Char) (r r' : Reading Number) : Prop :=
  ∀ x left, r = .ok (x, left) → left <:+ s ∧ r' = .ok (x, left ++ rest)

namespace Extends

variable {r r' : Reading Number}

theorem ok (x : Number) (s rest : List Char) :
    Extends rest s (.ok (x, s)) (.ok (x, s ++ rest)) := by
  rintro _ _ ⟨⟩
  exact ⟨List.suffix_rfl, rfl⟩

theorem error (fault : Fault) (s : List Char) (r' : Reading Number) :
    Extends rest s (.error fault) r' := by
  rintro _ _ ⟨⟩

theorem of_suffix (h : Extends rest t r r') (hs : t <:+ s) : Extends rest s r r' := by
  intro x left hr
  obtain ⟨hleft, hr'⟩ := h x left hr
  exact ⟨hleft.trans hs, hr'⟩

theorem cons (h : Extends rest s r r') (c : Char) : Extends rest (c :: s) r r' :=
  h.of_suffix (List.suffix_cons c s)

end Extends

theorem extends_ofParts (significand : Nat) (exponent : Int) (s rest : List Char) :
    Extends rest s (ofParts negative significand exponent s)
      (ofParts negative significand exponent (s ++ rest)) := by
  rw [ofParts, ofParts]
  split
  · exact .ok _ _ _
  · exact .error _ _ _

theorem extends_readExponentDigits (h : EndsNumber rest) (significand : Nat) (exponent : Int)
    (below : Bool) (s : List Char) :
    Extends rest s (readExponentDigits negative significand exponent below s)
      (readExponentDigits negative significand exponent below (s ++ rest)) := by
  rw [readExponentDigits, readExponentDigits, h.startsWithDigit_append]
  cases hs : startsWithDigit s with
  | false =>
    rw [if_pos (c := (!false) = true) rfl]
    split <;> exact .error _ _ _
  | true =>
    obtain ⟨c, t, rfl⟩ : ∃ c t, s = c :: t := by
      cases s with
      | nil => cases hs
      | cons c t => exact ⟨c, t, rfl⟩
    have hnil (left : List Char) : (c :: t ++ left).isEmpty = false := rfl
    have hnil' : (c :: t).isEmpty = false := rfl
    simp only [hnil, hnil', h.takeDigits_append, h.startsWithDigit_append, h.dropWhile_append,
      Bool.false_eq_true, if_false, Bool.not_true]
    split
    · split
      · exact .error _ _ _
      · exact (Extends.ok _ _ _).of_suffix
          ((List.dropWhile_suffix isDigit).trans (takeDigits_suffix _ _ _))
    · exact (extends_ofParts _ _ _ _).of_suffix (takeDigits_suffix _ _ _)

theorem extends_readExponent (h : EndsNumber rest) (significand : Nat) (exponent : Int)
    (s : List Char) :
    Extends rest s (readExponent negative significand exponent s)
      (readExponent negative significand exponent (s ++ rest)) := by
  cases s with
  | nil => exact .error _ _ _
  | cons c s =>
    by_cases hplus : c = '+'
    · subst hplus
      exact (extends_readExponentDigits h _ _ _ s).cons _
    by_cases hminus : c = '-'
    · subst hminus
      exact (extends_readExponentDigits h _ _ _ s).cons _
    simpa [readExponent, hplus, hminus] using
      extends_readExponentDigits h significand exponent false (c :: s)

theorem readPower_of_endsNumber (h : EndsNumber s) (significand : Nat) (exponent : Int) :
    readPower negative significand exponent s = ofParts negative significand exponent s := by
  cases s with
  | nil => rfl
  | cons c s =>
    obtain ⟨-, -, he, hE⟩ := h c rfl
    simp [readPower, he, hE]

theorem extends_readPower (h : EndsNumber rest) (significand : Nat) (exponent : Int)
    (s : List Char) :
    Extends rest s (readPower negative significand exponent s)
      (readPower negative significand exponent (s ++ rest)) := by
  cases s with
  | nil =>
    rw [List.nil_append, readPower_of_endsNumber h, readPower_of_endsNumber endsNumber_nil]
    exact extends_ofParts _ _ [] rest
  | cons c s =>
    by_cases he : c = 'e'
    · subst he
      exact (extends_readExponent h _ _ s).cons _
    by_cases hE : c = 'E'
    · subst hE
      exact (extends_readExponent h _ _ s).cons _
    simpa [readPower, he, hE] using extends_ofParts significand exponent (c :: s) rest

theorem extends_readFraction (h : EndsNumber rest) (significand : Nat) (exponent : Int)
    (s : List Char) :
    Extends rest s (readFraction negative significand exponent s)
      (readFraction negative significand exponent (s ++ rest)) := by
  have hplaces (t : List Char) :
      (s ++ rest).length - (t ++ rest).length = s.length - t.length := by
    simp only [List.length_append]
    omega
  simp only [readFraction, h.takeDigits_append, h.startsWithDigit_append, h.dropWhile_append,
    hplaces]
  split
  · exact (extends_readPower h _ _ _).of_suffix
      ((List.dropWhile_suffix isDigit).trans (takeDigits_suffix _ _ _))
  · split
    · exact .error _ _ _
    · exact (extends_readPower h _ _ _).of_suffix (takeDigits_suffix _ _ _)

theorem readTail_of_endsNumber (h : EndsNumber s) (significand : Nat) :
    readTail negative significand s =
      if negative && significand = 0 then .ok (.float (-0.0), s)
      else .ok (.ofInt (if negative then -significand else significand), s) := by
  cases s with
  | nil => rfl
  | cons c s =>
    obtain ⟨-, hpoint, he, hE⟩ := h c rfl
    simp [readTail, hpoint, he, hE]

theorem extends_readTail (h : EndsNumber rest) (significand : Nat) (s : List Char) :
    Extends rest s (readTail negative significand s)
      (readTail negative significand (s ++ rest)) := by
  have hwhole (t : List Char) : Extends rest t
      (if negative && significand = 0 then .ok (.float (-0.0), t)
        else .ok (.ofInt (if negative then -significand else significand), t))
      (if negative && significand = 0 then .ok (.float (-0.0), t ++ rest)
        else .ok (.ofInt (if negative then -significand else significand), t ++ rest)) := by
    split <;> exact .ok _ _ _
  cases s with
  | nil =>
    rw [List.nil_append, readTail_of_endsNumber h, readTail_of_endsNumber endsNumber_nil]
    exact hwhole []
  | cons c s =>
    by_cases hpoint : c = '.'
    · subst hpoint
      exact (extends_readFraction h _ _ s).cons _
    by_cases he : c = 'e'
    · subst he
      exact (extends_readExponent h _ _ s).cons _
    by_cases hE : c = 'E'
    · subst hE
      exact (extends_readExponent h _ _ s).cons _
    simpa [readTail, hpoint, he, hE] using hwhole (c :: s)

theorem extends_readLongTail (h : EndsNumber rest) (significand : Nat) (s : List Char) :
    Extends rest s (readLongTail negative significand s)
      (readLongTail negative significand (s ++ rest)) := by
  have hplaces : (s ++ rest).length - (s.dropWhile isDigit ++ rest).length =
      s.length - (s.dropWhile isDigit).length := by
    simp only [List.length_append]
    omega
  simp only [readLongTail, h.dropWhile_append, hplaces]
  generalize Int.ofNat (s.length - (s.dropWhile isDigit).length) = exponent
  refine Extends.of_suffix ?_ (List.dropWhile_suffix isDigit)
  cases s.dropWhile isDigit with
  | nil =>
    have hpower : Extends rest [] (readPower negative significand exponent [])
        (readPower negative significand exponent rest) := extends_readPower h _ _ []
    cases rest with
    | nil => exact hpower
    | cons c rest =>
      obtain ⟨-, hpoint, -⟩ := h c rfl
      simpa [hpoint] using hpower
  | cons c t =>
    by_cases hpoint : c = '.'
    · subst hpoint
      exact (extends_readFraction h _ _ t).cons _
    simpa [hpoint] using extends_readPower h significand exponent (c :: t)

/-- A number is read alike with text behind it that does not continue it. -/
theorem readNumber_append (h : EndsNumber rest) (negative : Bool) (s : List Char) :
    Extends rest s (readNumber negative s) (readNumber negative (s ++ rest)) := by
  cases s with
  | nil => exact .error _ _ _
  | cons c s =>
    by_cases hzero : c = '0'
    · subst hzero
      simp only [List.cons_append, readNumber, h.startsWithDigit_append]
      split
      · exact .error _ _ _
      · exact (extends_readTail h _ _).cons _
    · simp only [List.cons_append, readNumber, h.takeDigits_append, h.startsWithDigit_append]
      split
      · split
        · exact ((extends_readLongTail h _ _).of_suffix (takeDigits_suffix _ _ _)).cons _
        · exact ((extends_readTail h _ _).of_suffix (takeDigits_suffix _ _ _)).cons _
      · exact .error _ _ _

/-! ### Whole numbers -/

/-- Digits are all taken if their number stays within the limit. -/
theorem takeDigits_of_forall_isDigit (hs : ∀ c ∈ s, isDigit c = true)
    (hfit : 10 ^ s.length * n + natOfDigits s ≤ limit) :
    takeDigits limit n s = (10 ^ s.length * n + natOfDigits s, []) := by
  induction s generalizing n with
  | nil => simp [takeDigits]
  | cons c s ih =>
    obtain ⟨hc, hs⟩ := List.forall_mem_cons.1 hs
    have hnumber : 10 ^ (c :: s).length * n + natOfDigits (c :: s) =
        10 ^ s.length * (10 * n + digitValue c) + natOfDigits s := by
      rw [natOfDigits_cons, List.length_cons, Nat.pow_succ, Nat.mul_add, Nat.mul_assoc]
      omega
    rw [hnumber] at hfit ⊢
    have hfirst : 10 * n + digitValue c ≤ 10 ^ s.length * (10 * n + digitValue c) :=
      Nat.le_mul_of_pos_left _ (Nat.pow_pos (by decide))
    have htaken : (isDigit c && decide (10 * n + digitValue c ≤ limit)) = true := by
      rw [hc, Bool.true_and, decide_eq_true_iff]
      omega
    rw [takeDigits, if_pos htaken, ih hs hfit]

/-- The digits of a number within 64 bits are read as it. -/
theorem readNumber_digitsOfNat (hn : n ≤ maxSignificand) :
    readNumber negative (digitsOfNat n) = readTail negative n [] := by
  obtain ⟨c, s, hcs, hc, hzero⟩ := exists_digitsOfNat_eq_cons n
  by_cases hc0 : c = '0'
  · obtain rfl := hzero hc0
    rfl
  · have hdigits : ∀ d ∈ s, isDigit d = true := fun d hd =>
      isDigit_of_mem_digitsOfNat (hcs ▸ List.mem_cons_of_mem c hd)
    have hnumber : 10 ^ s.length * digitValue c + natOfDigits s = n := by
      rw [← natOfDigits_cons, ← hcs, natOfDigits_digitsOfNat]
    have htaken : takeDigits maxSignificand (digitValue c) s = (n, []) := by
      rw [takeDigits_of_forall_isDigit hdigits (by omega), hnumber]
    rw [hcs]
    simp [readNumber, hc, htaken, startsWithDigit]

/-! ### Blanks -/

theorem not_blank_of_isDigit {c : Char} (h : isDigit c = true) : isJsonBlank c = false := by
  obtain ⟨hle, -⟩ := isDigit_iff.1 h
  have hne (d : Char) (hd : d.toNat < 48) : c ≠ d := by
    rintro rfl
    omega
  simp [isJsonBlank, hne]

/-- A text without the blanks of JSON. -/
def NotBlank (s : List Char) : Prop := ∀ c ∈ s, isJsonBlank c = false

/-- The blanks of JSON are blanks. -/
theorem NotBlank.of_noBlank (h : NoBlank s) : NotBlank s := by
  intro c hc
  have hblank := h c hc
  by_contra hjson
  simp only [isJsonBlank, Bool.or_eq_true, decide_eq_true_eq, Bool.not_eq_false] at hjson
  rcases hjson with ((rfl | rfl) | rfl) | rfl <;> cases hblank

theorem noBlank_writeNumber (x : Number) : NoBlank (writeNumber x) := by
  cases x with
  | int n exact => exact noBlank_integerChars n
  | float x =>
    rw [writeNumber]
    split
    · exact Decimal.Style.noBlank_write _ x
    · decide

theorem notBlank_writeNumber (x : Number) : NotBlank (writeNumber x) :=
  .of_noBlank (noBlank_writeNumber x)

theorem skipBlanks_cons {c : Char} (hc : isJsonBlank c = false) (s : List Char) :
    skipBlanks (c :: s) = c :: s := by
  rw [skipBlanks, List.dropWhile_cons_of_neg (by simp [hc])]

theorem NotBlank.skipBlanks (h : NotBlank s) : skipBlanks s = s := by
  cases s with
  | nil => rfl
  | cons c s => exact skipBlanks_cons (h c List.mem_cons_self) s

/-! ### Numbers as values -/

/-- A text without blanks whose value is a number is that number, with a minus sign or without. -/
theorem readNumber_of_readValue {x : Number} {measure depth : Nat} (hs : NotBlank s)
    (h : readValue measure depth s = .ok (.number x, t)) :
    (∃ s', s = '-' :: s' ∧ readNumber true s' = .ok (x, t)) ∨
      ∃ c s', s = c :: s' ∧ isDigit c = true ∧ readNumber false s = .ok (x, t) := by
  cases measure with
  | zero => cases h
  | succ measure =>
    rw [readValue, hs.skipBlanks] at h
    split at h
    case h_5 rest =>
      obtain ⟨⟨y, left⟩, hy, hxy⟩ := map_eq_ok_iff.1 h
      obtain ⟨hx, rfl⟩ := Prod.mk.inj hxy
      exact .inl ⟨rest, rfl, by rw [hy, Json.number.inj hx]⟩
    case h_9 =>
      split at h
      case isTrue hc =>
        obtain ⟨⟨y, left⟩, hy, hxy⟩ := map_eq_ok_iff.1 h
        obtain ⟨hx, rfl⟩ := Prod.mk.inj hxy
        exact .inr ⟨_, _, rfl, hc, by rw [hy, Json.number.inj hx]⟩
      case isFalse => cases h
    -- the other values are no numbers
    case h_1 => cases h
    case h_7 | h_8 =>
      split at h
      · cases h
      · obtain ⟨_, -, hxy⟩ := map_eq_ok_iff.1 h
        cases hxy
    all_goals
      obtain ⟨_, -, hxy⟩ := map_eq_ok_iff.1 h
      cases hxy

theorem ne_of_isDigit {c d : Char} (hc : isDigit c = true) (hd : isDigit d = false) : c ≠ d := by
  rintro rfl
  rw [hc] at hd
  cases hd

theorem readValue_minus {x : Number} (measure depth : Nat)
    (h : readNumber true s = .ok (x, t)) :
    readValue (measure + 1) depth ('-' :: s) = .ok (.number x, t) := by
  rw [readValue, skipBlanks_cons rfl]
  exact congrArg (Except.map _) h

theorem readValue_digit {c : Char} {x : Number} (measure depth : Nat) (hc : isDigit c = true)
    (h : readNumber false (c :: s) = .ok (x, t)) :
    readValue (measure + 1) depth (c :: s) = .ok (.number x, t) := by
  rw [readValue, skipBlanks_cons (not_blank_of_isDigit hc)]
  split
  case h_1 heq => cases heq
  case h_9 heq =>
    obtain ⟨rfl, rfl⟩ := List.cons.inj heq
    rw [if_pos hc, h]
    rfl
  all_goals
    rename_i heq
    exact absurd (List.cons.inj heq).1 (ne_of_isDigit hc rfl)

/-- A number is the value of its own text. -/
def Number.ReadsBack (x : Number) : Prop :=
  readTree (writeNumber x) = .ok (.number x)

/-- A number that is the value of its own text is read from it in front of other text as well. -/
theorem Number.ReadsBack.readValue_append {x : Number} (h : x.ReadsBack) (hrest : EndsNumber rest)
    (measure depth : Nat) :
    readValue (measure + 1) depth (writeNumber x ++ rest) = .ok (.number x, rest) := by
  have hblank := notBlank_writeNumber x
  obtain ⟨⟨y, left⟩, hy, hleft⟩ := bind_eq_ok_iff.1 h
  obtain ⟨_, hend, hxy⟩ := bind_eq_ok_iff.1 hleft
  obtain rfl : y = .number x := Except.ok.inj hxy
  -- nothing but blanks may be left over, and there are none
  have hnil (hsuffix : left <:+ writeNumber x) : left = [] := by
    have hskip : skipBlanks left = left :=
      NotBlank.skipBlanks fun c hc => hblank c (hsuffix.mem hc)
    simp only [readEnd, hskip] at hend
    split at hend
    · rfl
    · cases hend
  obtain ⟨s, hs, hread⟩ | ⟨c, s, hs, hc, hread⟩ := readNumber_of_readValue hblank hy
  · obtain ⟨hsuffix, happend⟩ := readNumber_append hrest true s x left hread
    obtain rfl := hnil (hs ▸ hsuffix.trans (List.suffix_cons _ s))
    rw [hs]
    exact readValue_minus _ _ happend
  · obtain ⟨hsuffix, happend⟩ := readNumber_append hrest false _ x left hread
    obtain rfl := hnil hsuffix
    rw [hs] at happend ⊢
    exact readValue_digit _ _ hc happend

/-- A number that is the value of its own text starts with a digit or a minus sign. -/
theorem Number.ReadsBack.exists_eq_cons {x : Number} (h : x.ReadsBack) :
    ∃ c s, writeNumber x = c :: s ∧ (isDigit c = true ∨ c = '-') := by
  have hread := h.readValue_append endsNumber_nil 0 0
  rw [List.append_nil] at hread
  obtain ⟨s, hs, -⟩ | ⟨c, s, hs, hc, -⟩ := readNumber_of_readValue (notBlank_writeNumber x) hread
  · exact ⟨'-', s, hs, .inr rfl⟩
  · exact ⟨c, s, hs, .inl hc⟩

/-- Whole numbers are the values of their texts. -/
theorem Number.readsBack_int (n : Int) (h : Exact n) : (Number.int n h).ReadsBack := by
  have hvalue (m : Int) (hm : m = n) : Number.ofInt m = .int n h := by
    subst hm
    exact dif_pos h
  have hread : readValue (measureOf (integerChars n)) maxDepth (integerChars n) =
      .ok (.number (.int n h), []) := by
    cases n with
    | ofNat n =>
      have hhigh : (n : Int) < 0x10000000000000000 := h.2
      have hfits : n ≤ maxSignificand := by
        rw [maxSignificand]
        omega
      obtain ⟨c, s, hcs, hc, -⟩ := exists_digitsOfNat_eq_cons n
      have hdigits : readNumber false (digitsOfNat n) = .ok (.ofInt n, []) :=
        readNumber_digitsOfNat hfits
      rw [hcs, hvalue n rfl] at hdigits
      rw [integerChars, hcs]
      exact readValue_digit _ _ hc hdigits
    | negSucc n =>
      have hlow : -0x8000000000000000 ≤ -((n : Int) + 1) := h.1
      have hfits : n + 1 ≤ maxSignificand := by
        rw [maxSignificand]
        omega
      have hdigits : readNumber true (digitsOfNat (n + 1)) = .ok (.ofInt (-(n + 1 : Nat)), []) :=
        readNumber_digitsOfNat hfits
      rw [hvalue (-(n + 1 : Nat)) rfl] at hdigits
      exact readValue_minus _ _ hdigits
  rw [ReadsBack, readTree, writeNumber, hread]
  rfl

end FilterSql.Json
