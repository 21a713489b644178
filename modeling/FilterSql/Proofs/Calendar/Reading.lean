import FilterSql.Proofs.Calendar.Dates

/-!
# Reading points in time

A text is read as a point in time if and only if the grammar gives it that meaning. Each part of a
clock reads texts of its form only, and reads them wherever what follows cannot continue them. No
part that can be left out starts like the parts after it, so none takes what belongs to another.

## Main results

* `FilterSql.Timestamp.readSeparator_sound`, `FilterSql.Timestamp.readSeparator_complete`: what
  stands between a date and a clock.
* `FilterSql.Timestamp.readClock_sound`, `FilterSql.Timestamp.readClock_complete`: clocks.
* `FilterSql.Timestamp.ofText?_eq_some_iff_written`: whole texts.
-/

namespace FilterSql.Timestamp

open Text

variable {s w rest : List Char}

/-! ### Separators -/

theorem readSeparator_sound {u : Unit} (h : readSeparator? s = some (u, rest)) :
    ∃ w, s = w ++ rest ∧ SeparatorText w := by
  rw [readSeparator?.eq_def] at h
  split at h
  case h_1 =>
    obtain ⟨-, rfl⟩ := Prod.mk.inj (Option.some.inj h)
    exact ⟨['T'], rfl, .letter (by decide)⟩
  case h_2 =>
    obtain ⟨-, rfl⟩ := Prod.mk.inj (Option.some.inj h)
    exact ⟨['t'], rfl, .letter (by decide)⟩
  case h_3 =>
    cases hcomma : optional (readOneOf? [',']) s with
    | mk y t =>
      simp only [hcomma] at h
      split at h
      · cases h
      · rename_i hnonempty
        obtain ⟨-, rfl⟩ := Prod.mk.inj (Option.some.inj h)
        obtain ⟨comma, rfl, hform⟩ := optional_char_sound hcomma
        have hblanks : Row isGap (t.takeWhile isGap) :=
          ⟨by simpa using hnonempty, forall_of_mem_takeWhile t⟩
        exact ⟨comma ++ t.takeWhile isGap,
          by rw [List.append_assoc, List.takeWhile_append_dropWhile], .gap hform hblanks⟩

theorem readSeparator_complete (h : SeparatorText w) (hrest : NotAhead isGap rest) :
    readSeparator? (w ++ rest) = some ((), rest) := by
  cases h with
  | letter hc =>
    simp only [List.mem_cons, List.not_mem_nil, or_false] at hc
    rcases hc with rfl | rfl <;> rfl
  | @gap comma blanks hcomma hblanks =>
    have hletter : NotAhead isLetter (comma ++ (blanks ++ rest)) :=
      notAhead_optional_char hcomma (by decide) (hblanks.notAhead (apart_isGap (by decide)) rest)
    have hopt : (optional (readOneOf? [',']) (comma ++ (blanks ++ rest))).2 = blanks ++ rest :=
      optional_char_complete hcomma (hblanks.notAhead (apart_char rfl) rest)
    have hnonempty : blanks.isEmpty = false := by simpa using hblanks.nonempty
    rw [List.append_assoc, readSeparator?.eq_def]
    split
    case h_1 t heq => exact absurd (hletter 'T' (by rw [heq]; rfl)) (by decide)
    case h_2 t heq => exact absurd (hletter 't' (by rw [heq]; rfl)) (by decide)
    case h_3 =>
      simp only [hopt, takeWhile_append_of_notAhead hblanks.all hrest,
        dropWhile_append_of_notAhead hblanks.all hrest, hnonempty]
      rfl

/-! ### Parts of clocks -/

theorem readSeconds_sound {n : Nat} (h : readSeconds? s = some (n, rest)) :
    ∃ w, s = w ++ rest ∧ SecondsText w n := by
  simp only [readSeconds?, Option.bind_eq_bind, Option.bind_eq_some_iff, Prod.exists] at h
  obtain ⟨c, t, hcolon, hdigits⟩ := h
  obtain ⟨rfl, hc⟩ := readOneOf_sound hcolon
  obtain rfl := List.mem_singleton.1 hc
  obtain ⟨w, rfl, hw⟩ := readDigits_sound hdigits
  exact ⟨':' :: w, rfl, .present hw⟩

theorem optional_readSeconds_complete {n : Nat} (h : SecondsText w n)
    (hrest : NotAhead (· = ':') rest) :
    ∃ second, optional readSeconds? (w ++ rest) = (second, rest) ∧ second.getD 0 = n := by
  cases h with
  | absent =>
    have hchar : readOneOf? [':'] rest = none :=
      readOneOf_eq_none fun c hc => by simpa using hrest c hc
    refine ⟨none, optional_of_eq_none ?_, rfl⟩
    simp only [List.nil_append, readSeconds?, hchar, Option.bind_eq_bind, Option.bind_none]
  | @present w _ hw =>
    refine ⟨some n, optional_of_eq_some ?_, rfl⟩
    simp only [List.cons_append, readSeconds?, readOneOf_complete List.mem_cons_self,
      readDigits_complete hw (.inl hw.length_eq), Option.bind_eq_bind, Option.bind_some]

/-- The nanoseconds of a fraction are the whole ones in it. -/
theorem fractionNanos_eq {digits : List Char} (h : ∀ c ∈ digits, isDigit c = true) :
    fractionNanos digits = natOfDigits digits * 10 ^ 9 / 10 ^ digits.length := by
  rw [fractionNanos, Nat.pow_eq]
  rcases Nat.le_total digits.length 9 with hlength | hlength
  · have hpow : 10 ^ 9 = 10 ^ (9 - digits.length) * 10 ^ digits.length := by
      rw [← Nat.pow_add, Nat.sub_add_cancel hlength]
    rw [List.take_of_length_le hlength, hpow, ← Nat.mul_assoc,
      Nat.mul_div_cancel _ (Nat.pow_pos (by decide))]
  · have hcut : natOfDigits digits = 10 ^ (digits.length - 9) * natOfDigits (digits.take 9) +
        natOfDigits (digits.drop 9) := by
      rw [← List.length_drop, ← natOfDigits_append, List.take_append_drop]
    have hlow : natOfDigits (digits.drop 9) < 10 ^ (digits.length - 9) := by
      rw [← List.length_drop]
      exact natOfDigits_lt fun c hc => h c (List.mem_of_mem_drop hc)
    have hpow : 10 ^ digits.length = 10 ^ (digits.length - 9) * 10 ^ 9 := by
      rw [← Nat.pow_add, Nat.sub_add_cancel hlength]
    rw [Nat.sub_eq_zero_of_le hlength, Nat.pow_zero, Nat.mul_one, hpow,
      Nat.mul_div_mul_right _ _ (Nat.pow_pos (by decide)), hcut,
      Nat.mul_add_div (Nat.pow_pos (by decide)), Nat.div_eq_of_lt hlow, Nat.add_zero]

theorem readFraction_sound {n : Nat} (h : readFraction? s = some (n, rest)) :
    ∃ w, s = w ++ rest ∧ FractionText w n := by
  simp only [readFraction?, Option.bind_eq_bind, Option.bind_eq_some_iff, Prod.exists] at h
  obtain ⟨c, t, hpoint, hdigits⟩ := h
  obtain ⟨rfl, hc⟩ := readOneOf_sound hpoint
  obtain rfl := List.mem_singleton.1 hc
  split at hdigits
  · cases hdigits
  · rename_i hnonempty
    obtain ⟨rfl, rfl⟩ := Prod.mk.inj (Option.some.inj hdigits)
    have hall : ∀ c ∈ t.takeWhile isDigit, isDigit c = true := forall_of_mem_takeWhile t
    rw [fractionNanos_eq hall]
    exact ⟨'.' :: t.takeWhile isDigit, by simp, .present ⟨by simpa using hnonempty, hall⟩⟩

theorem optional_readFraction_complete {n : Nat} (h : FractionText w n)
    (hrest : NotAhead (fun c => isDigit c || c = '.') rest) :
    ∃ nanos, optional readFraction? (w ++ rest) = (nanos, rest) ∧ nanos.getD 0 = n := by
  cases h with
  | absent =>
    have hchar : readOneOf? ['.'] rest = none :=
      readOneOf_eq_none fun c hc => by simpa using (Bool.or_eq_false_iff.1 (hrest c hc)).2
    refine ⟨none, optional_of_eq_none ?_, rfl⟩
    simp only [List.nil_append, readFraction?, hchar, Option.bind_eq_bind, Option.bind_none]
  | @present w hw =>
    have hdigit : NotAhead isDigit rest := hrest.imp fun c hc => (Bool.or_eq_false_iff.1 hc).1
    have hnonempty : w.isEmpty = false := by simpa using hw.nonempty
    refine ⟨_, optional_of_eq_some ?_, Option.getD_some⟩
    simp only [List.cons_append, readFraction?, readOneOf_complete List.mem_cons_self,
      takeWhile_append_of_notAhead hw.all hdigit, dropWhile_append_of_notAhead hw.all hdigit,
      hnonempty, fractionNanos_eq hw.all, Option.bind_eq_bind, Option.bind_some]
    rfl

/-- A word for a half of the day, after blanks. -/
theorem readHalf_sound {second : Bool} (h : readHalf? s = some (second, rest)) :
    ∃ w, s = w ++ rest ∧ ∃ blanks word, w = blanks ++ word ∧
      (∀ c ∈ blanks, isSpace c = true) ∧ AnyCase (if second then "pm" else "am") word := by
  obtain ⟨blanks, hblanks, hcut⟩ := exists_blanks s
  simp only [readHalf?, Option.orElse_eq_orElse, Option.orElse_eq_or, Option.or_eq_some_iff,
    Option.map_eq_some_iff, Prod.exists] at h
  obtain ⟨u, t, hread, hresult⟩ | ⟨-, u, t, hread, hresult⟩ := h
  all_goals
    obtain ⟨rfl, rfl⟩ := Prod.mk.inj hresult
    obtain ⟨word, hrest, hword⟩ := readWord_sound hread
    rw [hrest, ← List.append_assoc] at hcut
    exact ⟨_, hcut, blanks, word, rfl, hblanks, hword⟩

/-- The half of the day that is read, if any, makes the hour one of the day. -/
theorem optional_readHalf_sound {half : Option Bool} {hour hourOfDay : Nat}
    (h : optional readHalf? s = (half, rest)) (hhour : hourOfHalf? half hour = some hourOfDay) :
    ∃ w, s = w ++ rest ∧ HalfText hour w hourOfDay := by
  obtain ⟨w, hs, ⟨rfl, rfl⟩ | ⟨second, rfl, blanks, word, rfl, hblanks, hword⟩⟩ :=
    optional_sound (fun _ _ => readHalf_sound) h
  · obtain rfl := Option.some.inj hhour
    exact ⟨[], hs, .absent⟩
  · rw [hourOfHalf?] at hhour
    split at hhour
    · cases hhour
    · have hbounds : 1 ≤ hour ∧ hour ≤ 12 := by omega
      obtain rfl := Option.some.inj hhour
      refine ⟨_, hs, ?_⟩
      cases second with
      | false => exact .morning hblanks hword hbounds
      | true => exact .afternoon hblanks hword hbounds

theorem hourOfHalf?_of_bounds {hour : Nat} (h : 1 ≤ hour ∧ hour ≤ 12) (second : Bool) :
    hourOfHalf? (some second) hour = some (if second then hour % 12 + 12 else hour % 12) :=
  if_neg (by omega)

theorem optional_readHalf_complete {hour hourOfDay : Nat} (h : HalfText hour w hourOfDay)
    (hrest : readHalf? rest = none) :
    ∃ half, optional readHalf? (w ++ rest) = (half, rest) ∧
      hourOfHalf? half hour = some hourOfDay := by
  have hnext {word : String} {letters : List Char} (hword : Lettered word)
      (hcase : AnyCase word letters) : NotAhead isSpace (letters ++ rest) :=
    (hcase.row hword).notAhead (apart_isSpace (by decide)).symm rest
  cases h with
  | absent => exact ⟨none, optional_of_eq_none hrest, rfl⟩
  | @morning blanks letters hblanks hw hhour =>
    refine ⟨some false, optional_of_eq_some ?_, hourOfHalf?_of_bounds hhour false⟩
    rw [readHalf?, List.append_assoc, dropWhile_append_of_notAhead hblanks (hnext (by decide) hw),
      readWord_complete hw]
    rfl
  | @afternoon blanks letters hblanks hw hhour =>
    refine ⟨some true, optional_of_eq_some ?_, hourOfHalf?_of_bounds hhour true⟩
    rw [readHalf?, List.append_assoc, dropWhile_append_of_notAhead hblanks (hnext (by decide) hw),
      readWord_eq_none hw (by decide) (by decide), readWord_complete hw]
    rfl

/-- The seconds of an offset by hours and minutes, taken off or not. -/
theorem signed_eq (sign : Char) (seconds : Int) :
    (if sign = '-' then -seconds else seconds) = (if sign = '-' then -1 else 1) * seconds := by
  split
  · rw [Int.neg_one_mul]
  · rw [Int.one_mul]

theorem readSignedOffset_sound {n : Int} (h : readSignedOffset? s = some (n, rest)) :
    ∃ w, s = w ++ rest ∧ ∀ blanks, (∀ c ∈ blanks, isSpace c = true) →
      OffsetText (blanks ++ w) n := by
  simp only [readSignedOffset?, Option.bind_eq_bind, Option.bind_eq_some_iff, Prod.exists] at h
  obtain ⟨sign, s₁, hsign, hours, s₂, hhours, h⟩ := h
  cases hcolon : optional (readOneOf? [':']) s₂ with
  | mk y s₃ =>
    simp only [hcolon] at h
    obtain ⟨minutes, s₄, hminutes, hresult⟩ := h
    obtain ⟨rfl, rfl⟩ := Prod.mk.inj (Option.some.inj hresult)
    obtain ⟨rfl, hmem⟩ := readOneOf_sound hsign
    obtain ⟨hw, rfl, hhour⟩ := readDigits_sound hhours
    obtain ⟨colon, rfl, hform⟩ := optional_char_sound hcolon
    obtain ⟨mw, rfl, hminute⟩ := readDigits_sound hminutes
    rw [signed_eq]
    exact ⟨sign :: (hw ++ (colon ++ mw)), by simp,
      fun blanks hblanks => .signed hblanks hmem hhour hform hminute⟩

theorem readOffset_sound {n : Int} (h : readOffset? s = some (n, rest)) :
    ∃ w, s = w ++ rest ∧ OffsetText w n := by
  obtain ⟨blanks, hblanks, hcut⟩ := exists_blanks s
  simp only [readOffset?, Option.orElse_eq_orElse, Option.orElse_eq_or, Option.or_eq_some_iff,
    Option.map_eq_some_iff, Prod.exists] at h
  obtain ⟨u, t, hread, hresult⟩ | ⟨-, hread⟩ := h
  · obtain ⟨rfl, rfl⟩ := Prod.mk.inj hresult
    obtain ⟨word, hword, letters, hrest, hcase⟩ := readAnyWord_sound hread
    rw [hrest, ← List.append_assoc] at hcut
    exact ⟨_, hcut, .universal hblanks hword hcase⟩
  · obtain ⟨w, hrest, hw⟩ := readSignedOffset_sound hread
    rw [hrest, ← List.append_assoc] at hcut
    exact ⟨_, hcut, hw blanks hblanks⟩

/-- The signs of an offset are not of a kind of which neither of the two is. -/
theorem notAhead_sign {kind : Char → Bool} {sign : Char} (h : sign ∈ ['+', '-'])
    (hkind : kind '+' = false ∧ kind '-' = false) : NotAhead kind (sign :: s) := by
  have hcases : sign = '+' ∨ sign = '-' := by simpa using h
  rcases hcases with rfl | rfl
  · exact notAhead_cons hkind.1
  · exact notAhead_cons hkind.2

/-- An offset at the end of a text is read. -/
theorem optional_readOffset_complete {n : Int} (h : OffsetText w n) :
    ∃ offset, optional readOffset? w = (offset, []) ∧ offset.getD 0 = n := by
  cases h with
  | absent => exact ⟨none, rfl, rfl⟩
  | @universal blanks letters word hblanks hword hw =>
    have hrow := AnyCase.row_of_mem (by decide) hword hw
    have hnext := hrow.notAhead (apart_isSpace (by decide)).symm []
    have hread := readAnyWord_complete (by decide) hword hw []
    rw [List.append_nil] at hnext hread
    refine ⟨some 0, optional_of_eq_some ?_, rfl⟩
    rw [readOffset?, dropWhile_append_of_notAhead hblanks hnext, hread]
    rfl
  | @signed blanks hh colon mm sign hours minutes hblanks hsign hhour hcolon hminute =>
    have hmm : NotAhead (· = ':') (mm ++ []) :=
      (hminute.row (by decide)).notAhead (apart_char rfl) []
    have hopt := optional_char_complete hcolon hmm
    have hread : readDigits? 2 2 (mm ++ []) = some (minutes, []) :=
      readDigits_complete hminute (.inl hminute.length_eq)
    rw [List.append_nil] at hopt hread
    refine ⟨_, optional_of_eq_some ?_, Option.getD_some⟩
    rw [readOffset?, dropWhile_append_of_notAhead hblanks (notAhead_sign hsign (by decide)),
      readAnyWord_eq_none (by decide) (notAhead_sign hsign (by decide)), ← signed_eq]
    simp only [readSignedOffset?, readOneOf_complete hsign,
      readDigits_complete hhour (.inl hhour.length_eq), hopt, hread, Option.bind_eq_bind,
      Option.bind_some]
    rfl

/-- No half of a day is read from an offset. -/
theorem OffsetText.readHalf_eq_none {n : Int} (h : OffsetText w n) : readHalf? w = none := by
  cases h with
  | absent => rfl
  | @universal blanks letters word hblanks hword hw =>
    have hrow := AnyCase.row_of_mem (by decide) hword hw
    have hnext := hrow.notAhead (apart_isSpace (by decide)).symm []
    have hnone {half : String} (hhalf : half ∈ ["am", "pm"]) : readWord? half letters = none := by
      have hapart : ∀ half ∈ ["am", "pm"], ∀ word ∈ ["z", "utc", "gmt"],
          ¬ half.toList <+: word.toList ∧ ¬ word.toList <+: half.toList := by decide
      have happ := hapart half hhalf word hword
      simpa using readWord_eq_none hw happ.1 happ.2 []
    rw [List.append_nil] at hnext
    rw [readHalf?, dropWhile_append_of_notAhead hblanks hnext, hnone (by decide), hnone (by decide)]
    rfl
  | @signed _ _ _ _ sign _ _ hblanks hsign =>
    have hletter (t : List Char) : NotAhead isLetter (sign :: t) :=
      notAhead_sign hsign (by decide)
    rw [readHalf?, dropWhile_append_of_notAhead hblanks (notAhead_sign hsign (by decide)),
      readWord_eq_none_of_notAhead (by decide) (hletter _),
      readWord_eq_none_of_notAhead (by decide) (hletter _)]
    rfl

/-! A part of a clock that is left out is not read from the parts after it: none of them starts with
a digit or a colon, and only a fraction starts with a point. -/

section Follow

variable {kind : Char → Bool}

theorem OffsetText.notAhead {n : Int} (h : OffsetText w n) (hspace : Apart isSpace kind)
    (hletter : Apart isLetter kind) (hsign : kind '+' = false ∧ kind '-' = false) :
    NotAhead kind w := by
  cases h with
  | absent => exact notAhead_nil
  | @universal blanks letters word hblanks hword hw =>
    have hrow := AnyCase.row_of_mem (by decide) hword hw
    have hnext := hrow.notAhead hletter []
    rw [List.append_nil] at hnext
    exact .append (notAhead_of_forall fun c hc => hspace c (hblanks c hc)) hnext
  | signed hblanks hmem =>
    exact .append (notAhead_of_forall fun c hc => hspace c (hblanks c hc))
      (notAhead_sign hmem hsign)

theorem HalfText.notAhead {hour hourOfDay : Nat} (h : HalfText hour w hourOfDay)
    (hspace : Apart isSpace kind) (hletter : Apart isLetter kind) (hrest : NotAhead kind rest) :
    NotAhead kind (w ++ rest) := by
  have hwords {blanks letters : List Char} {word : String}
      (hblanks : ∀ c ∈ blanks, isSpace c = true) (hword : Lettered word)
      (hcase : AnyCase word letters) : NotAhead kind ((blanks ++ letters) ++ rest) := by
    rw [List.append_assoc]
    exact .append (notAhead_of_forall fun c hc => hspace c (hblanks c hc))
      ((hcase.row hword).notAhead hletter rest)
  cases h with
  | absent => exact hrest
  | morning hblanks hw => exact hwords hblanks (by decide) hw
  | afternoon hblanks hw => exact hwords hblanks (by decide) hw

theorem FractionText.notAhead {n : Nat} (h : FractionText w n) (hpoint : kind '.' = false)
    (hrest : NotAhead kind rest) : NotAhead kind (w ++ rest) := by
  cases h with
  | absent => exact hrest
  | present => exact notAhead_cons hpoint

end Follow

/-! ### Clocks -/

theorem nanosOfClock?_eq_some_iff {hour minute second nanos n : Nat} :
    nanosOfClock? hour minute second nanos = some n ↔
      (hour < 24 ∧ minute < 60 ∧ second < 60) ∧
        ((hour * 60 + minute) * 60 + second) * 10 ^ 9 + nanos = n := by
  rw [nanosOfClock?, Option.ite_none_right_eq_some, Option.some_inj]
  exact Iff.rfl

/-- What is read as a clock is the text of that clock. -/
theorem readClock_sound {nanosOfDay : Nat} {offset : Int}
    (h : readClock? s = some ((nanosOfDay, offset), rest)) :
    ∃ w, s = w ++ rest ∧ ClockText w nanosOfDay offset := by
  simp only [readClock?, readTimeOfDay?, Option.bind_eq_bind, Option.bind_eq_some_iff,
    Prod.exists] at h
  obtain ⟨time, left, ⟨hour, s₁, hhour, c, s₂, hcolon, minute, s₃, hminute, h⟩, hoffset⟩ := h
  cases hsecond : optional readSeconds? s₃ with
  | mk second s₄ =>
  cases hfraction : optional readFraction? s₄ with
  | mk nanos s₅ =>
  cases hhalf : optional readHalf? s₅ with
  | mk half s₆ =>
  cases hend : optional readOffset? left with
  | mk off s₇ =>
    simp only [hsecond, hfraction, hhalf] at h
    simp only [hend] at hoffset
    obtain ⟨hourOfDay, hday, n, htime, hresult⟩ := h
    obtain ⟨rfl, rfl⟩ := Prod.mk.inj (Option.some.inj hresult)
    obtain ⟨hpair, rfl⟩ := Prod.mk.inj (Option.some.inj hoffset)
    obtain ⟨rfl, rfl⟩ := Prod.mk.inj hpair
    obtain ⟨⟨hlt, hltm, hlts⟩, rfl⟩ := nanosOfClock?_eq_some_iff.1 htime
    obtain ⟨hw, rfl, hhw⟩ := readDigits_sound hhour
    obtain ⟨rfl, hmem⟩ := readOneOf_sound hcolon
    obtain rfl := List.mem_singleton.1 hmem
    obtain ⟨mw, rfl, hmw⟩ := readDigits_sound hminute
    obtain ⟨sec, rfl, hsec⟩ := optional_getD_sound .absent (fun _ _ => readSeconds_sound) hsecond
    obtain ⟨frac, rfl, hfrac⟩ :=
      optional_getD_sound .absent (fun _ _ => readFraction_sound) hfraction
    obtain ⟨halfw, rfl, hhalfw⟩ := optional_readHalf_sound hhalf hday
    obtain ⟨offw, rfl, hoffw⟩ := optional_getD_sound .absent (fun _ _ => readOffset_sound) hend
    exact ⟨_, by simp, .intro hhw hmw hsec hfrac hhalfw hoffw hlt hltm hlts⟩

/-- The text of a clock is read as that clock. -/
theorem readClock_complete {nanosOfDay : Nat} {offset : Int} (h : ClockText w nanosOfDay offset) :
    readClock? w = some ((nanosOfDay, offset), []) := by
  cases h with
  | @intro hw mw sec frac half off hour hourOfDay minute second nanos _ hh hm hsec hfrac hhalf hoff
      hhour hminute hsecond =>
    have hfollow {kind : Char → Bool} (hspace : Apart isSpace kind) (hletter : Apart isLetter kind)
        (hsign : kind '+' = false ∧ kind '-' = false) : NotAhead kind (half ++ off) :=
      hhalf.notAhead hspace hletter (hoff.notAhead hspace hletter hsign)
    have hcolon : NotAhead (· = ':') (frac ++ (half ++ off)) :=
      hfrac.notAhead rfl (hfollow (apart_char rfl) (apart_char rfl) (by decide))
    have hletter : Apart isLetter fun c => isDigit c || c = '.' := fun c hc =>
      Bool.or_eq_false_iff.2 ⟨apart_isLetter_isDigit c hc, apart_char rfl c hc⟩
    have hpoint : NotAhead (fun c => isDigit c || c = '.') (half ++ off) :=
      hfollow (apart_isSpace (by decide)) hletter (by decide)
    obtain ⟨second?, hreadSeconds, rfl⟩ := optional_readSeconds_complete hsec hcolon
    obtain ⟨nanos?, hreadFraction, rfl⟩ := optional_readFraction_complete hfrac hpoint
    obtain ⟨half?, hreadHalf, hday⟩ := optional_readHalf_complete hhalf hoff.readHalf_eq_none
    obtain ⟨offset?, hreadOffset, rfl⟩ := optional_readOffset_complete hoff
    have htime : nanosOfClock? hourOfDay minute (second?.getD 0) (nanos?.getD 0) = some _ :=
      nanosOfClock?_eq_some_iff.2 ⟨⟨hhour, hminute, hsecond⟩, rfl⟩
    have hmark (t : List Char) : NotAhead isDigit (':' :: t) := notAhead_cons rfl
    simp only [readClock?, readTimeOfDay?, readDigits_complete hh (.inr (hmark _)),
      readOneOf_complete List.mem_cons_self, readDigits_complete hm (.inl hm.length_eq),
      hreadSeconds, hreadFraction, hreadHalf, hday, htime, hreadOffset, Option.bind_eq_bind,
      Option.bind_some]

/-! ### Points in time -/

theorem SeparatorText.notAhead_isDigit (h : SeparatorText w) (rest : List Char) :
    NotAhead isDigit (w ++ rest) := by
  cases h with
  | @letter c hc =>
    have hcases : c = 'T' ∨ c = 't' := by simpa using hc
    rcases hcases with rfl | rfl <;> exact notAhead_cons rfl
  | gap hcomma hblanks =>
    rw [List.append_assoc]
    exact notAhead_optional_char hcomma rfl (hblanks.notAhead (apart_isGap (by decide)) rest)

theorem ClockText.notAhead {nanosOfDay : Nat} {offset : Int} {kind : Char → Bool}
    (h : ClockText w nanosOfDay offset) (hkind : Apart isDigit kind) : NotAhead kind w := by
  cases h with
  | intro hh => exact (hh.row (by decide)).notAhead hkind _

theorem readSeparatedClock_sound {x : Nat × Int} (h : readSeparatedClock? s = some (x, rest)) :
    ∃ w, s = w ++ rest ∧ ∃ separator c, w = separator ++ c ∧ SeparatorText separator ∧
      ClockText c x.1 x.2 := by
  simp only [readSeparatedClock?, Option.bind_eq_bind, Option.bind_eq_some_iff, Prod.exists] at h
  obtain ⟨u, t, hseparator, hread⟩ := h
  obtain ⟨separator, rfl, hform⟩ := readSeparator_sound hseparator
  obtain ⟨c, rfl, hc⟩ := readClock_sound hread
  exact ⟨separator ++ c, (List.append_assoc ..).symm, separator, c, rfl, hform, hc⟩

theorem readSeparatedClock_complete {separator c : List Char} {nanosOfDay : Nat} {offset : Int}
    (hseparator : SeparatorText separator) (hc : ClockText c nanosOfDay offset) :
    readSeparatedClock? (separator ++ c) = some ((nanosOfDay, offset), []) := by
  have hgap : NotAhead isGap c := hc.notAhead (apart_isGap (by decide)).symm
  simp only [readSeparatedClock?, readSeparator_complete hseparator hgap, readClock_complete hc,
    Option.bind_eq_bind, Option.bind_some]

theorem ofChars?_sound {ts : Timestamp} (h : ofChars? s = some ts) : Written s ts := by
  simp only [ofChars?, Option.bind_eq_bind, Option.bind_eq_some_iff, Prod.exists] at h
  obtain ⟨date, left, hdate, h⟩ := h
  cases hclock : optional readSeparatedClock? left with
  | mk clock end? =>
    simp only [hclock] at h
    split at h
    case isFalse => cases h
    case isTrue hempty =>
      obtain rfl := Option.some.inj h
      obtain rfl := List.isEmpty_iff.1 hempty
      obtain ⟨w, rfl, hw⟩ := readDate_sound hdate
      obtain ⟨_, rfl, ⟨rfl, rfl⟩ | ⟨x, rfl, separator, c, rfl, hseparator, hc⟩⟩ :=
        optional_sound (fun _ _ => readSeparatedClock_sound) hclock
      · rw [List.append_nil, List.append_nil]
        exact .date hw
      · rw [List.append_nil]
        exact .clock hw hseparator hc

theorem ofChars?_complete {ts : Timestamp} (h : Written s ts) : ofChars? s = some ts := by
  cases h with
  | date hw =>
    have hdate := readDate_complete hw notAhead_nil
    rw [List.append_nil] at hdate
    simp only [ofChars?, hdate, Option.bind_eq_bind, Option.bind_some]
    rfl
  | @clock w separator c d nanosOfDay offset hw hseparator hc =>
    have hdate := readDate_complete hw (hseparator.notAhead_isDigit c)
    have hclock := optional_of_eq_some (readSeparatedClock_complete hseparator hc)
    simp only [ofChars?, hdate, hclock, Option.bind_eq_bind, Option.bind_some]
    rfl

/-- The texts that are read as a point in time are those that the grammar writes, blanks around them
aside, and what is read is what they mean. -/
theorem ofText?_eq_some_iff_written (text : String) (ts : Timestamp) :
    ofText? text = some ts ↔ Written (trimChars text.toList) ts :=
  ⟨ofChars?_sound, ofChars?_complete⟩

/-- Half past midnight where clocks are an hour and a half behind. -/
example : ofText? " Feb. 29th, 2024, 12:30 AM-0130 " =
    some (ofClock ⟨2024, 2, 29, by decide⟩ (2 * 3600 * 1000000000)) := by
  decide

end FilterSql.Timestamp
