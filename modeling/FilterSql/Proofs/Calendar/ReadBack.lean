import FilterSql.Proofs.Calendar.Months
import FilterSql.Proofs.Calendar.Reading
import FilterSql.Proofs.Text.Blank
import FilterSql.Sql.Param
import FilterSql.Value.Canonical

/-!
# Points in time are read back

The canonical text of a point in time is one that the grammar gives this meaning: a date with the
year first, the letter `T`, and a clock whose hour, minute, second and fraction add up to the
nanoseconds of the day. An offset behind it is an offset of that clock, and nothing is lost when it
is taken off, whatever days, months and years lie in between.

## Main results

* `FilterSql.Timestamp.ofClock_date_nanosOfDay`: a point in time lies in its day at its nanosecond.
* `FilterSql.Timestamp.written_writeChars_append`: the canonical text in front of an offset.
* `FilterSql.Timestamp.text_reads_back`: canonical texts are read back, offsets taken off.
-/

namespace FilterSql.Timestamp

open Text

/-! ### Parts of a point in time -/

/-- A point in time lies in its day at its nanosecond. -/
theorem ofClock_date_nanosOfDay (t : Timestamp) : ofClock t.date t.nanosOfDay = t := by
  have hrest : 0 ≤ t.nanos % Duration.days 1 := Int.emod_nonneg _ (by decide)
  have hnanos : (ofClock t.date t.nanosOfDay).nanos = t.nanos := by
    rw [ofClock, nanos_add, ofDate, date, Date.dayNumber_ofDayNumber, nanosOfDay,
      Int.toNat_of_nonneg hrest]
    exact Int.ediv_mul_add_emod t.nanos _
  exact congrArg Timestamp.mk hnanos

theorem nanosOfDay_lt (t : Timestamp) : t.nanosOfDay < 24 * 3600 * 10 ^ 9 := by
  have hday : Duration.days 1 = 24 * 3600 * 10 ^ 9 := rfl
  rw [nanosOfDay, hday]
  omega

theorem hour_lt (t : Timestamp) : t.hour < 24 := by
  have h := t.nanosOfDay_lt
  rw [hour]
  omega

theorem minute_lt (t : Timestamp) : t.minute < 60 :=
  Nat.mod_lt _ (by decide)

theorem second_lt (t : Timestamp) : t.second < 60 :=
  Nat.mod_lt _ (by decide)

theorem fraction_lt (t : Timestamp) : t.fraction < 10 ^ 9 :=
  Nat.mod_lt _ (by decide)

/-- The hour, the minute, the second and the fraction add up to the nanoseconds of the day. -/
theorem nanosOfDay_eq (t : Timestamp) :
    ((t.hour * 60 + t.minute) * 60 + t.second) * 10 ^ 9 + t.fraction = t.nanosOfDay := by
  simp only [hour, minute, second, fraction]
  omega

/-! ### Their texts -/

/-- A number filled up to a width is that many digits. -/
theorem digits_paddedNat {width n : Nat} (hwidth : 0 < width) (h : n < 10 ^ width) :
    Digits width width (paddedNat width n) n where
  least := Nat.le_of_eq (length_paddedNat hwidth h).symm
  most := Nat.le_of_eq (length_paddedNat hwidth h)
  digits _ := isDigit_of_mem_paddedNat
  value := natOfDigits_paddedNat width n

theorem digits_two {n : Nat} (h : n < 100) : Digits 2 2 (paddedNat 2 n) n :=
  digits_paddedNat Nat.two_pos h

/-- Two digits stand where one would do. -/
theorem digits_one_two {n : Nat} (h : n < 100) : Digits 1 2 (paddedNat 2 n) n :=
  { digits_two h with least := Nat.le_trans (Nat.le_succ 1) (digits_two h).least }

theorem dateText_writeDate {d : Date} (hyear : 0 ≤ d.year ∧ d.year ≤ 9999) :
    DateText (writeDate d) d := by
  obtain ⟨hleast, hmost, -, hday⟩ := d.real
  have hlength := (Date.monthLength_bounds d.year ⟨hleast, hmost⟩).2
  have hmonth' : d.month < 100 := by omega
  have hday' : d.day < 100 := by omega
  have hy : Digits 4 4 (paddedNat 4 d.year.toNat) d.year.toNat :=
    digits_paddedNat (by decide) (by omega)
  have hform := DateText.yearFirst hy List.mem_cons_self (digits_one_two hmonth')
    List.mem_cons_self (digits_one_two hday') (Int.toNat_of_nonneg hyear.1).symm
  simpa [writeDate, writeYear, hyear] using hform

/-- The digits of a fraction with a number of places. -/
theorem fractionText_paddedNat {places n : Nat} (hplaces : 0 < places) (h : n < 10 ^ places) :
    FractionText ('.' :: paddedNat places n) (n * 10 ^ 9 / 10 ^ places) := by
  have hdigits := digits_paddedNat hplaces h
  have hform := FractionText.present (hdigits.row hplaces)
  rwa [hdigits.value, hdigits.length_eq] at hform

theorem fractionText_writeFraction {nanos : Nat} (h : nanos < 10 ^ 9) :
    FractionText (writeFraction nanos) nanos := by
  rw [writeFraction]
  split
  case isTrue hzero =>
    rw [hzero]
    exact .absent
  case isFalse =>
  split
  case isTrue hmillis =>
    have hvalue : nanos / 1000000 * 10 ^ 9 / 10 ^ 3 = nanos := by omega
    have hplaces : nanos / 1000000 < 10 ^ 3 := by omega
    have hform := fractionText_paddedNat (by decide) hplaces
    rwa [hvalue] at hform
  case isFalse =>
  split
  case isTrue hmicros =>
    have hvalue : nanos / 1000 * 10 ^ 9 / 10 ^ 6 = nanos := by omega
    have hplaces : nanos / 1000 < 10 ^ 6 := by omega
    have hform := fractionText_paddedNat (by decide) hplaces
    rwa [hvalue] at hform
  case isFalse =>
    have hvalue : nanos * 10 ^ 9 / 10 ^ 9 = nanos := by omega
    have hform := fractionText_paddedNat (by decide) h
    rwa [hvalue] at hform

/-- The clock of a point in time in front of an offset. -/
theorem clockText_writeClock (t : Timestamp) {off : List Char} {offset : Int}
    (hoff : OffsetText off offset) :
    ClockText (t.writeClock ++ (writeFraction t.fraction ++ off)) t.nanosOfDay offset := by
  have hhour := digits_one_two (Nat.lt_trans t.hour_lt (by decide))
  have hminute := digits_two (Nat.lt_trans t.minute_lt (by decide))
  have hsecond := SecondsText.present (digits_two (Nat.lt_trans t.second_lt (by decide)))
  have hfraction := fractionText_writeFraction t.fraction_lt
  have hform := ClockText.intro hhour hminute hsecond hfraction .absent hoff t.hour_lt t.minute_lt
    t.second_lt
  rw [nanosOfDay_eq] at hform
  simpa [writeClock] using hform

/-- The canonical text of a point in time with an offset behind it means that point in time with the
offset taken off. -/
theorem written_writeChars_append {t : Timestamp} (hyear : 0 ≤ t.date.year ∧ t.date.year ≤ 9999)
    {off : List Char} {offset : Int} (hoff : OffsetText off offset) :
    Written (t.writeChars 'T' ++ off) (t - Duration.seconds offset) := by
  have hform := Written.clock (dateText_writeDate hyear) (.letter List.mem_cons_self)
    (t.clockText_writeClock hoff)
  rw [ofClock_date_nanosOfDay] at hform
  simpa [writeChars] using hform

/-! ### Blanks -/

theorem not_blank_paddedNat {width n : Nat} : ∀ c ∈ paddedNat width n, isBlank c = false :=
  fun _ hc => isBlank_of_isDigit (isDigit_of_mem_paddedNat hc)

theorem not_blank_writeYear (year : Int) : ∀ c ∈ writeYear year, isBlank c = false := by
  rw [writeYear]
  split
  · exact not_blank_paddedNat
  · refine List.forall_mem_cons.2 ⟨?_, not_blank_paddedNat⟩
    split <;> rfl

theorem not_blank_writeFraction (nanos : Nat) : ∀ c ∈ writeFraction nanos, isBlank c = false := by
  rw [writeFraction]
  split
  · exact List.forall_mem_nil _
  · split
    · exact List.forall_mem_cons.2 ⟨rfl, not_blank_paddedNat⟩
    · split <;> exact List.forall_mem_cons.2 ⟨rfl, not_blank_paddedNat⟩

theorem not_blank_writeChars (t : Timestamp) : ∀ c ∈ t.writeChars 'T', isBlank c = false := by
  simp only [writeChars, writeDate, writeClock, List.forall_mem_append, List.forall_mem_cons]
  have hmark : isBlank '-' = false ∧ isBlank 'T' = false ∧ isBlank ':' = false := by decide
  exact ⟨⟨⟨⟨not_blank_writeYear _, hmark.1, not_blank_paddedNat⟩, hmark.1, not_blank_paddedNat⟩,
    hmark.2.1, ⟨not_blank_paddedNat, hmark.2.2, not_blank_paddedNat⟩, hmark.2.2,
    not_blank_paddedNat⟩, not_blank_writeFraction _⟩

/-- The canonical text of a point in time is read in front of an offset without blanks. -/
theorem ofText?_text_append {t : Timestamp} (hyear : 0 ≤ t.date.year ∧ t.date.year ≤ 9999)
    {off : List Char} {offset : Int} (hoff : OffsetText off offset)
    (hblank : ∀ c ∈ off, isBlank c = false) :
    ofText? (t.text ++ String.ofList off) = some (t - Duration.seconds offset) := by
  have hall : ∀ c ∈ t.writeChars 'T' ++ off, isBlank c = false :=
    List.forall_mem_append.2 ⟨not_blank_writeChars t, hblank⟩
  rw [ofText?, text, ← String.ofList_append, String.toList_ofList, NoBlank.trimChars hall]
  exact ofChars?_complete (written_writeChars_append hyear hoff)

/-- An offset by hours and minutes is read behind the canonical text of a point in time. -/
theorem ofText?_text_append_signed {t : Timestamp} (hyear : 0 ≤ t.date.year ∧ t.date.year ≤ 9999)
    {sign : Char} (hsign : sign ∈ ['+', '-']) {hours minutes : Nat} (hhours : hours < 100)
    (hminutes : minutes < 100) {colon : List Char} (hcolon : colon ∈ [[], [':']]) :
    ofText? (t.text ++
        String.ofList (sign :: (paddedNat 2 hours ++ (colon ++ paddedNat 2 minutes)))) =
      some (t - Duration.seconds
        ((if sign = '-' then -1 else 1) * (hours * 3600 + minutes * 60))) := by
  have hform : colon = [] ∨ colon = [':'] := by simpa using hcolon
  have hoffset := OffsetText.signed (List.forall_mem_nil _) hsign (digits_two hhours) hform
    (digits_two hminutes)
  have hsignBlank : isBlank sign = false := by
    obtain rfl | rfl : sign = '+' ∨ sign = '-' := by simpa using hsign
    · rfl
    · rfl
  have hcolonBlank : ∀ c ∈ colon, isBlank c = false := by
    obtain rfl | rfl := hform
    · exact List.forall_mem_nil _
    · exact List.forall_mem_singleton.2 rfl
  exact ofText?_text_append hyear hoffset (List.forall_mem_cons.2 ⟨hsignBlank,
    List.forall_mem_append.2 ⟨not_blank_paddedNat,
      List.forall_mem_append.2 ⟨hcolonBlank, not_blank_paddedNat⟩⟩⟩)

/-! ### Canonical texts -/

/-- The canonical text of a point in time in the years 0 to 9999, which is also the one in its SQL
literal, is read as that point in time, to the nanosecond; and with an offset by hours and minutes
behind it, as the point in time that lies this offset earlier. -/
theorem text_reads_back (t : Timestamp) (hyear : 0 ≤ t.date.year ∧ t.date.year ≤ 9999) :
    Value.canonicalText .absoluteDate (.timestamp t) = .ok t.text ∧
      (Param.timestamp t).display = "'" ++ t.text ++ "'" ∧
      ofText? t.text = some t ∧
      Value.read .absoluteDate (.string t.text) = .ok (.timestamp t) ∧
      ∀ sign ∈ ['+', '-'], ∀ hours < 100, ∀ minutes < 100, ∀ colon ∈ [[], [':']],
        ofText? (t.text ++
            String.ofList (sign :: (paddedNat 2 hours ++ (colon ++ paddedNat 2 minutes)))) =
          some (t - Duration.seconds
            ((if sign = '-' then -1 else 1) * (hours * 3600 + minutes * 60))) := by
  have hself : ofText? t.text = some t := by
    have h := ofText?_text_append hyear .absent (List.forall_mem_nil _)
    rw [String.ofList_nil, String.append_empty] at h
    rw [h]
    exact congrArg some (congrArg Timestamp.mk (Int.sub_zero _))
  refine ⟨rfl, by rw [Param.display], hself, ?_, ?_⟩
  · rw [Value.read, Value.readTimestamp, Json.string?, Option.bind_some, hself]
  · intro sign hsign hours hhours minutes hminutes colon hcolon
    exact ofText?_text_append_signed hyear hsign hhours hminutes hcolon

/-- The last nanosecond before eleven in the evening of the 29th of February, by itself and by a
clock that is behind by an hour and a half: with the offset taken off it lies in March. -/
theorem text_reads_back_across_leap_day :
    let t := ofClock ⟨2024, 2, 29, by decide⟩ (23 * 3600 * 1000000000 - 1)
    (0 ≤ t.date.year ∧ t.date.year ≤ 9999) ∧ t.text = "2024-02-29T22:59:59.999999999" ∧
      ofText? t.text = some t ∧
      ofText? (t.text ++ String.ofList ('-' :: (paddedNat 2 1 ++ ([':'] ++ paddedNat 2 30)))) =
        some (ofClock ⟨2024, 3, 1, by decide⟩ (1800 * 1000000000 - 1)) := by
  intro t
  have hyear : 0 ≤ t.date.year ∧ t.date.year ≤ 9999 := by decide
  obtain ⟨-, -, hself, -, hoffset⟩ := text_reads_back t hyear
  refine ⟨hyear, by decide, hself, ?_⟩
  rw [hoffset '-' (by decide) 1 (by decide) 30 (by decide) [':'] (by decide)]
  decide

/-- Years beyond the four digits are written with a sign and not read back. -/
example : ofText? (ofClock ⟨10000, 1, 1, by decide⟩ 0).text = none := by
  decide

end FilterSql.Timestamp
