import FilterSql.Proofs.Calendar.Words

/-!
# Reading dates

What is read as a date is the text of that date, and the text of a date is read unless a digit
follows. The forms of a date differ in the number of digits at their start and in the character
after them, so the order in which they are tried does not matter.

## Main results

* `FilterSql.Timestamp.readDate_sound`, `FilterSql.Timestamp.readDate_complete`: dates.
-/

namespace FilterSql.Timestamp

open Text

variable {s w rest : List Char}

/-- The date of a year with four digits, a month and a day is the one that has them. -/
theorem ofYmd?_eq_some_iff {year month day : Nat} (hyear : year < 10000) {date : Date} :
    Date.ofYmd? year month day = some date ↔
      date.year = year ∧ date.month = month ∧ date.day = day := by
  rw [Date.ofYmd?]
  constructor
  · intro h
    split at h
    · split at h
      · obtain rfl := Option.some.inj h
        exact ⟨rfl, rfl, rfl⟩
      · cases h
    · cases h
  · obtain ⟨y, m, d, hreal⟩ := date
    rintro ⟨rfl, rfl, rfl⟩
    have hbounds : Date.minYear ≤ (year : Int) ∧ (year : Int) ≤ Date.maxYear := by
      simp only [Date.minYear, Date.maxYear]
      omega
    rw [dif_pos hreal, if_pos hbounds]

theorem readYearFirst_sound {date : Date} (h : readYearFirst? s = some (date, rest)) :
    ∃ w, s = w ++ rest ∧ DateText w date := by
  simp only [readYearFirst?, Option.bind_eq_bind, Option.bind_eq_some_iff, Prod.exists] at h
  obtain ⟨year, s₁, hyear, a, s₂, hfirst, month, s₃, hmonth, b, s₄, hsecond, day, s₅, hday, date',
    hdate, h⟩ := h
  obtain ⟨rfl, rfl⟩ := Prod.mk.inj (Option.some.inj h)
  obtain ⟨y, rfl, hy⟩ := readDigits_sound hyear
  obtain ⟨rfl, ha⟩ := readOneOf_sound hfirst
  obtain ⟨m, rfl, hm⟩ := readDigits_sound hmonth
  obtain ⟨rfl, hb⟩ := readOneOf_sound hsecond
  obtain ⟨d, rfl, hd⟩ := readDigits_sound hday
  obtain ⟨hdateYear, rfl, rfl⟩ := (ofYmd?_eq_some_iff hy.lt).1 hdate
  exact ⟨_, by simp, .yearFirst hy ha hm hb hd hdateYear⟩

theorem readYearLast_sound {date : Date} (h : readYearLast? s = some (date, rest)) :
    ∃ w, s = w ++ rest ∧ DateText w date := by
  simp only [readYearLast?, Option.bind_eq_bind, Option.bind_eq_some_iff, Prod.exists] at h
  obtain ⟨month, s₁, hmonth, a, s₂, hfirst, day, s₃, hday, b, s₄, hsecond, year, s₅, hyear, date',
    hdate, h⟩ := h
  obtain ⟨rfl, rfl⟩ := Prod.mk.inj (Option.some.inj h)
  obtain ⟨m, rfl, hm⟩ := readDigits_sound hmonth
  obtain ⟨rfl, ha⟩ := readOneOf_sound hfirst
  obtain ⟨d, rfl, hd⟩ := readDigits_sound hday
  obtain ⟨rfl, hb⟩ := readOneOf_sound hsecond
  obtain ⟨y, rfl, hy⟩ := readDigits_sound hyear
  obtain ⟨hdateYear, rfl, rfl⟩ := (ofYmd?_eq_some_iff hy.lt).1 hdate
  obtain rfl := List.mem_singleton.1 ha
  obtain rfl := List.mem_singleton.1 hb
  exact ⟨_, by simp, .yearLast hm hd hy hdateYear⟩

theorem readMonthFirst_sound {date : Date} (h : readMonthFirst? s = some (date, rest)) :
    ∃ w, s = w ++ rest ∧ DateText w date := by
  simp only [readMonthFirst?, Option.bind_eq_bind, Option.bind_eq_some_iff, Prod.exists] at h
  obtain ⟨month, s₁, hmonth, _, s₂, hspaces, day, s₃, hday, h⟩ := h
  cases hcomma : optional (readOneOf? [',']) s₃ with
  | mk u s₄ =>
    simp only [hcomma] at h
    obtain ⟨_, s₅, hspaces', year, s₆, hyear, date', hdate, h⟩ := h
    obtain ⟨rfl, rfl⟩ := Prod.mk.inj (Option.some.inj h)
    obtain ⟨m, rfl, hm⟩ := readMonthName_sound hmonth
    obtain ⟨blanks, rfl, hblanks⟩ := readSpaces_sound hspaces
    obtain ⟨d, rfl, hd⟩ := readDay_sound hday
    obtain ⟨comma, rfl, hform⟩ := optional_char_sound hcomma
    obtain ⟨blanks', rfl, hblanks'⟩ := readSpaces_sound hspaces'
    obtain ⟨y, rfl, hy⟩ := readDigits_sound hyear
    obtain ⟨hdateYear, rfl, rfl⟩ := (ofYmd?_eq_some_iff hy.lt).1 hdate
    exact ⟨_, by simp, .monthFirst hm hblanks hd hform hblanks' hy hdateYear⟩

theorem readDayFirst_sound {date : Date} (h : readDayFirst? s = some (date, rest)) :
    ∃ w, s = w ++ rest ∧ DateText w date := by
  simp only [readDayFirst?, Option.bind_eq_bind, Option.bind_eq_some_iff, Prod.exists] at h
  obtain ⟨day, s₁, hday, _, s₂, hspaces, month, s₃, hmonth, h⟩ := h
  cases hcomma : optional (readOneOf? [',']) s₃ with
  | mk u s₄ =>
    simp only [hcomma] at h
    obtain ⟨_, s₅, hspaces', year, s₆, hyear, date', hdate, h⟩ := h
    obtain ⟨rfl, rfl⟩ := Prod.mk.inj (Option.some.inj h)
    obtain ⟨d, rfl, hd⟩ := readDay_sound hday
    obtain ⟨blanks, rfl, hblanks⟩ := readSpaces_sound hspaces
    obtain ⟨m, rfl, hm⟩ := readMonthName_sound hmonth
    obtain ⟨comma, rfl, hform⟩ := optional_char_sound hcomma
    obtain ⟨blanks', rfl, hblanks'⟩ := readSpaces_sound hspaces'
    obtain ⟨y, rfl, hy⟩ := readDigits_sound hyear
    obtain ⟨hdateYear, rfl, rfl⟩ := (ofYmd?_eq_some_iff hy.lt).1 hdate
    exact ⟨_, by simp, .dayFirst hd hblanks hm hform hblanks' hy hdateYear⟩

/-- What is read as a date is the text of that date. -/
theorem readDate_sound {date : Date} (h : readDate? s = some (date, rest)) :
    ∃ w, s = w ++ rest ∧ DateText w date := by
  simp only [readDate?, Option.orElse_eq_orElse, Option.orElse_eq_or, Option.or_eq_some_iff] at h
  obtain h | ⟨-, h | ⟨-, h | ⟨-, h⟩⟩⟩ := h
  · exact readYearFirst_sound h
  · exact readYearLast_sound h
  · exact readMonthFirst_sound h
  · exact readDayFirst_sound h

theorem readYearFirst_complete {y m d : List Char} {a b : Char} {year : Nat} {date : Date}
    (hy : Digits 4 4 y year) (ha : a ∈ ['-', '/']) (hm : Digits 1 2 m date.month)
    (hb : b ∈ ['-', '/']) (hd : Digits 1 2 d date.day) (hyear : date.year = year)
    (hrest : NotAhead isDigit rest) :
    readYearFirst? (y ++ a :: (m ++ b :: (d ++ rest))) = some (date, rest) := by
  have hb' : isDigit b = false := by
    have hcases : b = '-' ∨ b = '/' := by simpa using hb
    rcases hcases with rfl | rfl <;> rfl
  have hdate := (ofYmd?_eq_some_iff hy.lt).2 ⟨hyear, rfl, rfl⟩
  simp only [readYearFirst?, readDigits_complete hy (.inl hy.length_eq), readOneOf_complete ha,
    readDigits_complete hm (.inr (notAhead_cons hb')), readOneOf_complete hb,
    readDigits_complete hd (.inr hrest), hdate, Option.bind_eq_bind, Option.bind_some]

theorem readYearLast_complete {m d y : List Char} {year : Nat} {date : Date}
    (hm : Digits 1 2 m date.month) (hd : Digits 1 2 d date.day) (hy : Digits 4 4 y year)
    (hyear : date.year = year) (rest : List Char) :
    readYearLast? (m ++ '/' :: (d ++ '/' :: (y ++ rest))) = some (date, rest) := by
  have hslash (s : List Char) : NotAhead isDigit ('/' :: s) := notAhead_cons rfl
  have hdate := (ofYmd?_eq_some_iff hy.lt).2 ⟨hyear, rfl, rfl⟩
  simp only [readYearLast?, readDigits_complete hm (.inr (hslash _)),
    readOneOf_complete List.mem_cons_self, readDigits_complete hd (.inr (hslash _)),
    readDigits_complete hy (.inl hy.length_eq), hdate, Option.bind_eq_bind, Option.bind_some]

/-- The year of a date with words is read after a comma that can be left out, and blanks. -/
theorem readYear_after_comma {comma blanks y : List Char} {year : Nat}
    (hcomma : comma = [] ∨ comma = [',']) (hblanks : Row isSpace blanks) (hy : Digits 4 4 y year)
    (rest : List Char) :
    ∃ u, optional (readOneOf? [',']) (comma ++ (blanks ++ (y ++ rest))) =
        (u, blanks ++ (y ++ rest)) ∧
      readSpaces? (blanks ++ (y ++ rest)) = some ((), y ++ rest) ∧
      readDigits? 4 4 (y ++ rest) = some (year, rest) := by
  refine ⟨_, Prod.ext rfl (optional_char_complete hcomma ?_), readSpaces_complete hblanks ?_,
    readDigits_complete hy (.inl hy.length_eq)⟩
  · exact hblanks.notAhead (apart_isSpace (by decide)) _
  · exact (hy.row (by decide)).notAhead (apart_isSpace (by decide)).symm rest

theorem readMonthFirst_complete {m blanks d comma blanks' y : List Char} {year : Nat} {date : Date}
    (hm : MonthText m date.month) (hblanks : Row isSpace blanks) (hd : DayText d date.day)
    (hcomma : comma = [] ∨ comma = [',']) (hblanks' : Row isSpace blanks')
    (hy : Digits 4 4 y year) (hyear : date.year = year) (rest : List Char) :
    readMonthFirst? (m ++ (blanks ++ (d ++ (comma ++ (blanks' ++ (y ++ rest)))))) =
      some (date, rest) := by
  obtain ⟨u, hopt, hspaces', hread⟩ := readYear_after_comma hcomma hblanks' hy rest
  have hdate := (ofYmd?_eq_some_iff hy.lt).2 ⟨hyear, rfl, rfl⟩
  have hmonth := readMonthName_complete hm
    (hblanks.notAhead (apart_isSpace (by decide)) (d ++ (comma ++ (blanks' ++ (y ++ rest)))))
  have hspaces := readSpaces_complete hblanks
    (hd.notAhead (apart_isSpace (by decide)).symm (comma ++ (blanks' ++ (y ++ rest))))
  have hday := readDay_complete hd (notAhead_optional_char hcomma rfl
    (hblanks'.notAhead (apart_isSpace (by decide)) (y ++ rest)))
  simp only [readMonthFirst?, hmonth, hspaces, hday, hopt, hspaces', hread, hdate,
    Option.bind_eq_bind, Option.bind_some]

theorem readDayFirst_complete {d blanks m comma blanks' y : List Char} {year : Nat} {date : Date}
    (hd : DayText d date.day) (hblanks : Row isSpace blanks) (hm : MonthText m date.month)
    (hcomma : comma = [] ∨ comma = [',']) (hblanks' : Row isSpace blanks')
    (hy : Digits 4 4 y year) (hyear : date.year = year) (rest : List Char) :
    readDayFirst? (d ++ (blanks ++ (m ++ (comma ++ (blanks' ++ (y ++ rest)))))) =
      some (date, rest) := by
  obtain ⟨u, hopt, hspaces', hread⟩ := readYear_after_comma hcomma hblanks' hy rest
  have hdate := (ofYmd?_eq_some_iff hy.lt).2 ⟨hyear, rfl, rfl⟩
  have hday := readDay_complete hd
    (hblanks.notAhead (apart_isSpace (by decide)) (m ++ (comma ++ (blanks' ++ (y ++ rest)))))
  have hspaces := readSpaces_complete hblanks
    (hm.notAhead (apart_isSpace (by decide)).symm (comma ++ (blanks' ++ (y ++ rest))))
  have hmonth := readMonthName_complete hm (notAhead_optional_char hcomma (by decide)
    (hblanks'.notAhead (apart_isSpace (by decide)) (y ++ rest)))
  simp only [readDayFirst?, hmonth, hspaces, hday, hopt, hspaces', hread, hdate,
    Option.bind_eq_bind, Option.bind_some]

/-! ### Other forms -/

theorem readYearFirst_eq_none {n : Nat} (hw : Digits 1 2 w n) (hrest : NotAhead isDigit rest) :
    readYearFirst? (w ++ rest) = none := by
  have hlength : w.length < 4 := Nat.lt_of_le_of_lt hw.most (by decide)
  simp only [readYearFirst?, readDigits_eq_none hw.digits hlength hrest, Option.bind_eq_bind,
    Option.bind_none]

theorem readYearFirst_eq_none_of_notAhead (hs : NotAhead isDigit s) : readYearFirst? s = none := by
  simp only [readYearFirst?, readDigits_eq_none_of_notAhead (Nat.succ_pos 3) hs,
    Option.bind_eq_bind, Option.bind_none]

theorem readYearLast_eq_none {n : Nat} (hw : Digits 1 2 w n) (hrest : NotAhead isDigit rest)
    (hslash : NotAhead (· = '/') rest) : readYearLast? (w ++ rest) = none := by
  have hchar : readOneOf? ['/'] rest = none :=
    readOneOf_eq_none fun c hc => by simpa using hslash c hc
  simp only [readYearLast?, readDigits_complete hw (.inr hrest), hchar, Option.bind_eq_bind,
    Option.bind_some, Option.bind_none]

theorem readYearLast_eq_none_of_notAhead (hs : NotAhead isDigit s) : readYearLast? s = none := by
  simp only [readYearLast?, readDigits_eq_none_of_notAhead Nat.one_pos hs, Option.bind_eq_bind,
    Option.bind_none]

theorem readMonthFirst_eq_none_of_notAhead (hs : NotAhead isLetter s) :
    readMonthFirst? s = none := by
  have hmonth : readMonthName? s = none := by
    rw [readMonthName?, hs.takeWhile_eq_nil]
    rfl
  simp only [readMonthFirst?, hmonth, Option.bind_eq_bind, Option.bind_none]

/-- The text of a date is read as that date, unless a digit follows. -/
theorem readDate_complete {date : Date} (h : DateText w date) (hrest : NotAhead isDigit rest) :
    readDate? (w ++ rest) = some (date, rest) := by
  cases h with
  | yearFirst hy ha hm hb hd hyear =>
    simp only [List.append_assoc, List.cons_append, readDate?,
      readYearFirst_complete hy ha hm hb hd hyear hrest]
    rfl
  | @yearLast m d y _ _ hm hd hy hyear =>
    have hslash : NotAhead isDigit ('/' :: (d ++ '/' :: (y ++ rest))) := notAhead_cons rfl
    simp only [List.append_assoc, List.cons_append, readDate?, readYearFirst_eq_none hm hslash,
      readYearLast_complete hm hd hy hyear]
    rfl
  | @monthFirst m blanks d comma blanks' y _ _ hm hblanks hd hcomma hblanks' hy hyear =>
    have hletter := hm.notAhead apart_isLetter_isDigit
      (blanks ++ (d ++ (comma ++ (blanks' ++ (y ++ rest)))))
    simp only [List.append_assoc, readDate?, readYearFirst_eq_none_of_notAhead hletter,
      readYearLast_eq_none_of_notAhead hletter,
      readMonthFirst_complete hm hblanks hd hcomma hblanks' hy hyear]
    rfl
  | @dayFirst d blanks m comma blanks' y _ _ hd hblanks hm hcomma hblanks' hy hyear =>
    have hread := readDayFirst_complete hd hblanks hm hcomma hblanks' hy hyear rest
    have hdigit := hd.notAhead apart_isLetter_isDigit.symm
      (blanks ++ (m ++ (comma ++ (blanks' ++ (y ++ rest)))))
    obtain ⟨digits, next, hnext, hdigits, hnodigit, hslash⟩ :=
      hd.exists_digits (apart_char (c := '/') rfl)
        (hblanks.notAhead (apart_isSpace (by decide)) (m ++ (comma ++ (blanks' ++ (y ++ rest)))))
        (hblanks.notAhead (apart_isSpace (by decide)) _)
    have hfirst := readYearFirst_eq_none hdigits hnodigit
    have hlast := readYearLast_eq_none hdigits hnodigit hslash
    rw [← hnext] at hfirst hlast
    simp only [List.append_assoc, readDate?, hfirst, hlast,
      readMonthFirst_eq_none_of_notAhead hdigit, hread]
    rfl

end FilterSql.Timestamp
