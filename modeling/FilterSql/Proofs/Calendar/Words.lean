import FilterSql.Proofs.Calendar.Grammar
import FilterSql.Proofs.Text.Digits

/-!
# Reading the words of dates and times

Each reader of a word takes as much as it can. So a word is read from the front of a text if the
text after it does not go on with it, and only words are read.

## Main definitions

* `FilterSql.Timestamp.NotAhead`: a text that does not start with a character of a kind.
* `FilterSql.Timestamp.Apart`: two kinds without a common character.
* `FilterSql.Timestamp.Lettered`: a word of letters.

## Main results

* `FilterSql.Timestamp.readDigits_sound`, `FilterSql.Timestamp.readDigits_complete`: rows of digits.
* `FilterSql.Timestamp.readAnyWord_sound`, `FilterSql.Timestamp.readAnyWord_complete`: words in any
  case.
* `FilterSql.Timestamp.readMonthName_sound`, `FilterSql.Timestamp.readMonthName_complete`: months.
* `FilterSql.Timestamp.readDay_sound`, `FilterSql.Timestamp.readDay_complete`: days.
-/

namespace FilterSql.Timestamp

open Text

variable {s t w rest : List Char} {kind : Char → Bool} {min max n : Nat}

/-! ### What comes next -/

/-- A text that does not start with a character of a kind. -/
def NotAhead (kind : Char → Bool) (s : List Char) : Prop :=
  ∀ c ∈ s.head?, kind c = false

theorem notAhead_nil : NotAhead kind [] := nofun

theorem notAhead_cons {c : Char} (h : kind c = false) : NotAhead kind (c :: s) := by
  rintro _ ⟨⟩
  exact h

/-- A text starts with no character of a kind if a part at its front has none and it does not go on
with one. -/
theorem NotAhead.append (hs : NotAhead kind s) (ht : NotAhead kind t) : NotAhead kind (s ++ t) := by
  cases s with
  | nil => exact ht
  | cons c s => exact notAhead_cons (hs c rfl)

theorem NotAhead.imp {kind' : Char → Bool} (h : NotAhead kind s)
    (himp : ∀ c, kind c = false → kind' c = false) : NotAhead kind' s :=
  fun c hc => himp c (h c hc)

theorem notAhead_of_forall (h : ∀ c ∈ s, kind c = false) : NotAhead kind s :=
  fun c hc => h c (List.mem_of_mem_head? hc)

/-- No character is of both of two kinds. -/
def Apart (kind kind' : Char → Bool) : Prop :=
  ∀ c, kind c = true → kind' c = false

theorem Apart.symm {kind' : Char → Bool} (h : Apart kind kind') : Apart kind' kind := by
  intro c hc
  rw [← Bool.not_eq_true]
  intro hc'
  rw [h c hc'] at hc
  cases hc

/-- A row of characters of one kind does not start with one of another kind, whatever follows. -/
theorem Row.notAhead {kind' : Char → Bool} (h : Row kind w) (hkind : Apart kind kind')
    (rest : List Char) : NotAhead kind' (w ++ rest) := by
  obtain ⟨c, t, rfl⟩ := List.exists_cons_of_ne_nil h.nonempty
  exact notAhead_cons (hkind c (h.all c List.mem_cons_self))

theorem NotAhead.takeWhile_eq_nil (h : NotAhead kind s) : s.takeWhile kind = [] := by
  cases s with
  | nil => rfl
  | cons c s => exact List.takeWhile_cons_of_neg (by simp [h c rfl])

theorem NotAhead.dropWhile_eq_self (h : NotAhead kind s) : s.dropWhile kind = s := by
  cases s with
  | nil => rfl
  | cons c s => exact List.dropWhile_cons_of_neg (by simp [h c rfl])

/-- A part of characters of one kind ends where the text does not go on with that kind. -/
theorem takeWhile_append_of_notAhead (hw : ∀ c ∈ w, kind c = true) (hrest : NotAhead kind rest) :
    (w ++ rest).takeWhile kind = w := by
  rw [List.takeWhile_append_of_pos hw, hrest.takeWhile_eq_nil, List.append_nil]

theorem dropWhile_append_of_notAhead (hw : ∀ c ∈ w, kind c = true) (hrest : NotAhead kind rest) :
    (w ++ rest).dropWhile kind = rest := by
  rw [List.dropWhile_append_of_pos hw, hrest.dropWhile_eq_self]

theorem forall_of_mem_takeWhile (s : List Char) : ∀ c ∈ s.takeWhile kind, kind c = true :=
  List.all_eq_true.1 List.all_takeWhile

/-! ### Digits -/

theorem Digits.lt (h : Digits min max w n) : n < 10 ^ max :=
  calc n = natOfDigits w := h.value.symm
    _ < 10 ^ w.length := natOfDigits_lt h.digits
    _ ≤ 10 ^ max := Nat.pow_le_pow_right (by decide) h.most

theorem Digits.length_eq (h : Digits max max w n) : w.length = max :=
  Nat.le_antisymm h.most h.least

theorem Digits.row (h : Digits min max w n) (hmin : 0 < min) : Row isDigit w :=
  ⟨List.ne_nil_of_length_pos (Nat.lt_of_lt_of_le hmin h.least), h.digits⟩

theorem readDigits_sound (h : readDigits? min max s = some (n, rest)) :
    ∃ w, s = w ++ rest ∧ Digits min max w n := by
  simp only [readDigits?] at h
  split at h
  · cases h
  · rename_i hleast
    obtain ⟨rfl, rfl⟩ := Prod.mk.inj (Option.some.inj h)
    have hprefix : (s.takeWhile isDigit).take max <+: s :=
      (List.take_prefix _ _).trans (List.takeWhile_prefix isDigit)
    refine ⟨(s.takeWhile isDigit).take max, (List.prefix_iff_eq_append.1 hprefix).symm,
      Nat.le_of_not_lt hleast, List.length_take_le _ _, fun c hc => ?_, rfl⟩
    exact forall_of_mem_takeWhile s c (List.mem_of_mem_take hc)

/-- A row of digits is read if there is no room for more, or if no further digit follows. -/
theorem readDigits_complete (h : Digits min max w n)
    (hrest : w.length = max ∨ NotAhead isDigit rest) :
    readDigits? min max (w ++ rest) = some (n, rest) := by
  have htaken : ((w ++ rest).takeWhile isDigit).take max = w := by
    rw [List.takeWhile_append_of_pos h.digits]
    rcases hrest with hfull | hrest
    · rw [← hfull, List.take_left]
    · rw [hrest.takeWhile_eq_nil, List.append_nil, List.take_of_length_le h.most]
  rw [readDigits?, htaken, if_neg (Nat.not_lt.2 h.least), List.drop_left, h.value]

/-- A row of too few digits is not read. -/
theorem readDigits_eq_none (hw : ∀ c ∈ w, isDigit c = true) (hlength : w.length < min)
    (hrest : NotAhead isDigit rest) : readDigits? min max (w ++ rest) = none := by
  have htaken : ((w ++ rest).takeWhile isDigit).take max = w.take max := by
    rw [takeWhile_append_of_notAhead hw hrest]
  rw [readDigits?, htaken, if_pos (Nat.lt_of_le_of_lt (List.length_take_le' _ _) hlength)]

theorem readDigits_eq_none_of_notAhead (hmin : 0 < min) (hs : NotAhead isDigit s) :
    readDigits? min max s = none :=
  readDigits_eq_none (w := []) nofun hmin hs

/-! ### Characters and words -/

theorem readOneOf_sound {allowed : List Char} {c : Char}
    (h : readOneOf? allowed s = some (c, rest)) : s = c :: rest ∧ c ∈ allowed := by
  cases s with
  | nil => cases h
  | cons d s =>
    rw [readOneOf?] at h
    split at h
    · obtain ⟨rfl, rfl⟩ := Prod.mk.inj (Option.some.inj h)
      exact ⟨rfl, by assumption⟩
    · cases h

theorem readOneOf_complete {allowed : List Char} {c : Char} (h : c ∈ allowed) (rest : List Char) :
    readOneOf? allowed (c :: rest) = some (c, rest) := by
  rw [readOneOf?, if_pos h]

theorem readOneOf_eq_none {allowed : List Char} (h : ∀ c ∈ s.head?, c ∉ allowed) :
    readOneOf? allowed s = none := by
  cases s with
  | nil => rfl
  | cons c s => rw [readOneOf?, if_neg (h c rfl)]

theorem AnyCase.length_eq {word : String} (h : AnyCase word w) : w.length = word.length := by
  rw [← String.length_toList, ← h, lowerChars, List.length_map]

theorem readWord_sound {word : String} {u : Unit} (h : readWord? word s = some (u, rest)) :
    ∃ w, s = w ++ rest ∧ AnyCase word w := by
  rw [readWord?] at h
  split at h
  · rename_i hword
    obtain ⟨-, rfl⟩ := Prod.mk.inj (Option.some.inj h)
    exact ⟨s.take word.length, (List.take_append_drop _ _).symm, hword⟩
  · cases h

theorem readWord_complete {word : String} (h : AnyCase word w) (rest : List Char) :
    readWord? word (w ++ rest) = some ((), rest) := by
  have hlower : lowerChars w = word.toList := h
  rw [readWord?, ← h.length_eq, List.take_left, if_pos hlower, List.drop_left]

/-- A word is not read where another one stands, if neither begins the other. -/
theorem readWord_eq_none {word other : String} (h : AnyCase other w)
    (hword : ¬ word.toList <+: other.toList) (hother : ¬ other.toList <+: word.toList)
    (rest : List Char) : readWord? word (w ++ rest) = none := by
  rw [readWord?, if_neg]
  intro htaken
  have hprefix : lowerChars ((w ++ rest).take word.length) <+: lowerChars (w ++ rest) := by
    rw [lowerChars, lowerChars]
    exact (List.take_prefix _ _).map _
  have hprefix' : lowerChars w <+: lowerChars (w ++ rest) := by
    rw [lowerChars, lowerChars]
    exact (List.prefix_append w rest).map _
  rw [htaken] at hprefix
  rw [h] at hprefix'
  rcases List.prefix_or_prefix_of_prefix hprefix hprefix' with hle | hle
  · exact hword hle
  · exact hother hle

theorem readAnyWord_sound {words : List String} {u : Unit}
    (h : readAnyWord? words s = some (u, rest)) :
    ∃ word ∈ words, ∃ w, s = w ++ rest ∧ AnyCase word w := by
  obtain ⟨word, hword, hread⟩ := List.exists_of_findSome?_eq_some h
  exact ⟨word, hword, readWord_sound hread⟩

/-- A word out of a list of which none begins another one is read. -/
theorem readAnyWord_complete {words : List String} {word : String}
    (hwords : words.Pairwise fun u v => ¬ u.toList <+: v.toList ∧ ¬ v.toList <+: u.toList)
    (hword : word ∈ words) (h : AnyCase word w) (rest : List Char) :
    readAnyWord? words (w ++ rest) = some ((), rest) := by
  induction words with
  | nil => cases hword
  | cons first words ih =>
    obtain ⟨hfirst, hwords⟩ := List.pairwise_cons.1 hwords
    rw [readAnyWord?, List.findSome?_cons]
    rcases List.mem_cons.1 hword with rfl | hword
    · rw [readWord_complete h]
    · rw [readWord_eq_none h (hfirst word hword).1 (hfirst word hword).2]
      exact ih hwords hword

theorem isLetter_iff {c : Char} : isLetter c = true ↔
    (97 ≤ c.toNat ∧ c.toNat ≤ 122) ∨ (65 ≤ c.toNat ∧ c.toNat ≤ 90) := by
  rw [isLetter, Bool.or_eq_true, Bool.and_eq_true, Bool.and_eq_true, decide_eq_true_iff,
    decide_eq_true_iff, decide_eq_true_iff, decide_eq_true_iff]
  exact Iff.rfl

theorem isLetter_of_isLetter_toLower {c : Char} (h : isLetter c.toLower = true) :
    isLetter c = true := by
  by_cases hc : 'A' ≤ c ∧ c ≤ 'Z'
  · exact isLetter_iff.2 (.inr hc)
  · have hlower : c.toLower = c := dif_neg fun hval => hc ⟨hval.1, hval.2⟩
    rwa [hlower] at h

theorem apart_isLetter_isDigit : Apart isLetter isDigit := by
  intro c hc
  rw [isLetter_iff] at hc
  rw [← Bool.not_eq_true, isDigit_iff]
  omega

/-- A word of letters. -/
structure Lettered (word : String) : Prop where
  nonempty : word.toList.isEmpty = false
  letters : word.toList.all isLetter = true

instance (word : String) : Decidable (Lettered word) :=
  decidable_of_iff (word.toList.isEmpty = false ∧ word.toList.all isLetter = true)
    ⟨fun h => ⟨h.1, h.2⟩, fun h => ⟨h.1, h.2⟩⟩

/-- A word of letters is a row of letters in any case. -/
theorem AnyCase.row {word : String} (h : AnyCase word w) (hword : Lettered word) :
    Row isLetter w := by
  refine ⟨?_, fun c hc => isLetter_of_isLetter_toLower
    (List.all_eq_true.1 hword.letters _ ?_)⟩
  · rintro rfl
    have hnonempty := hword.nonempty
    rw [← h] at hnonempty
    cases hnonempty
  · rw [← h]
    exact List.mem_map_of_mem hc

theorem AnyCase.row_of_mem {words : List String} {word : String}
    (hwords : ∀ word ∈ words, Lettered word) (hword : word ∈ words) (h : AnyCase word w) :
    Row isLetter w :=
  h.row (hwords word hword)

/-- A word is not read where no letter stands. -/
theorem readWord_eq_none_of_notAhead {word : String} (hword : Lettered word)
    (hs : NotAhead isLetter s) : readWord? word s = none := by
  cases h : readWord? word s with
  | none => rfl
  | some r =>
    obtain ⟨w, rfl, hw⟩ := readWord_sound h
    have hrow := hw.row hword
    obtain ⟨c, t, rfl⟩ := List.exists_cons_of_ne_nil hrow.nonempty
    have hc := hrow.all c List.mem_cons_self
    rw [hs c rfl] at hc
    cases hc

theorem readAnyWord_eq_none {words : List String} (hwords : ∀ word ∈ words, Lettered word)
    (hs : NotAhead isLetter s) : readAnyWord? words s = none :=
  List.findSome?_eq_none_iff.2 fun word hword => readWord_eq_none_of_notAhead (hwords word hword) hs

/-! ### Parts that can be left out -/

section Optional

variable {α : Type} {part : List Char → Option (α × List Char)} {x : α}

theorem optional_of_eq_some (h : part s = some (x, rest)) : optional part s = (some x, rest) := by
  rw [optional, h]

theorem optional_of_eq_none (h : part s = none) : optional part s = (none, s) := by
  rw [optional, h]

/-- What a part that can be left out has read is nothing, or what the part reads. -/
theorem optional_sound {P : List Char → α → Prop}
    (hpart : ∀ x rest, part s = some (x, rest) → ∃ w, s = w ++ rest ∧ P w x) {y : Option α}
    (h : optional part s = (y, rest)) :
    ∃ w, s = w ++ rest ∧ ((w = [] ∧ y = none) ∨ ∃ x, y = some x ∧ P w x) := by
  rw [optional] at h
  split at h
  · rename_i x left hread
    obtain ⟨rfl, rfl⟩ := Prod.mk.inj h
    obtain ⟨w, hw, hx⟩ := hpart x left hread
    exact ⟨w, hw, .inr ⟨x, rfl, hx⟩⟩
  · obtain ⟨rfl, rfl⟩ := Prod.mk.inj h
    exact ⟨[], rfl, .inl ⟨rfl, rfl⟩⟩

/-- A part that means something when it is left out has been read or left out. -/
theorem optional_getD_sound {P : List Char → α → Prop} {absent : α} (hnil : P [] absent)
    (hpart : ∀ x rest, part s = some (x, rest) → ∃ w, s = w ++ rest ∧ P w x) {y : Option α}
    (h : optional part s = (y, rest)) : ∃ w, s = w ++ rest ∧ P w (y.getD absent) := by
  obtain ⟨w, hs, ⟨rfl, rfl⟩ | ⟨x, rfl, hw⟩⟩ := optional_sound hpart h
  · exact ⟨[], hs, hnil⟩
  · exact ⟨w, hs, hw⟩

/-- A character that can be left out. -/
theorem optional_char_sound {c : Char} {y : Option Char}
    (h : optional (readOneOf? [c]) s = (y, rest)) :
    ∃ w, s = w ++ rest ∧ (w = [] ∨ w = [c]) := by
  have hpart (d : Char) (left : List Char) (hd : readOneOf? [c] s = some (d, left)) :
      ∃ w, s = w ++ left ∧ w = [c] := by
    obtain ⟨rfl, hmem⟩ := readOneOf_sound hd
    exact ⟨[d], rfl, by rw [List.mem_singleton.1 hmem]⟩
  obtain ⟨w, hw, ⟨rfl, -⟩ | ⟨-, -, rfl⟩⟩ := optional_sound hpart h
  · exact ⟨[], hw, .inl rfl⟩
  · exact ⟨[c], hw, .inr rfl⟩

theorem optional_char_complete {c : Char} (hw : w = [] ∨ w = [c])
    (hrest : NotAhead (· = c) rest) : (optional (readOneOf? [c]) (w ++ rest)).2 = rest := by
  rcases hw with rfl | rfl
  · rw [List.nil_append, optional_of_eq_none]
    refine readOneOf_eq_none fun d hd => ?_
    simpa using hrest d hd
  · rw [List.singleton_append, optional_of_eq_some (readOneOf_complete List.mem_cons_self _)]

end Optional

/-! ### Blanks -/

theorem readSpaces_sound {u : Unit} (h : readSpaces? s = some (u, rest)) :
    ∃ w, s = w ++ rest ∧ Row isSpace w := by
  rw [readSpaces?] at h
  split at h
  · cases h
  · rename_i hnonempty
    obtain ⟨-, rfl⟩ := Prod.mk.inj (Option.some.inj h)
    exact ⟨s.takeWhile isSpace, List.takeWhile_append_dropWhile.symm,
      by simpa using hnonempty, forall_of_mem_takeWhile s⟩

theorem readSpaces_complete (hw : Row isSpace w) (hrest : NotAhead isSpace rest) :
    readSpaces? (w ++ rest) = some ((), rest) := by
  have hnonempty : w.isEmpty = false := by simpa using hw.nonempty
  rw [readSpaces?, takeWhile_append_of_notAhead hw.all hrest,
    dropWhile_append_of_notAhead hw.all hrest, hnonempty]
  rfl

/-- The blanks at the start of a text. -/
theorem exists_blanks (s : List Char) :
    ∃ blanks, (∀ c ∈ blanks, isSpace c = true) ∧ s = blanks ++ s.dropWhile isSpace :=
  ⟨s.takeWhile isSpace, forall_of_mem_takeWhile s, List.takeWhile_append_dropWhile.symm⟩

/-! ### Kinds of characters -/

/-- A character that is not of a kind is apart from it. -/
theorem apart_char {c : Char} (h : kind c = false) : Apart kind (· = c) := by
  rintro d hd
  rw [decide_eq_false_iff_not]
  rintro rfl
  rw [h] at hd
  cases hd

/-- Blanks are not of a kind if neither of the two is. -/
theorem apart_isSpace (h : kind ' ' = false ∧ kind '\t' = false) : Apart isSpace kind := by
  intro c hc
  have hcases : c = ' ' ∨ c = '\t' := by simpa [isSpace] using hc
  rcases hcases with rfl | rfl
  · exact h.1
  · exact h.2

theorem apart_isGap
    (h : kind ' ' = false ∧ kind '\t' = false ∧ kind '\r' = false ∧ kind '\n' = false) :
    Apart isGap kind := by
  intro c hc
  have hcases : c = ' ' ∨ c = '\t' ∨ c = '\r' ∨ c = '\n' := by
    simpa [isGap, or_assoc] using hc
  obtain ⟨hspace, htab, hreturn, hline⟩ := h
  rcases hcases with rfl | rfl | rfl | rfl <;> assumption

theorem notAhead_optional_char {c : Char} (hw : w = [] ∨ w = [c]) (hc : kind c = false)
    (hrest : NotAhead kind rest) : NotAhead kind (w ++ rest) := by
  rcases hw with rfl | rfl
  · exact hrest
  · exact notAhead_cons hc

/-! ### Months and days -/

theorem lettered_of_mem_monthNames : ∀ name ∈ monthNames, Lettered name := by
  decide

/-- The names of the months differ in their first three letters. -/
theorem nodup_monthNames : (monthNames.map fun name => name.toList.take 3).Nodup := by
  decide

/-- At least three letters begin the name of at most one month. -/
theorem eq_of_monthNames {letters : List Char} (hlength : 3 ≤ letters.length) {i j : Nat}
    {name name' : String} (hi : monthNames[i]? = some name) (hj : monthNames[j]? = some name')
    (h : letters <+: name.toList) (h' : letters <+: name'.toList) : i = j := by
  have hshort {word : String} (hword : letters <+: word.toList) :
      word.toList.take 3 = letters.take 3 := by
    obtain ⟨rest, hrest⟩ := hword
    rw [← hrest, List.take_append_of_le_length hlength]
  have hlt : i < (monthNames.map fun name => name.toList.take 3).length := by
    rw [List.length_map]
    exact (List.getElem?_eq_some_iff.1 hi).1
  refine (List.getElem?_inj hlt nodup_monthNames).1 ?_
  rw [List.getElem?_map, List.getElem?_map, hi, hj, Option.map_some, Option.map_some, hshort h,
    hshort h']

theorem monthOfName_eq_some_iff {letters : List Char} {month : Nat} :
    monthOfName? letters = some month ↔ 3 ≤ letters.length ∧
      ∃ index name, monthNames[index]? = some name ∧ lowerChars letters <+: name.toList ∧
        month = index + 1 := by
  rw [monthOfName?]
  split
  case isTrue h =>
    constructor
    · nofun
    · rintro ⟨hlength, -⟩
      omega
  case isFalse h =>
    have hlength : 3 ≤ letters.length := Nat.le_of_not_lt h
    rw [Option.map_eq_some_iff]
    constructor
    · rintro ⟨index, hindex, rfl⟩
      obtain ⟨hlt, hname, -⟩ := List.findIdx?_eq_some_iff_getElem.1 hindex
      exact ⟨hlength, index, _, List.getElem?_eq_getElem hlt,
        List.isPrefixOf_iff_prefix.1 hname, rfl⟩
    · rintro ⟨-, index, name, hname, hletters, rfl⟩
      refine ⟨index, List.findIdx?_eq_some_iff_getElem.2 ?_, rfl⟩
      obtain ⟨hlt, rfl⟩ := List.getElem?_eq_some_iff.1 hname
      refine ⟨hlt, List.isPrefixOf_iff_prefix.2 hletters, fun j hj hfirst => ?_⟩
      have hlower : 3 ≤ (lowerChars letters).length := by rwa [lowerChars, List.length_map]
      have hjlt : j < monthNames.length := Nat.lt_trans hj hlt
      exact Nat.ne_of_lt hj (eq_of_monthNames hlower (List.getElem?_eq_getElem hjlt) hname
        (List.isPrefixOf_iff_prefix.1 hfirst) hletters)

/-- The letters of a month are letters. -/
theorem isLetter_of_begins {letters : List Char} {index : Nat} {name : String}
    (hname : monthNames[index]? = some name) (h : lowerChars letters <+: name.toList) :
    ∀ c ∈ letters, isLetter c = true := by
  intro c hc
  have hmem : c.toLower ∈ name.toList := h.mem (List.mem_map_of_mem hc)
  have hlettered := lettered_of_mem_monthNames name (List.mem_of_getElem? hname)
  exact isLetter_of_isLetter_toLower (List.all_eq_true.1 hlettered.letters _ hmem)

theorem readMonthName_sound {month : Nat} (h : readMonthName? s = some (month, rest)) :
    ∃ w, s = w ++ rest ∧ MonthText w month := by
  obtain ⟨_, hmonth, hresult⟩ := Option.bind_eq_some_iff.1 h
  obtain ⟨rfl, hrest⟩ := Prod.mk.inj (Option.some.inj hresult)
  obtain ⟨hlength, index, name, hname, hletters, rfl⟩ := monthOfName_eq_some_iff.1 hmonth
  obtain ⟨point, hpoint, hform⟩ := optional_char_sound (Prod.eta _).symm
  rw [hrest] at hpoint
  refine ⟨s.takeWhile isLetter ++ point, ?_, .intro hname hlength hletters hform⟩
  rw [List.append_assoc, ← hpoint, List.takeWhile_append_dropWhile]

theorem readMonthName_complete {month : Nat} (h : MonthText w month)
    (hrest : NotAhead (fun c => isLetter c || c = '.') rest) :
    readMonthName? (w ++ rest) = some (month, rest) := by
  cases h with
  | @intro letters point name index hname hlength hletters hpoint =>
    have hall := isLetter_of_begins hname hletters
    have hnext : NotAhead isLetter (point ++ rest) := by
      rcases hpoint with rfl | rfl
      · exact hrest.imp fun c hc => (Bool.or_eq_false_iff.1 hc).1
      · exact notAhead_cons rfl
    have hmonth := monthOfName_eq_some_iff.2 ⟨hlength, index, name, hname, hletters, rfl⟩
    have hleft := optional_char_complete hpoint
      (hrest.imp fun c hc => (Bool.or_eq_false_iff.1 hc).2)
    rw [List.append_assoc, readMonthName?, takeWhile_append_of_notAhead hall hnext,
      dropWhile_append_of_notAhead hall hnext, hmonth]
    exact congrArg (fun left => some (index + 1, left)) hleft

theorem readDay_sound {day : Nat} (h : readDay? s = some (day, rest)) :
    ∃ w, s = w ++ rest ∧ DayText w day := by
  obtain ⟨⟨_, t⟩, hread, hresult⟩ := Option.bind_eq_some_iff.1 h
  obtain ⟨rfl, hrest⟩ := Prod.mk.inj (Option.some.inj hresult)
  obtain ⟨digits, rfl, hdigits⟩ := readDigits_sound hread
  have hending (u : Unit) (left : List Char)
      (hu : readAnyWord? ["st", "nd", "rd", "th"] t = some (u, left)) :
      ∃ w, t = w ++ left ∧ ∃ word ∈ ["st", "nd", "rd", "th"], AnyCase word w := by
    obtain ⟨word, hword, w, hw, hcase⟩ := readAnyWord_sound hu
    exact ⟨w, hw, word, hword, hcase⟩
  obtain ⟨ending, ht, hform⟩ := optional_sound hending (Prod.eta _).symm
  rw [hrest] at ht
  refine ⟨digits ++ ending, by rw [List.append_assoc, ← ht], .intro hdigits ?_⟩
  rcases hform with ⟨rfl, -⟩ | ⟨-, -, hword⟩
  · exact .inl rfl
  · exact .inr hword

theorem readDay_complete {day : Nat} (h : DayText w day)
    (hrest : NotAhead (fun c => isDigit c || isLetter c) rest) :
    readDay? (w ++ rest) = some (day, rest) := by
  cases h with
  | @intro digits ending _ hdigits hending =>
    rw [List.append_assoc, readDay?]
    rcases hending with rfl | ⟨word, hword, hending⟩
    · have hnext : NotAhead isDigit rest := hrest.imp fun c hc => (Bool.or_eq_false_iff.1 hc).1
      have hnone : readAnyWord? ["st", "nd", "rd", "th"] rest = none :=
        readAnyWord_eq_none (by decide) (hrest.imp fun c hc => (Bool.or_eq_false_iff.1 hc).2)
      rw [List.nil_append, readDigits_complete hdigits (.inr hnext)]
      simp [optional_of_eq_none hnone]
    · have hrow := AnyCase.row_of_mem (by decide) hword hending
      rw [readDigits_complete hdigits (.inr (hrow.notAhead apart_isLetter_isDigit rest))]
      have hread := readAnyWord_complete (by decide) hword hending rest
      simp [optional_of_eq_some hread]

/-! ### What months and days start with -/

theorem MonthText.notAhead {month : Nat} (h : MonthText w month) (hkind : Apart isLetter kind)
    (rest : List Char) : NotAhead kind (w ++ rest) := by
  cases h with
  | @intro letters point name index hname hlength hletters hpoint =>
    have hrow : Row isLetter letters :=
      ⟨List.ne_nil_of_length_pos (by omega), isLetter_of_begins hname hletters⟩
    rw [List.append_assoc]
    exact hrow.notAhead hkind _

/-- A day starts with its digits, and what follows is neither one of them nor of a kind that is not
in its ending. -/
theorem DayText.exists_digits {day : Nat} (h : DayText w day) (hkind : Apart isLetter kind)
    (hrest : NotAhead kind rest) (hdigit : NotAhead isDigit rest) :
    ∃ digits next, w ++ rest = digits ++ next ∧ Digits 1 2 digits day ∧ NotAhead isDigit next ∧
      NotAhead kind next := by
  cases h with
  | @intro digits ending _ hdigits hending =>
    refine ⟨digits, ending ++ rest, by rw [List.append_assoc], hdigits, ?_⟩
    rcases hending with rfl | ⟨word, hword, hending⟩
    · exact ⟨hdigit, hrest⟩
    · have hrow := AnyCase.row_of_mem (by decide) hword hending
      exact ⟨hrow.notAhead apart_isLetter_isDigit rest, hrow.notAhead hkind rest⟩

theorem DayText.notAhead {day : Nat} (h : DayText w day) (hkind : Apart isDigit kind)
    (rest : List Char) : NotAhead kind (w ++ rest) := by
  cases h with
  | intro hdigits hending =>
    rw [List.append_assoc]
    exact (hdigits.row (by decide)).notAhead hkind _

end FilterSql.Timestamp
