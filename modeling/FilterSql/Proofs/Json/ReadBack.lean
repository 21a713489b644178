import FilterSql.Proofs.Json.Number
import FilterSql.Proofs.Json.Quoted

/-!
# Values read back

A value is read back from its text if its numbers are and if it is not nested too deeply. In a list
or in an object it is followed by a comma or by what closes the list or object, and none of these
continues a number.

## Main definitions

* `FilterSql.Json.depth`: how deeply lists and objects are nested in a value.
* `FilterSql.Json.numbers`: the numbers in a value.
* `FilterSql.Json.ReadsBack`: a value that is read from its text, whatever follows.

## Main results

* `FilterSql.Json.readsBack`: values are read back.
* `FilterSql.Json.readTree_write`: a value is the value of its text.
* `FilterSql.Json.read_of_canonical`: so it is read back if its objects are sorted.
-/

namespace FilterSql.Json

/-! ### Parts of values -/

/-- A statement holds of every value if it holds of the plain ones and, given that it holds of the
parts of a list or an object, of the whole. -/
@[elab_as_elim, induction_eliminator]
theorem induction {motive : Json → Prop} (null : motive null) (bool : ∀ b, motive (bool b))
    (number : ∀ n, motive (number n)) (string : ∀ s, motive (string s))
    (array : ∀ items, (∀ x ∈ items, motive x) → motive (array items))
    (object : ∀ members, (∀ m ∈ members, motive m.2) → motive (object members)) (x : Json) :
    motive x :=
  @Json.rec motive (fun xs => ∀ x ∈ xs, motive x) (fun ms => ∀ m ∈ ms, motive m.2)
    (fun m => motive m.2) null bool number string array object (by simp)
    (fun _ _ hx hxs => List.forall_mem_cons.2 ⟨hx, hxs⟩) (by simp)
    (fun _ _ hm hms => List.forall_mem_cons.2 ⟨hm, hms⟩) (fun _ _ hx => hx) x

mutual

/-- How deeply lists and objects are nested in a value. -/
def depth : Json → Nat
  | array items => depthOfItems items + 1
  | object members => depthOfMembers members + 1
  | null => 0
  | bool _ => 0
  | number _ => 0
  | string _ => 0
termination_by structural x => x

/-- How deeply lists and objects are nested in the values of a list. -/
def depthOfItems : List Json → Nat
  | [] => 0
  | x :: xs => max (depth x) (depthOfItems xs)
termination_by structural xs => xs

/-- How deeply lists and objects are nested in the members of an object. -/
def depthOfMembers : List (String × Json) → Nat
  | [] => 0
  | (_, x) :: xs => max (depth x) (depthOfMembers xs)
termination_by structural xs => xs

end

mutual

/-- The numbers in a value. -/
def numbers : Json → List Number
  | array items => numbersOfItems items
  | object members => numbersOfMembers members
  | number n => [n]
  | null => []
  | bool _ => []
  | string _ => []
termination_by structural x => x

/-- The numbers in the values of a list. -/
def numbersOfItems : List Json → List Number
  | [] => []
  | x :: xs => numbers x ++ numbersOfItems xs
termination_by structural xs => xs

/-- The numbers in the members of an object. -/
def numbersOfMembers : List (String × Json) → List Number
  | [] => []
  | (_, x) :: xs => numbers x ++ numbersOfMembers xs
termination_by structural xs => xs

end

theorem depthOfItems_le_iff {d : Nat} {xs : List Json} :
    depthOfItems xs ≤ d ↔ ∀ x ∈ xs, x.depth ≤ d := by
  induction xs with
  | nil => simp [depthOfItems]
  | cons x xs ih => rw [depthOfItems, Nat.max_le, ih, List.forall_mem_cons]

theorem depthOfMembers_le_iff {d : Nat} {ms : List (String × Json)} :
    depthOfMembers ms ≤ d ↔ ∀ m ∈ ms, m.2.depth ≤ d := by
  induction ms with
  | nil => simp [depthOfMembers]
  | cons m ms ih => rw [depthOfMembers, Nat.max_le, ih, List.forall_mem_cons]

theorem mem_numbersOfItems_iff {n : Number} {xs : List Json} :
    n ∈ numbersOfItems xs ↔ ∃ x ∈ xs, n ∈ x.numbers := by
  induction xs with
  | nil => simp [numbersOfItems]
  | cons x xs ih => simp [numbersOfItems, ih]

theorem mem_numbersOfMembers_iff {n : Number} {ms : List (String × Json)} :
    n ∈ numbersOfMembers ms ↔ ∃ m ∈ ms, n ∈ m.2.numbers := by
  induction ms with
  | nil => simp [numbersOfMembers]
  | cons m ms ih => simp [numbersOfMembers, ih]

/-! ### Punctuation -/

section Punctuation

variable {first : Bool} {s : List Char}

theorem nextItem_end : nextItem first (']' :: s) = .ok (false, ']' :: s) := by
  simp [nextItem, skipBlanks_cons (c := ']') rfl]

theorem nextKey_first (key : String) :
    nextKey true (writeString key ++ s) = .ok (some key, s) := by
  obtain ⟨quoted, hquoted, hread⟩ := readString_writeString key s
  rw [hquoted]
  simp [nextKey, skipBlanks_cons (c := '"') rfl, hread, Except.map]

theorem nextKey_more (key : String) :
    nextKey false (',' :: (writeString key ++ s)) = .ok (some key, s) := by
  obtain ⟨quoted, hquoted, hread⟩ := readString_writeString key s
  rw [hquoted]
  simp [nextKey, skipBlanks_cons (c := ',') rfl, skipBlanks_cons (c := '"') rfl, hread, Except.map]

theorem nextKey_end : nextKey first ('\x7d' :: s) = .ok (none, '\x7d' :: s) := by
  simp [nextKey, skipBlanks_cons (c := '\x7d') rfl]

theorem readColon_colon : readColon (':' :: s) = .ok s := by
  simp [readColon, skipBlanks_cons (c := ':') rfl]

end Punctuation

/-! ### Values -/

/-- A value that is read from its text, whatever follows, with so many levels of lists and objects
to go. -/
structure ReadsBack (d : Nat) (x : Json) : Prop where
  /-- The text shows at its start that a list does not end here. -/
  starts : ∃ c s, write x = c :: s ∧ isJsonBlank c = false ∧ c ≠ ']'
  /-- The value is read from the text. -/
  reads : ∀ measure rest, 2 * (write x).length ≤ measure → EndsNumber rest →
    readValue measure d (write x ++ rest) = .ok (x, rest)

theorem ReadsBack.length_pos {d : Nat} {x : Json} (h : x.ReadsBack d) : 0 < (write x).length := by
  obtain ⟨c, s, hcs, -⟩ := h.starts
  simp [hcs]

theorem ReadsBack.of_succ {d : Nat} {x : Json}
    (starts : ∃ c s, write x = c :: s ∧ isJsonBlank c = false ∧ c ≠ ']')
    (reads : ∀ measure rest, 2 * (write x).length ≤ measure + 1 → EndsNumber rest →
      readValue (measure + 1) d (write x ++ rest) = .ok (x, rest)) : x.ReadsBack d := by
  refine ⟨starts, fun measure rest hm hrest => ?_⟩
  obtain ⟨c, s, hcs, -⟩ := starts
  obtain ⟨m, rfl⟩ : ∃ m, measure = m + 1 := ⟨measure - 1, by simp [hcs] at hm; omega⟩
  exact reads m rest hm hrest

theorem ReadsBack.nextItem_first {d : Nat} {x : Json} (h : x.ReadsBack d) (s : List Char) :
    nextItem true (write x ++ s) = .ok (true, write x ++ s) := by
  obtain ⟨c, t, hct, hblank, hend⟩ := h.starts
  simp [nextItem, hct, skipBlanks_cons hblank]

theorem ReadsBack.nextItem_more {d : Nat} {x : Json} (h : x.ReadsBack d) (s : List Char) :
    nextItem false (',' :: (write x ++ s)) = .ok (true, write x ++ s) := by
  obtain ⟨c, t, hct, hblank, hend⟩ := h.starts
  simp [nextItem, hct, skipBlanks_cons (c := ',') rfl, skipBlanks_cons hblank, hend]

/-- The measure of the text that is left suffices to read a value from it. -/
theorem ReadsBack.readValue_measureOf {d : Nat} {x : Json} (h : x.ReadsBack d) {rest : List Char}
    (hrest : EndsNumber rest) :
    readValue (measureOf (write x ++ rest)) d (write x ++ rest) = .ok (x, rest) := by
  refine h.reads _ rest ?_ hrest
  rw [measureOf, List.length_append]
  omega

theorem endsNumber_writeMoreItems (xs : List Json) (rest : List Char) :
    EndsNumber (writeMoreItems xs ++ rest) := by
  cases xs with
  | nil => exact endsNumber_bracket rest
  | cons x xs => exact endsNumber_comma _

theorem endsNumber_writeMoreMembers (ms : List (String × Json)) (rest : List Char) :
    EndsNumber (writeMoreMembers ms ++ rest) := by
  cases ms with
  | nil => exact endsNumber_brace rest
  | cons m ms => exact endsNumber_comma _

variable {d measure : Nat}

/-- The values of a list after the first are read back. -/
theorem readItems_writeMoreItems {xs : List Json} (h : ∀ x ∈ xs, x.ReadsBack d)
    (hm : 2 * (writeMoreItems xs).length ≤ measure) (rest : List Char) :
    readItems measure d false (writeMoreItems xs ++ rest) = .ok (xs, rest) := by
  induction xs generalizing measure with
  | nil =>
    obtain ⟨m, rfl⟩ : ∃ m, measure = m + 1 := ⟨measure - 1, by simp [writeMoreItems] at hm; omega⟩
    rw [readItems, writeMoreItems, List.singleton_append, nextItem_end]
    rfl
  | cons x xs ih =>
    obtain ⟨hx, hxs⟩ := List.forall_mem_cons.1 h
    have hlength : (writeMoreItems (x :: xs)).length =
        (write x).length + (writeMoreItems xs).length + 1 := by
      simp [writeMoreItems]
    obtain ⟨m, rfl⟩ : ∃ m, measure = m + 1 := ⟨measure - 1, by omega⟩
    have hnext : nextItem false (writeMoreItems (x :: xs) ++ rest) =
        .ok (true, write x ++ (writeMoreItems xs ++ rest)) := by
      rw [writeMoreItems, List.cons_append, List.cons_append, List.append_assoc]
      exact hx.nextItem_more _
    have hvalue := hx.reads m _ (by omega) (endsNumber_writeMoreItems xs rest)
    have hmore : readItems m d false (writeMoreItems xs ++ rest) = .ok (xs, rest) :=
      ih hxs (by omega)
    simp only [readItems, hnext, hvalue, hmore, bind, Except.bind, if_true]

/-- The values of a list are read back. -/
theorem readItems_writeItems {xs : List Json} (h : ∀ x ∈ xs, x.ReadsBack d)
    (hm : 2 * (writeItems xs).length ≤ measure) (rest : List Char) :
    readItems measure d true (writeItems xs ++ rest) = .ok (xs, rest) := by
  cases xs with
  | nil =>
    obtain ⟨m, rfl⟩ : ∃ m, measure = m + 1 := ⟨measure - 1, by simp [writeItems] at hm; omega⟩
    rw [readItems, writeItems, List.singleton_append, nextItem_end]
    rfl
  | cons x xs =>
    obtain ⟨hx, hxs⟩ := List.forall_mem_cons.1 h
    have hpos := hx.length_pos
    have hclosed : 0 < (writeMoreItems xs).length := by cases xs <;> simp [writeMoreItems]
    have hlength : (writeItems (x :: xs)).length =
        (write x).length + (writeMoreItems xs).length := by
      simp [writeItems]
    obtain ⟨m, rfl⟩ : ∃ m, measure = m + 1 := ⟨measure - 1, by omega⟩
    have hnext : nextItem true (writeItems (x :: xs) ++ rest) =
        .ok (true, write x ++ (writeMoreItems xs ++ rest)) := by
      rw [writeItems, List.append_assoc]
      exact hx.nextItem_first _
    have hvalue := hx.reads m _ (by omega) (endsNumber_writeMoreItems xs rest)
    have hmore : readItems m d false (writeMoreItems xs ++ rest) = .ok (xs, rest) :=
      readItems_writeMoreItems hxs (by omega) rest
    simp only [readItems, hnext, hvalue, hmore, bind, Except.bind, if_true]

/-- The members of an object after the first are read back. -/
theorem readMembers_writeMoreMembers {ms : List (String × Json)} (h : ∀ m ∈ ms, m.2.ReadsBack d)
    (hm : 2 * (writeMoreMembers ms).length ≤ measure) (rest : List Char) :
    readMembers measure d false (writeMoreMembers ms ++ rest) = .ok (ms, rest) := by
  induction ms generalizing measure with
  | nil =>
    obtain ⟨m, rfl⟩ : ∃ m, measure = m + 1 :=
      ⟨measure - 1, by simp [writeMoreMembers] at hm; omega⟩
    rw [readMembers, writeMoreMembers, List.singleton_append, nextKey_end]
    rfl
  | cons member ms ih =>
    obtain ⟨key, x⟩ := member
    obtain ⟨(hx : x.ReadsBack d), hms⟩ := List.forall_mem_cons.1 h
    have hlength : (writeMoreMembers ((key, x) :: ms)).length =
        (writeString key).length + (write x).length + (writeMoreMembers ms).length + 2 := by
      simp [writeMoreMembers]
      omega
    obtain ⟨m, rfl⟩ : ∃ m, measure = m + 1 := ⟨measure - 1, by omega⟩
    have hnext : nextKey false (writeMoreMembers ((key, x) :: ms) ++ rest) =
        .ok (some key, ':' :: (write x ++ (writeMoreMembers ms ++ rest))) := by
      simp only [writeMoreMembers, List.cons_append, List.append_assoc]
      exact nextKey_more key
    have hvalue := hx.reads m _ (by omega) (endsNumber_writeMoreMembers ms rest)
    have hmore : readMembers m d false (writeMoreMembers ms ++ rest) = .ok (ms, rest) :=
      ih hms (by omega)
    simp only [readMembers, hnext, readColon_colon, hvalue, hmore, bind, Except.bind]

/-- The members of an object are read back. -/
theorem readMembers_writeMembers {ms : List (String × Json)} (h : ∀ m ∈ ms, m.2.ReadsBack d)
    (hm : 2 * (writeMembers ms).length ≤ measure) (rest : List Char) :
    readMembers measure d true (writeMembers ms ++ rest) = .ok (ms, rest) := by
  cases ms with
  | nil =>
    obtain ⟨m, rfl⟩ : ∃ m, measure = m + 1 := ⟨measure - 1, by simp [writeMembers] at hm; omega⟩
    rw [readMembers, writeMembers, List.singleton_append, nextKey_end]
    rfl
  | cons member ms =>
    obtain ⟨key, x⟩ := member
    obtain ⟨(hx : x.ReadsBack d), hms⟩ := List.forall_mem_cons.1 h
    have hlength : (writeMembers ((key, x) :: ms)).length =
        (writeString key).length + (write x).length + (writeMoreMembers ms).length + 1 := by
      simp [writeMembers]
      omega
    obtain ⟨m, rfl⟩ : ∃ m, measure = m + 1 := ⟨measure - 1, by omega⟩
    have hnext : nextKey true (writeMembers ((key, x) :: ms) ++ rest) =
        .ok (some key, ':' :: (write x ++ (writeMoreMembers ms ++ rest))) := by
      simp only [writeMembers, List.cons_append, List.append_assoc]
      exact nextKey_first key
    have hvalue := hx.reads m _ (by omega) (endsNumber_writeMoreMembers ms rest)
    have hmore : readMembers m d false (writeMoreMembers ms ++ rest) = .ok (ms, rest) :=
      readMembers_writeMoreMembers hms (by omega) rest
    simp only [readMembers, hnext, readColon_colon, hvalue, hmore, bind, Except.bind]

theorem Number.ReadsBack.readsBack {n : Number} (h : n.ReadsBack) : (number n).ReadsBack d := by
  refine .of_succ ?_ fun measure rest _ hrest => h.readValue_append hrest measure d
  obtain ⟨c, s, hcs, hc⟩ := h.exists_eq_cons
  refine ⟨c, s, hcs, ?_⟩
  rcases hc with hc | rfl
  · exact ⟨not_blank_of_isDigit hc, ne_of_isDigit hc rfl⟩
  · decide

theorem readsBack_string (s : String) : (string s).ReadsBack d := by
  refine .of_succ ⟨'"', _, rfl, rfl, by decide⟩ fun measure rest _ _ => ?_
  obtain ⟨quoted, hquoted, hread⟩ := readString_writeString s rest
  rw [write, hquoted, readValue, skipBlanks_cons rfl]
  simp [hread, Except.map]

theorem readsBack_array {items : List Json} (h : ∀ x ∈ items, x.ReadsBack d) :
    (array items).ReadsBack (d + 1) := by
  refine .of_succ ⟨'[', _, rfl, rfl, by decide⟩ fun measure rest hm _ => ?_
  rw [write, List.length_cons] at hm
  have hitems := readItems_writeItems h (by omega : 2 * (writeItems items).length ≤ measure) rest
  rw [write, List.cons_append, readValue, skipBlanks_cons rfl]
  simp [hitems, Except.map]

theorem readsBack_object {members : List (String × Json)} (h : ∀ m ∈ members, m.2.ReadsBack d) :
    (object members).ReadsBack (d + 1) := by
  refine .of_succ ⟨'\x7b', _, rfl, rfl, by decide⟩ fun measure rest hm _ => ?_
  rw [write, List.length_cons] at hm
  have hmembers :=
    readMembers_writeMembers h (by omega : 2 * (writeMembers members).length ≤ measure) rest
  rw [write, List.cons_append, readValue, skipBlanks_cons rfl]
  simp [hmembers, Except.map]

/-- A value is read back if its numbers are and it is not nested too deeply. -/
theorem readsBack (x : Json) (hnumbers : ∀ n ∈ x.numbers, n.ReadsBack) (hdepth : x.depth ≤ d) :
    x.ReadsBack d := by
  induction x generalizing d with
  | null => exact .of_succ ⟨'n', _, rfl, rfl, by decide⟩ fun _ _ _ _ => rfl
  | bool b =>
    cases b with
    | true => exact .of_succ ⟨'t', _, rfl, rfl, by decide⟩ fun _ _ _ _ => rfl
    | false => exact .of_succ ⟨'f', _, rfl, rfl, by decide⟩ fun _ _ _ _ => rfl
  | number n => exact (hnumbers n (List.mem_singleton.2 rfl)).readsBack
  | string s => exact readsBack_string s
  | array items ih =>
    obtain ⟨k, rfl⟩ : ∃ k, d = k + 1 := ⟨d - 1, by rw [depth] at hdepth; omega⟩
    have hitems := depthOfItems_le_iff.1 (Nat.le_of_succ_le_succ hdepth)
    exact readsBack_array fun x hx =>
      ih x hx (fun n hn => hnumbers n (mem_numbersOfItems_iff.2 ⟨x, hx, hn⟩)) (hitems x hx)
  | object members ih =>
    obtain ⟨k, rfl⟩ : ∃ k, d = k + 1 := ⟨d - 1, by rw [depth] at hdepth; omega⟩
    have hmembers := depthOfMembers_le_iff.1 (Nat.le_of_succ_le_succ hdepth)
    exact readsBack_object fun m hm =>
      ih m hm (fun n hn => hnumbers n (mem_numbersOfMembers_iff.2 ⟨m, hm, hn⟩)) (hmembers m hm)

/-- A value is the value of its text if its numbers are and it is not nested too deeply. -/
theorem readTree_write (x : Json) (hnumbers : ∀ n ∈ x.numbers, n.ReadsBack)
    (hdepth : x.depth ≤ maxDepth) : readTree (write x) = .ok x := by
  have hread := (readsBack x hnumbers hdepth).readValue_measureOf endsNumber_nil
  rw [List.append_nil] at hread
  rw [readTree, hread]
  rfl

/-- A value whose objects are sorted, each key once, is the canonical value of its text. -/
theorem read_of_canonical {x : Json} (hcanonical : x.canonical = x)
    (hnumbers : ∀ n ∈ x.numbers, n.ReadsBack) (hdepth : x.depth ≤ maxDepth) :
    read x.text = .ok x := by
  rw [read, text, String.toList_ofList, readTree_write x hnumbers hdepth]
  exact congrArg Except.ok hcanonical

end FilterSql.Json
