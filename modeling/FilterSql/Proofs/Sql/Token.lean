import FilterSql.Proofs.Sql.Fragment

/-!
# Tokens

A fragment is the image of a list of tokens, each a literal text or a parameter. Its text, its
parameters and its placeholders are all read off that list, so they belong together by construction,
and the text with numbered placeholders is the list with a number for each parameter, whatever
question marks stand in the literals.

## Main definitions

* `FilterSql.Token`: a literal text or a parameter.
* `FilterSql.Token.fragmentOf`: the fragment of a list of tokens.
* `FilterSql.Token.numberedFrom`: the literals with numbers for the parameters.
* `FilterSql.Fragment.numberedByCuts?`: numbering that cuts the text at its placeholders.
* `FilterSql.Fragment.Shows`: what it is for a fragment to be the image of a list of tokens.

## Main results

* `FilterSql.Token.fragmentOf_append`, `FilterSql.Token.fragmentOf_join`: the compositions of
  fragments are those of tokens.
* `FilterSql.Token.shows_fragmentOf`: the fragment of a list of tokens shows it.
-/

namespace FilterSql

/-- A piece of a fragment. -/
inductive Token where
  /-- A text that is written as it is. -/
  | literal (text : String)
  /-- A parameter. -/
  | param (p : Param)

namespace Token

/-! ### The parts of a fragment -/

/-- The literals, with a question mark for each parameter. -/
def textOf : List Token → String
  | [] => ""
  | .literal s :: ts => s ++ textOf ts
  | .param _ :: ts => "?" ++ textOf ts

/-- The parameters, in order. -/
def paramsOf : List Token → List Param
  | [] => []
  | .literal _ :: ts => paramsOf ts
  | .param p :: ts => p :: paramsOf ts

/-- The bytes at which the parameters stand in a text that begins at the byte `start`. -/
def offsetsFrom (start : Nat) : List Token → List Nat
  | [] => []
  | .literal s :: ts => offsetsFrom (start + s.utf8ByteSize) ts
  | .param _ :: ts => start :: offsetsFrom (start + 1) ts

/-- The literals, with `$` and its number for each parameter, counted from `number` on. -/
def numberedFrom (number : Nat) : List Token → String
  | [] => ""
  | .literal s :: ts => s ++ numberedFrom number ts
  | .param _ :: ts =>
    "$" ++ String.ofList (Text.digitsOfNat number) ++ numberedFrom (number + 1) ts

/-- The fragment of a list of tokens. -/
def fragmentOf (ts : List Token) : Fragment :=
  ⟨textOf ts, paramsOf ts, offsetsFrom 0 ts⟩

theorem utf8ByteSize_mark : "?".utf8ByteSize = 1 := rfl

@[simp] theorem textOf_append (ts us : List Token) :
    textOf (ts ++ us) = textOf ts ++ textOf us := by
  induction ts with
  | nil => simp [textOf]
  | cons t ts ih => cases t <;> simp [textOf, ih, String.append_assoc]

@[simp] theorem paramsOf_append (ts us : List Token) :
    paramsOf (ts ++ us) = paramsOf ts ++ paramsOf us := by
  induction ts with
  | nil => rfl
  | cons t ts ih => cases t <;> simp [paramsOf, ih]

/-- Parameters of later tokens are numbered after those of earlier ones. -/
theorem numberedFrom_append (number : Nat) (ts us : List Token) :
    numberedFrom number (ts ++ us) =
      numberedFrom number ts ++ numberedFrom (number + (paramsOf ts).length) us := by
  induction ts generalizing number with
  | nil => simp [numberedFrom, paramsOf]
  | cons t ts ih =>
    cases t with
    | literal s => simp [numberedFrom, paramsOf, ih, String.append_assoc]
    | param p =>
      simp [numberedFrom, paramsOf, ih, String.append_assoc, Nat.add_assoc, Nat.add_comm 1]

theorem offsetsFrom_append (start : Nat) (ts us : List Token) :
    offsetsFrom start (ts ++ us) =
      offsetsFrom start ts ++ offsetsFrom (start + (textOf ts).utf8ByteSize) us := by
  induction ts generalizing start with
  | nil => simp [offsetsFrom, textOf]
  | cons t ts ih =>
    cases t <;> simp [offsetsFrom, textOf, ih, String.utf8ByteSize_append, Nat.add_assoc,
      utf8ByteSize_mark]

theorem offsetsFrom_eq_map (start : Nat) (ts : List Token) :
    offsetsFrom start ts = (offsetsFrom 0 ts).map (start + ·) := by
  induction ts generalizing start with
  | nil => rfl
  | cons t ts ih =>
    cases t with
    | literal s =>
      rw [offsetsFrom, offsetsFrom, ih, ih (0 + s.utf8ByteSize), List.map_map]
      exact List.map_congr_left fun o _ => by simp [Nat.add_assoc]
    | param p =>
      rw [offsetsFrom, offsetsFrom, ih, ih (0 + 1), List.map_cons, List.map_map]
      exact congrArg _ (List.map_congr_left fun o _ => by simp [Nat.add_assoc])

/-! ### Compositions -/

theorem fragmentOf_append (ts us : List Token) :
    fragmentOf (ts ++ us) = fragmentOf ts ++ fragmentOf us := by
  apply Fragment.ext
  · exact textOf_append ts us
  · exact paramsOf_append ts us
  · change offsetsFrom 0 (ts ++ us) = _
    rw [offsetsFrom_append, Nat.zero_add, offsetsFrom_eq_map (textOf ts).utf8ByteSize]
    rfl

theorem fragmentOf_literal (s : String) : fragmentOf [.literal s] = .sql s := by
  apply Fragment.ext <;> simp [fragmentOf, textOf, paramsOf, offsetsFrom, Fragment.sql]

theorem fragmentOf_wrap (before after : String) (ts : List Token) :
    fragmentOf (.literal before :: ts ++ [.literal after]) =
      (fragmentOf ts).wrap before after := by
  rw [List.cons_append, ← List.singleton_append, fragmentOf_append, fragmentOf_append,
    fragmentOf_literal, fragmentOf_literal, Fragment.wrap_eq_append, Fragment.append_assoc]

theorem fragmentOf_join (separator : String) (tss : List (List Token)) :
    fragmentOf (List.intercalate [.literal separator] tss) =
      Fragment.join separator (tss.map fragmentOf) := by
  induction tss with
  | nil => rfl
  | cons ts tss ih =>
    cases tss with
    | nil =>
      rw [List.intercalate_singleton]
      rfl
    | cons us tss =>
      rw [List.intercalate_cons_cons, fragmentOf_append, fragmentOf_append, fragmentOf_literal, ih]
      rfl

/-- A parameter with the cast after it. -/
def bound (p : Param) : List Token :=
  .param p :: match p.cast? with
    | some type => [.literal ("::" ++ type)]
    | none => []

theorem fragmentOf_bound (p : Param) : fragmentOf (bound p) = Fragment.placeholder p := by
  rw [bound, Fragment.placeholder]
  cases p.cast? with
  | none => apply Fragment.ext <;> simp [fragmentOf, textOf, paramsOf, offsetsFrom]
  | some type =>
    apply Fragment.ext
    · simp [fragmentOf, textOf, ← String.append_assoc]
    · simp [fragmentOf, paramsOf]
    · simp [fragmentOf, offsetsFrom]

/-! ### Placeholders -/

theorem length_offsetsFrom (start : Nat) (ts : List Token) :
    (offsetsFrom start ts).length = (paramsOf ts).length := by
  induction ts generalizing start with
  | nil => rfl
  | cons t ts ih => cases t <;> simp [offsetsFrom, paramsOf, ih]

theorem le_of_mem_offsetsFrom {start offset : Nat} {ts : List Token}
    (h : offset ∈ offsetsFrom start ts) : start ≤ offset := by
  rw [offsetsFrom_eq_map] at h
  obtain ⟨o, -, rfl⟩ := List.mem_map.1 h
  exact Nat.le_add_right start o

theorem pairwise_offsetsFrom (start : Nat) (ts : List Token) :
    (offsetsFrom start ts).Pairwise (· < ·) := by
  induction ts generalizing start with
  | nil => exact List.Pairwise.nil
  | cons t ts ih =>
    cases t with
    | literal s => exact ih _
    | param p => exact List.Pairwise.cons (fun o ho => le_of_mem_offsetsFrom ho) (ih _)

/-- A question mark stands at each placeholder, between two pieces of the text. -/
theorem exists_of_mem_offsetsFrom {start offset : Nat} {ts : List Token}
    (h : offset ∈ offsetsFrom start ts) :
    ∃ before after, textOf ts = before ++ "?" ++ after ∧
      start + before.utf8ByteSize = offset := by
  induction ts generalizing start with
  | nil => simp [offsetsFrom] at h
  | cons t ts ih =>
    cases t with
    | literal s =>
      obtain ⟨before, after, htext, rfl⟩ := ih h
      refine ⟨s ++ before, after, ?_, ?_⟩
      · simp [textOf, htext, String.append_assoc]
      · rw [String.utf8ByteSize_append, Nat.add_assoc]
    | param p =>
      rcases List.mem_cons.1 h with rfl | h
      · exact ⟨"", textOf ts, by simp [textOf], by simp⟩
      · obtain ⟨before, after, htext, rfl⟩ := ih h
        refine ⟨"?" ++ before, after, ?_, ?_⟩
        · simp [textOf, htext, String.append_assoc]
        · rw [String.utf8ByteSize_append, utf8ByteSize_mark, Nat.add_assoc]

end Token

/-! ### Numbering -/

theorem Text.utf8ByteSize_ofList_cons (c : Char) (cs : List Char) :
    (String.ofList (c :: cs)).utf8ByteSize = c.utf8Size + (String.ofList cs).utf8ByteSize := by
  rw [String.ofList_cons, String.utf8ByteSize_append, String.utf8ByteSize_singleton]

namespace Fragment

theorem numberFrom_nil (start number : Nat) (cs : List Char) :
    numberFrom start number [] cs = cs := by
  cases cs <;> rfl

/-- Numbering leaves a text as it is up to the first placeholder. -/
theorem numberFrom_append {start number : Nat} {offsets : List Nat} {cs : List Char}
    (h : ∀ o ∈ offsets, start + (String.ofList cs).utf8ByteSize ≤ o) (rest : List Char) :
    numberFrom start number offsets (cs ++ rest) =
      cs ++ numberFrom (start + (String.ofList cs).utf8ByteSize) number offsets rest := by
  cases offsets with
  | nil => simp [numberFrom_nil]
  | cons offset offsets =>
    induction cs generalizing start with
    | nil => simp
    | cons c cs ih =>
      rw [Text.utf8ByteSize_ofList_cons, ← Nat.add_assoc] at h ⊢
      have hc : 0 < c.utf8Size := c.utf8Size_pos
      have hoffset := h offset List.mem_cons_self
      rw [List.cons_append, numberFrom, if_neg (by omega), ih h, List.cons_append]

/-- Numbering a text does not depend on the byte it begins at. -/
theorem numberFrom_map_add (k start number : Nat) (offsets : List Nat) (cs : List Char) :
    numberFrom (k + start) number (offsets.map (k + ·)) cs =
      numberFrom start number offsets cs := by
  fun_induction numberFrom start number offsets cs with
  | case1 => simp [numberFrom]
  | case2 => simp [numberFrom]
  | case3 start number c rest offsets ih => simpa [numberFrom, Nat.add_assoc] using ih
  | case4 start number c rest offset offsets h ih =>
    simpa [numberFrom, Nat.add_assoc, h] using ih

/-- SQL before a fragment stays as it is before the numbered text. -/
theorem numbered_sql_append (s : String) (f : Fragment) :
    (sql s ++ f).numbered = s ++ f.numbered := by
  have hle : ∀ o ∈ f.placeholders.map (s.utf8ByteSize + ·),
      0 + (String.ofList s.toList).utf8ByteSize ≤ o := by
    intro o ho
    obtain ⟨o, -, rfl⟩ := List.mem_map.1 ho
    simp
  have hshift : numberFrom s.utf8ByteSize 1 (f.placeholders.map (s.utf8ByteSize + ·))
      f.text.toList = numberFrom 0 1 f.placeholders f.text.toList :=
    numberFrom_map_add s.utf8ByteSize 0 1 f.placeholders f.text.toList
  rw [numbered, placeholders_append, placeholders_sql, List.nil_append, text_append, text_sql,
    String.toList_append, numberFrom_append hle, String.ofList_toList, Nat.zero_add,
    hshift, String.ofList_append, String.ofList_toList]
  rfl

end Fragment

namespace Text

/-- A text cut in two at a byte, if a character of it begins or the text ends there. -/
def cutAt? : Nat → List Char → Option (List Char × List Char)
  | 0, cs => some ([], cs)
  | _ + 1, [] => none
  | n + 1, c :: cs =>
    if c.utf8Size ≤ n + 1 then
      (cutAt? (n + 1 - c.utf8Size) cs).map fun (before, after) => (c :: before, after)
    else none

theorem cutAt?_append (cs rest : List Char) :
    cutAt? (String.ofList cs).utf8ByteSize (cs ++ rest) = some (cs, rest) := by
  induction cs with
  | nil => cases rest <;> rfl
  | cons c cs ih =>
    obtain ⟨n, hn⟩ : ∃ n, (String.ofList (c :: cs)).utf8ByteSize = n + 1 :=
      Nat.exists_eq_add_one.2 (by
        rw [utf8ByteSize_ofList_cons]
        exact Nat.add_pos_left c.utf8Size_pos _)
    rw [hn, List.cons_append, cutAt?, ← hn, utf8ByteSize_ofList_cons,
      if_pos (Nat.le_add_right _ _), Nat.add_sub_cancel_left, ih]
    rfl

end Text

namespace Fragment

/-- A text from its byte `last` on with numbers for the question marks at the given bytes, made by
cutting it before and after each of them. There is none where a cut falls outside the text or
within a character. -/
def numberByCuts? (last number : Nat) : List Nat → List Char → Option (List Char)
  | [], cs => some cs
  | offset :: offsets, cs =>
    if last ≤ offset then do
      let (piece, marked) ← Text.cutAt? (offset - last) cs
      let (_, rest) ← Text.cutAt? 1 marked
      let numbered ← numberByCuts? (offset + 1) (number + 1) offsets rest
      return piece ++ '$' :: Text.digitsOfNat number ++ numbered
    else none

/-- The text with numbered placeholders, made by cutting it at its placeholders. -/
def numberedByCuts? (f : Fragment) : Option String :=
  (numberByCuts? 0 1 f.placeholders f.text.toList).map String.ofList

/-- A fragment is the image of a list of tokens: its text, its parameters and its numbered text are
those of the tokens; its placeholders, one for each parameter, lie in increasing order at question
marks of the text; and cutting the text there gives the numbered one. -/
structure Shows (f : Fragment) (ts : List Token) : Prop where
  text : f.text = Token.textOf ts
  params : f.params = Token.paramsOf ts
  length : f.placeholders.length = f.params.length
  sorted : f.placeholders.Pairwise (· < ·)
  marks : ∀ offset ∈ f.placeholders,
    ∃ before after, f.text = before ++ "?" ++ after ∧ before.utf8ByteSize = offset
  numbered : f.numbered = Token.numberedFrom 1 ts
  cuts : f.numberedByCuts? = some f.numbered

end Fragment

namespace Token

theorem toList_mark_append (s : String) : ("?" ++ s).toList = '?' :: s.toList := by
  rw [String.toList_append]
  rfl

theorem utf8Size_mark : '?'.utf8Size = 1 := rfl

theorem numberFrom_offsetsFrom (start number : Nat) (ts : List Token) :
    Fragment.numberFrom start number (offsetsFrom start ts) (textOf ts).toList =
      (numberedFrom number ts).toList := by
  induction ts generalizing start number with
  | nil => rfl
  | cons t ts ih =>
    cases t with
    | literal s =>
      have hle (o : Nat) (ho : o ∈ offsetsFrom (start + s.utf8ByteSize) ts) :
          start + (String.ofList s.toList).utf8ByteSize ≤ o := by
        rw [String.ofList_toList]
        exact le_of_mem_offsetsFrom ho
      rw [textOf, offsetsFrom, numberedFrom, String.toList_append, String.toList_append,
        Fragment.numberFrom_append hle, String.ofList_toList, ih]
    | param p =>
      rw [textOf, offsetsFrom, numberedFrom, toList_mark_append, Fragment.numberFrom,
        if_pos rfl, utf8Size_mark, ih]
      simp

/-- Cutting a text that begins with some characters before its tokens leaves those as they are. -/
theorem numberByCuts?_offsetsFrom (last number : Nat) (cs : List Char) (ts : List Token) :
    Fragment.numberByCuts? last number
        (offsetsFrom (last + (String.ofList cs).utf8ByteSize) ts) (cs ++ (textOf ts).toList) =
      some (cs ++ (numberedFrom number ts).toList) := by
  induction ts generalizing last number cs with
  | nil => rfl
  | cons t ts ih =>
    cases t with
    | literal s =>
      have h := ih last number (cs ++ s.toList)
      rw [String.ofList_append, String.ofList_toList, String.utf8ByteSize_append,
        ← Nat.add_assoc, List.append_assoc, ← String.toList_append, List.append_assoc,
        ← String.toList_append] at h
      exact h
    | param p =>
      have h := ih (last + (String.ofList cs).utf8ByteSize + 1) (number + 1) []
      simp only [String.ofList_nil, String.utf8ByteSize_empty, Nat.add_zero,
        List.nil_append] at h
      have hcut : Text.cutAt? 1 ('?' :: (textOf ts).toList) = some (['?'], (textOf ts).toList) :=
        Text.cutAt?_append ['?'] (textOf ts).toList
      rw [textOf, offsetsFrom, toList_mark_append, Fragment.numberByCuts?,
        if_pos (Nat.le_add_right _ _), Nat.add_sub_cancel_left, Text.cutAt?_append]
      simp [hcut, h, numberedFrom]

/-- The fragment of a list of tokens shows it. -/
theorem shows_fragmentOf (ts : List Token) : (fragmentOf ts).Shows ts where
  text := rfl
  params := rfl
  length := length_offsetsFrom 0 ts
  sorted := pairwise_offsetsFrom 0 ts
  marks offset h := by
    obtain ⟨before, after, htext, hoffset⟩ := exists_of_mem_offsetsFrom h
    exact ⟨before, after, htext, by simpa using hoffset⟩
  numbered := by
    rw [Fragment.numbered, fragmentOf, numberFrom_offsetsFrom, String.ofList_toList]
  cuts := by
    have h := numberByCuts?_offsetsFrom 0 1 [] ts
    simp only [String.ofList_nil, String.utf8ByteSize_empty, Nat.add_zero, List.nil_append] at h
    rw [Fragment.numberedByCuts?, Fragment.numbered, fragmentOf, h, numberFrom_offsetsFrom]
    rfl

end Token

end FilterSql
