import FilterSql.Proofs.Condition.Builders
import FilterSql.Proofs.Sql.Veil

/-!
# What a condition tells of its value

Values are bound to a condition, not written into it, but some of its text depends on them. The
shape of a value under an operator is what the text may tell: which boolean it is, how many elements
are chosen, whether a text that has to be equal is empty, whether a number of words to stay below is
positive. Conditions of two values of one shape differ in their parameters at most.

## Main definitions

* `FilterSql.Value.Shape`: what a condition may tell of a value.
* `FilterSql.Value.shape`: the shape of a value under an operator.

## Main results

* `FilterSql.Condition.veil_eq_of_build`: conditions of values of one shape are the same once
  veiled.
-/

namespace FilterSql

namespace Value

/-- What a condition may tell of a value. -/
inductive Shape where
  /-- Nothing. -/
  | hidden
  /-- Which boolean it is. -/
  | truth (b : Bool)
  /-- How many elements are chosen. -/
  | size (n : Nat)
  /-- Whether a text is empty. -/
  | empty (b : Bool)
  /-- Whether a number of words is positive. -/
  | positive (b : Bool)
deriving DecidableEq, Repr

/-- The shape of a value under an operator. -/
def shape (op : Operator) (v : Value) : Shape :=
  match op.type with
  | .nullable | .bool =>
    match v with
    | .bool b => .truth b
    | _ => .hidden
  | .collection =>
    match v with
    | .collection ids => .size ids.length
    | _ => .hidden
  | .string =>
    match v with
    | .text s => if op.sign.toOption = some "=" then .empty s.isEmpty else .hidden
    | _ => .hidden
  | .stringLength =>
    if Condition.startsWith op "fewer than" then
      .positive ((Condition.wordCount? v).any (0 < ·))
    else .hidden
  | _ => .hidden

end Value

namespace Condition

open Fragment

variable {column : String} {op : Operator} {v w : Value} {f g : Fragment}

theorem veil_compare_congr {sign : String} {p q : Param} (h : p.cast? = q.cast?) :
    (compare column sign p).veil = (compare column sign q).veil := by
  simp [compare, h]

/-- The identifiers of chosen elements are bound without a cast, whole numbers and texts alike. -/
theorem map_cast?_paramOfId (ids : List ChoiceId) :
    (ids.map paramOfId).map Param.cast? = List.replicate ids.length none := by
  rw [List.map_map, List.eq_replicate_iff]
  refine ⟨List.length_map _, fun cast hcast => ?_⟩
  obtain ⟨id, -, rfl⟩ := List.mem_map.1 hcast
  cases id <;> rfl

/-! ### One builder after the other -/

private theorem veil_ofNullable (htype : op.type = .nullable) (h : v.shape op = w.shape op)
    (hf : ofNullable column v = .ok f) (hg : ofNullable column w = .ok g) : f.veil = g.veil := by
  obtain ⟨b, rfl, rfl⟩ := ofNullable_eq_ok_iff.1 hf
  obtain ⟨c, rfl, rfl⟩ := ofNullable_eq_ok_iff.1 hg
  obtain rfl : b = c := by simpa [Value.shape, htype] using h
  rfl

private theorem veil_ofBool (htype : op.type = .bool) (h : v.shape op = w.shape op)
    (hf : ofBool column v = .ok f) (hg : ofBool column w = .ok g) : f.veil = g.veil := by
  obtain ⟨b, rfl, rfl⟩ := ofBool_eq_ok_iff.1 hf
  obtain ⟨c, rfl, rfl⟩ := ofBool_eq_ok_iff.1 hg
  obtain rfl : b = c := by simpa [Value.shape, htype] using h
  rfl

/-- Neither a whole number nor a floating point number has a cast. -/
private theorem veil_ofNumeric (hf : ofNumeric column op v = .ok f)
    (hg : ofNumeric column op w = .ok g) : f.veil = g.veil := by
  obtain ⟨sign, hsign, hf⟩ := ofNumeric_eq_ok_iff.1 hf
  obtain ⟨sign', hsign', hg⟩ := ofNumeric_eq_ok_iff.1 hg
  obtain rfl : sign = sign' := Except.ok.inj (hsign.symm.trans hsign')
  rcases hf with ⟨m, -, rfl⟩ | ⟨x, -, rfl⟩ <;> rcases hg with ⟨n, -, rfl⟩ | ⟨y, -, rfl⟩ <;>
    exact veil_compare_congr rfl

private theorem veil_ofAbsoluteDate (hf : ofAbsoluteDate column op v = .ok f)
    (hg : ofAbsoluteDate column op w = .ok g) : f.veil = g.veil := by
  obtain ⟨sign, s, hsign, -, rfl⟩ := ofAbsoluteDate_eq_ok_iff.1 hf
  obtain ⟨sign', t, hsign', -, rfl⟩ := ofAbsoluteDate_eq_ok_iff.1 hg
  obtain rfl : sign = sign' := Except.ok.inj (hsign.symm.trans hsign')
  exact veil_compare_congr rfl

private theorem veil_ofCollection (htype : op.type = .collection) (h : v.shape op = w.shape op)
    (hf : ofCollection column op v = .ok f) (hg : ofCollection column op w = .ok g) :
    f.veil = g.veil := by
  rcases ofCollection_eq_ok_iff.1 hf with ⟨rfl, rfl⟩ | ⟨id, ids, rfl, rfl⟩ <;>
    rcases ofCollection_eq_ok_iff.1 hg with ⟨rfl, rfl⟩ | ⟨id', ids', rfl, rfl⟩
  · rfl
  · simp [Value.shape, htype] at h
  · simp [Value.shape, htype] at h
  · have hlength : (id :: ids).length = (id' :: ids').length := by
      simpa [Value.shape, htype] using h
    simp only [veil_push, veil_bindList, map_cast?_paramOfId, hlength]

/-- Only a comparison for equality looks whether its text is empty. -/
private theorem veil_ofString (htype : op.type = .string) (h : v.shape op = w.shape op)
    (hf : ofString column op v = .ok f) (hg : ofString column op w = .ok g) : f.veil = g.veil := by
  obtain ⟨s, rfl, hs⟩ := ofString_eq_ok_iff.1 hf
  obtain ⟨t, rfl, ht⟩ := ofString_eq_ok_iff.1 hg
  have hcast : (Param.text s).cast? = (Param.text t).cast? := rfl
  have hdistinct : ¬("contains" = "starts with") := by simp
  rcases hs with ⟨hop, rfl⟩ | ⟨hop, rfl⟩ | ⟨hcontains, hstarts, sign, hsign, rfl⟩
  · rcases ht with ⟨-, rfl⟩ | ⟨hop', -⟩ | ⟨hcontains, -⟩
    · simp only [veil_push, veil_bind, hcast]
    · exact absurd (hop.symm.trans hop') hdistinct
    · exact absurd hop hcontains
  · rcases ht with ⟨hop', -⟩ | ⟨-, rfl⟩ | ⟨-, hstarts, -⟩
    · exact absurd (hop'.symm.trans hop) hdistinct
    · simp only [veil_push, veil_bind, hcast]
    · exact absurd hop hstarts
  · rcases ht with ⟨hop, -⟩ | ⟨hop, -⟩ | ⟨-, -, sign', hsign', rfl⟩
    · exact absurd hop hcontains
    · exact absurd hop hstarts
    · obtain rfl : sign = sign' := Except.ok.inj (hsign.symm.trans hsign')
      by_cases hequal : sign = "="
      · subst hequal
        have hempty : s.isEmpty = t.isEmpty := by
          simpa [Value.shape, htype, hsign, Except.toOption] using h
        by_cases hblank : t.isEmpty = true <;>
          simp only [hempty, hblank, hcast, veil_push, veil_bind, and_self, and_false, if_true,
            if_false, Bool.false_eq_true]
      · simp only [hequal, hcast, false_and, if_false, veil_push, veil_bind]

/-- A number of words to stay above is seen in the parameter alone, one to stay below also by its
sign. -/
private theorem veil_ofWordCount (htype : op.type = .stringLength) (h : v.shape op = w.shape op)
    (hf : ofWordCount column op v = .ok f) (hg : ofWordCount column op w = .ok g) :
    f.veil = g.veil := by
  obtain ⟨m, hm, hf⟩ := ofWordCount_eq_ok_iff.1 hf
  obtain ⟨n, hn, hg⟩ := ofWordCount_eq_ok_iff.1 hg
  rcases hf with ⟨hmore, rfl⟩ | ⟨hmore, hfewer, rfl⟩
  · rcases hg with ⟨-, rfl⟩ | ⟨hmore', -⟩
    · exact veil_compare_congr rfl
    · exact absurd (hmore.symm.trans hmore') (by decide)
  · rcases hg with ⟨hmore', -⟩ | ⟨-, -, rfl⟩
    · exact absurd (hmore.symm.trans hmore') (by decide)
    · have hsign : 0 < m ↔ 0 < n := by
        simpa [Value.shape, htype, hfewer, hm, hn] using h
      by_cases hpositive : 0 < n
      · rw [if_neg (by omega), if_neg (by omega)]
        exact veil_compare_congr rfl
      · rw [if_pos (by omega), if_pos (by omega)]

private theorem veil_ofRelativeDate {now : Timestamp} (hf : ofRelativeDate column op v now = .ok f)
    (hg : ofRelativeDate column op w now = .ok g) : f.veil = g.veil := by
  obtain ⟨d, first, last, -, -, rfl⟩ := ofRelativeDate_eq_ok_iff.1 hf
  obtain ⟨e, first', last', -, -, rfl⟩ := ofRelativeDate_eq_ok_iff.1 hg
  simp only [veil_push, veil_bind, Param.cast?]

/-! ### All builders -/

/-- The conditions of two values of one shape under an operator are the same once veiled. -/
theorem veil_eq_of_build {now : Timestamp} (h : v.shape op = w.shape op)
    (hf : build column op v now = .ok f) (hg : build column op w now = .ok g) :
    f.veil = g.veil := by
  rw [build] at hf hg
  cases htype : op.type with
  | nullable =>
    rw [htype] at hf hg
    exact veil_ofNullable htype h hf hg
  | bool =>
    rw [htype] at hf hg
    exact veil_ofBool htype h hf hg
  | numeric =>
    rw [htype] at hf hg
    exact veil_ofNumeric hf hg
  | string =>
    rw [htype] at hf hg
    exact veil_ofString htype h hf hg
  | stringLength =>
    rw [htype] at hf hg
    exact veil_ofWordCount htype h hf hg
  | collection =>
    rw [htype] at hf hg
    exact veil_ofCollection htype h hf hg
  | singleChoice => simp [htype] at hf
  | relativeDate =>
    rw [htype] at hf hg
    exact veil_ofRelativeDate hf hg
  | absoluteDate =>
    rw [htype] at hf hg
    exact veil_ofAbsoluteDate hf hg

end Condition

end FilterSql
