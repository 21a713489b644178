import FilterSql.Proofs.Operator.Table
import FilterSql.Proofs.Text.Blank

/-!
# Names of operators

A clause may spell the name of an operator with blanks around it and with letters of either case.
The table keeps the names of its operators as they are given and takes the blanks from that of the
clause only. So an operator whose own name has no blanks around it is found by each spelling, while
one whose name has some is taken by the table, where it stands among the others and is found by no
name at all.

## Main definitions

* `FilterSql.Text.Spells`: the texts that spell a name.
* `FilterSql.OperatorTable.Finds`, `FilterSql.OperatorTable.Hides`: each spelling finds an operator,
  and no name does.

## Main results

* `FilterSql.OperatorTable.resolve_of_mem`: an operator of an unambiguous table is found.
* `FilterSql.OperatorTable.finds_iff_trimmed`: the operators that have a name.
-/

namespace FilterSql

open Text

namespace Text

/-- A text spells a name: it is the name but for the case of letters, with blanks around it. -/
def Spells (s name : String) : Prop :=
  ∃ before body after : List Char, s.toList = before ++ body ++ after ∧
    (∀ c ∈ before, isBlank c = true) ∧ (∀ c ∈ after, isBlank c = true) ∧
      lowerChars body = lowerChars name.toList

variable {s name : String}

theorem lower_eq_lower_iff {s t : String} :
    lower s = lower t ↔ lowerChars s.toList = lowerChars t.toList := by
  rw [← String.toList_inj, toList_lower, toList_lower]

/-- A spelling of a name without blanks around it is the name once its own blanks are gone. -/
theorem Spells.lower_trim (h : Spells s name) (hname : trim name = name) :
    lower name = lower (trim s) := by
  obtain ⟨before, body, after, hs, hbefore, hafter, hbody⟩ := h
  rw [lower_eq_lower_iff, toList_trim, hs, trimChars_append_of_blank hbefore body hafter,
    ← trimChars_lowerChars, hbody, trimChars_lowerChars, ← toList_trim, hname]

/-- A name that equals a text without blanks around it, but for the case of letters, has no blanks
around it either. -/
theorem trim_eq_self_of_lower_eq (h : lower name = lower (trim s)) : trim name = name := by
  rw [lower_eq_lower_iff, toList_trim] at h
  have hlower : lowerChars (trimChars name.toList) = lowerChars name.toList := by
    rw [← trimChars_lowerChars, h, trimChars_lowerChars, trimChars_trimChars]
  have hlength : (trimChars name.toList).length = name.toList.length := by
    simpa [lowerChars] using congrArg List.length hlower
  rw [trim, (trimChars_sublist name.toList).eq_of_length hlength, String.ofList_toList]

end Text

namespace OperatorTable

variable {start table table' : OperatorTable} {op : Operator} {s : String}

/-- Each spelling of its name finds an operator among those of its value type. -/
def Finds (table : OperatorTable) (op : Operator) : Prop :=
  ∀ s, Spells s op.name → table.resolve s [op.type] = .ok op

/-- No name finds an operator, whatever the value types are. -/
def Hides (table : OperatorTable) (op : Operator) : Prop :=
  ∀ s types, table.resolve s types ≠ .ok op

/-- In a table without rivals a name that means an operator among those of its value type finds
it. -/
theorem resolve_of_mem (h : Unambiguous table.operators) (hop : op ∈ table.operators)
    (hname : lower op.name = lower (trim s)) : table.resolve s [op.type] = .ok op := by
  obtain ⟨before, after, hsplit⟩ := List.append_of_mem hop
  have hafter : ∀ later ∈ after, ¬ op.Rivals later := by
    rw [Unambiguous, hsplit] at h
    exact (List.pairwise_cons.1 (List.pairwise_append.1 h).2.1).1
  refine resolve_eq_ok_iff.2 ⟨before, after, hsplit,
    ⟨sameIgnoringCase_iff.2 hname, List.mem_singleton_self _⟩, fun later hlater hmeant => ?_⟩
  obtain ⟨hsame, htype⟩ := hmeant
  exact hafter later hlater
    ⟨(List.mem_singleton.1 htype).symm, hname.trans (sameIgnoringCase_iff.1 hsame).symm⟩

theorem finds_of_trim_eq (h : Unambiguous table.operators) (hop : op ∈ table.operators)
    (hname : trim op.name = op.name) : table.Finds op :=
  fun _ hs => resolve_of_mem h hop (hs.lower_trim hname)

theorem hides_of_trim_ne (hname : trim op.name ≠ op.name) : table.Hides op := by
  intro s types hresolve
  obtain ⟨-, -, -, ⟨hsame, -⟩, -⟩ := resolve_eq_ok_iff.1 hresolve
  exact hname (trim_eq_self_of_lower_eq (sameIgnoringCase_iff.1 hsame))

/-- An operator that a table takes stands in it. If its name has no blanks around it, each spelling
finds it, then and after all further offers. If it has some, no name ever finds it. -/
theorem finds_iff_trimmed (hstart : start = .empty ∨ start = .standard) (offers : List Operator) :
    (∀ op table', (start.replay offers).push op = .ok table' →
      op ∈ table'.operators ∧ table' = start.replay (offers ++ [op])) ∧
    ∀ op ∈ (start.replay offers).operators,
      (trim op.name = op.name → (start.replay offers).Finds op) ∧
        (trim op.name ≠ op.name → (start.replay offers).Hides op) := by
  refine ⟨fun op table' hpush => ?_, fun op hop => ?_⟩
  · rw [replay_append_singleton, after_of_push_eq_ok hpush]
    obtain ⟨-, rfl⟩ := push_eq_ok_iff.1 hpush
    exact ⟨List.mem_append_right _ (List.mem_singleton_self op), rfl⟩
  · have hunambiguous := unambiguous_replay (unambiguous_of_start hstart) offers
    exact ⟨finds_of_trim_eq hunambiguous hop, hides_of_trim_ne⟩

/-- Of two operators with the same name but for blanks and case both are taken, and one of them is
found by spellings with blanks that are no spaces. -/
theorem finds_iff_trimmed_beside_padded_name :
    let atLeast : Operator := { name := "at least", type := .numeric }
    let padded : Operator := { name := "At least ", type := .numeric, negative := true }
    let table := standard.replay [atLeast]
    let table' : OperatorTable := ⟨table.operators ++ [padded]⟩
    (table.push padded = .ok table' ∧ padded ∈ table'.operators ∧
      table' = standard.replay [atLeast, padded]) ∧
    (trim atLeast.name = atLeast.name ∧ Spells "\u00a0AT Least\t" atLeast.name ∧
      table'.resolve "\u00a0AT Least\t" [.numeric] = .ok atLeast) ∧
    trim padded.name ≠ padded.name ∧
      table'.resolve padded.name [.numeric, .string] ≠ .ok padded := by
  intro atLeast padded table table'
  have hpush : table.push padded = .ok table' :=
    push_of_no_rival (by decide +kernel +zetaReduce)
  obtain ⟨hmem, hreplay⟩ := (finds_iff_trimmed (.inr rfl) [atLeast]).1 padded table' hpush
  have hatLeast : atLeast ∈ table'.operators := by
    decide +kernel +zetaReduce
  have htrim : trim atLeast.name = atLeast.name := by
    decide +kernel +zetaReduce
  have hpadded : trim padded.name ≠ padded.name := by
    decide +kernel +zetaReduce
  have hbody : lowerChars "AT Least".toList = lowerChars atLeast.name.toList := by
    decide +kernel +zetaReduce
  have hspells : Spells "\u00a0AT Least\t" atLeast.name :=
    ⟨['\u00a0'], "AT Least".toList, ['\t'], rfl, List.forall_mem_singleton.2 (by decide),
      List.forall_mem_singleton.2 (by decide), hbody⟩
  obtain ⟨-, hfound⟩ := finds_iff_trimmed (.inr rfl) [atLeast, padded]
  rw [List.singleton_append] at hreplay
  rw [← hreplay] at hfound
  exact ⟨⟨hpush, hmem, hreplay⟩, ⟨htrim, hspells, (hfound atLeast hatLeast).1 htrim _ hspells⟩,
    hpadded, (hfound padded hmem).2 hpadded _ _⟩

/-- An operator that a table takes need not be found by its own name. -/
theorem taken_but_not_found :
    let padded : Operator := { name := " at least ", type := .numeric }
    ∃ table', standard.push padded = .ok table' ∧ padded ∈ table'.operators ∧
      table'.resolve padded.name [padded.type] = .error (.unknownOperator "at least") :=
  ⟨_, rfl, by decide +kernel, rfl⟩

end OperatorTable

end FilterSql
