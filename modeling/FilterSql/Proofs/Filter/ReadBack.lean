import FilterSql.Filter.Printer
import FilterSql.Filter.Reader
import FilterSql.Proofs.Json.ReadBack
import FilterSql.Proofs.Resolution.Agreement

/-!
# Stored filters

A filter is read back from its own text: groups as groups and clauses as clauses, whatever their
texts and their raw values are. A group cannot be taken for a clause, since it is tried first, and a
clause cannot be taken for a group, since it has no member with the nodes of one. Its raw value may
well look like a node: it is not asked what node it stands for.

A raw value has its objects sorted, each key once. That numbers which are not whole are read back
from their texts depends on the digits of these texts, and is taken for granted here.

## Main definitions

* `FilterSql.Clause.Stored`: the clauses that can be written and read.

## Main results

* `FilterSql.Node.ofJson?_toJson`: a node is the one that its JSON value stands for.
* `FilterSql.Filter.read_text`: a filter is the one that its text holds.
-/

namespace FilterSql

/-! ### Nodes -/

/-- A clause whose raw value has its objects sorted, each key once, and whose numbers are the values
of their texts. -/
structure Clause.Stored (c : Clause) : Prop where
  /-- Objects are sorted, each key once. -/
  canonical : c.value.canonical = c.value
  /-- Each number that is not kept exactly is the value of its text. -/
  floats : ∀ x : Float, .float x ∈ c.value.numbers → (Json.Number.float x).ReadsBack

theorem Clause.Stored.numbers {c : Clause} (h : c.Stored) : ∀ n ∈ c.value.numbers, n.ReadsBack := by
  intro n hn
  cases n with
  | int n exact => exact Json.Number.readsBack_int n exact
  | float x => exact h.floats x hn

theorem Clause.ofJson?_toJson {c : Clause} (h : c.value.canonical = c.value) :
    Clause.ofJson? c.toJson = some c := by
  simp [toJson, Clause.ofJson?, Json.valuesOf, ofParts?, h]

namespace Node

theorem toJsonList_eq_map (ns : List Node) : toJsonList ns = ns.map toJson := by
  induction ns with
  | nil => rfl
  | cons n ns ih => rw [toJsonList, List.map_cons, ih]

theorem ofItems?_toJsonList {ns : List Node} (h : ∀ n ∈ ns, ofJson? n.toJson = some n) :
    ofItems? (toJsonList ns) = some ns := by
  induction ns with
  | nil => rfl
  | cons n ns ih =>
    obtain ⟨hn, hns⟩ := List.forall_mem_cons.1 h
    rw [toJsonList, ofItems?, hn, ih hns]

/-- A node is the one that its JSON value stands for. -/
theorem ofJson?_toJson {n : Node} (h : ∀ c, n.HasClause c → c.value.canonical = c.value) :
    ofJson? n.toJson = some n := by
  induction n with
  | clause c =>
    -- without the member `filter_clauses` the value is no group
    have hclause := Clause.ofJson?_toJson (h c (hasClause_clause_iff.2 rfl))
    rw [Clause.toJson] at hclause
    simp [toJson, Clause.toJson, ofJson?, childrenOf?, Json.valuesOf, hclause]
  | group name ns ih =>
    have hchildren : ofItems? (toJsonList ns) = some ns :=
      ofItems?_toJsonList fun n hn => ih n hn fun c hc => h c (hasClause_group_iff.2 ⟨n, hn, hc⟩)
    cases name <;>
      simp [toJson, groupMembers, ofJson?, childrenOf?, ofList?, Json.valuesOf,
        Json.optionalString?, hchildren]

/-- The numbers in the JSON value of a node are those of its clauses. -/
theorem exists_of_mem_numbers {n : Node} {x : Json.Number} (h : x ∈ n.toJson.numbers) :
    ∃ c, n.HasClause c ∧ x ∈ c.value.numbers := by
  induction n with
  | clause c =>
    exact ⟨c, hasClause_clause_iff.2 rfl, by
      simpa [toJson, Clause.toJson, Json.numbers, Json.numbersOfMembers] using h⟩
  | group name ns ih =>
    have hitems : x ∈ Json.numbersOfItems (toJsonList ns) := by
      cases name <;>
        simpa [toJson, groupMembers, Json.numbers, Json.numbersOfMembers] using h
    obtain ⟨y, hy, hx⟩ := Json.mem_numbersOfItems_iff.1 hitems
    rw [toJsonList_eq_map] at hy
    obtain ⟨n, hn, rfl⟩ := List.mem_map.1 hy
    obtain ⟨c, hc, hxc⟩ := ih n hn hx
    exact ⟨c, hasClause_group_iff.2 ⟨n, hn, hc⟩, hxc⟩

/-- A node that is read from its text with so many levels of lists and objects to go. -/
structure ReadsBack (d : Nat) (n : Node) : Prop where
  /-- The JSON value is read from its text. -/
  value : n.toJson.ReadsBack d
  /-- It stands for the node. -/
  node : ofJson? n.toJson = some n

theorem readsBack {d : Nat} {n : Node} (h : ∀ c, n.HasClause c → c.Stored)
    (hdepth : n.toJson.depth ≤ d) : n.ReadsBack d := by
  refine ⟨Json.readsBack _ (fun x hx => ?_) hdepth, ofJson?_toJson fun c hc => (h c hc).canonical⟩
  obtain ⟨c, hc, hxc⟩ := exists_of_mem_numbers hx
  exact (h c hc).numbers x hxc

end Node

/-! ### Filters -/

namespace Filter

open Json

variable {d measure : Nat} {ns : List Node}

/-- The nodes of a list after the first are read back. -/
theorem readNodes_writeMoreItems (h : ∀ n ∈ ns, n.ReadsBack d)
    (hm : (writeMoreItems (Node.toJsonList ns)).length ≤ measure) (rest : List Char) :
    readNodes d measure false (writeMoreItems (Node.toJsonList ns) ++ rest) = .ok (ns, rest) := by
  induction ns generalizing measure with
  | nil =>
    obtain ⟨m, rfl⟩ : ∃ m, measure = m + 1 :=
      ⟨measure - 1, by simp [Node.toJsonList, writeMoreItems] at hm; omega⟩
    rw [readNodes, Node.toJsonList, writeMoreItems, List.singleton_append, nextItem_end]
    rfl
  | cons n ns ih =>
    obtain ⟨hn, hns⟩ := List.forall_mem_cons.1 h
    have hlength : (writeMoreItems (Node.toJsonList (n :: ns))).length =
        (write n.toJson).length + (writeMoreItems (Node.toJsonList ns)).length + 1 := by
      simp [Node.toJsonList, writeMoreItems]
    obtain ⟨m, rfl⟩ : ∃ m, measure = m + 1 := ⟨measure - 1, by omega⟩
    have hnext : nextItem false (writeMoreItems (Node.toJsonList (n :: ns)) ++ rest) =
        .ok (true, write n.toJson ++ (writeMoreItems (Node.toJsonList ns) ++ rest)) := by
      rw [Node.toJsonList, writeMoreItems, List.cons_append, List.cons_append, List.append_assoc]
      exact hn.value.nextItem_more _
    have hvalue := hn.value.readValue_measureOf
      (endsNumber_writeMoreItems (Node.toJsonList ns) rest)
    have hmore : readNodes d m false (writeMoreItems (Node.toJsonList ns) ++ rest) =
        .ok (ns, rest) := ih hns (by omega)
    simp only [readNodes, hnext, hvalue, hn.node, hmore, located, mapError_ok, bind,
      Except.bind, pure, Except.pure, if_true]

/-- The nodes of a list are read back. -/
theorem readNodes_writeItems (h : ∀ n ∈ ns, n.ReadsBack d)
    (hm : (writeItems (Node.toJsonList ns)).length ≤ measure) (rest : List Char) :
    readNodes d measure true (writeItems (Node.toJsonList ns) ++ rest) = .ok (ns, rest) := by
  cases ns with
  | nil =>
    obtain ⟨m, rfl⟩ : ∃ m, measure = m + 1 :=
      ⟨measure - 1, by simp [Node.toJsonList, writeItems] at hm; omega⟩
    rw [readNodes, Node.toJsonList, writeItems, List.singleton_append, nextItem_end]
    rfl
  | cons n ns =>
    obtain ⟨hn, hns⟩ := List.forall_mem_cons.1 h
    have hpos := hn.value.length_pos
    have hlength : (writeItems (Node.toJsonList (n :: ns))).length =
        (write n.toJson).length + (writeMoreItems (Node.toJsonList ns)).length := by
      simp [Node.toJsonList, writeItems]
    obtain ⟨m, rfl⟩ : ∃ m, measure = m + 1 := ⟨measure - 1, by omega⟩
    have hnext : nextItem true (writeItems (Node.toJsonList (n :: ns)) ++ rest) =
        .ok (true, write n.toJson ++ (writeMoreItems (Node.toJsonList ns) ++ rest)) := by
      rw [Node.toJsonList, writeItems, List.append_assoc]
      exact hn.value.nextItem_first _
    have hvalue := hn.value.readValue_measureOf
      (endsNumber_writeMoreItems (Node.toJsonList ns) rest)
    have hmore : readNodes d m false (writeMoreItems (Node.toJsonList ns) ++ rest) =
        .ok (ns, rest) := readNodes_writeMoreItems hns (by omega) rest
    simp only [readNodes, hnext, hvalue, hn.node, hmore, located, mapError_ok, bind,
      Except.bind, pure, Except.pure, if_true]

theorem readConnective_writeString (name : String) (rest : List Char) :
    readConnective (writeString name ++ rest) = .ok (some name, rest) := by
  obtain ⟨quoted, hquoted, hread⟩ := readString_writeString name rest
  rw [hquoted]
  simp [readConnective, skipBlanks_cons (c := '"') rfl, hread, Except.map]

theorem readChildren_write (h : ∀ n ∈ ns, n.ReadsBack (maxDepth - 2)) (rest : List Char) :
    readChildren (write (.array (Node.toJsonList ns)) ++ rest) = .ok (ns, rest) := by
  have hnodes : readNodes (maxDepth - 2) (measureOf (writeItems (Node.toJsonList ns) ++ rest)) true
      (writeItems (Node.toJsonList ns) ++ rest) = .ok (ns, rest) := by
    refine readNodes_writeItems h ?_ rest
    rw [measureOf, List.length_append]
    omega
  rw [write, List.cons_append]
  simp [readChildren, skipBlanks_cons (c := '[') rfl, hnodes, mapError_ok]

/-- The nodes of a filter are read as its last member. -/
theorem readMembers_filterClauses (h : ∀ n ∈ ns, n.ReadsBack (maxDepth - 2)) {first : Bool}
    {ms : Members} (hms : ms.children = none) {s rest : List Char}
    (hkey : nextKey first s = .ok (some "filter_clauses",
      ':' :: (write (.array (Node.toJsonList ns)) ++ '\x7d' :: rest))) :
    readMembers (measure + 2) first ms s =
      .ok ({ ms with children := some ns }, '\x7d' :: rest) := by
  have hend : readMembers (measure + 1) false { ms with children := some ns } ('\x7d' :: rest) =
      .ok ({ ms with children := some ns }, '\x7d' :: rest) := by
    rw [readMembers, nextKey_end]
    rfl
  rw [readMembers, hkey]
  simp [located, mapError_ok, bind, Except.bind, hms, readColon_colon, readChildren_write h,
    hend]

/-- A filter is read from its members, after the opening brace. -/
theorem readObject_writeMembers (h : ∀ n ∈ ns, n.ReadsBack (maxDepth - 2))
    (connective : Option String) (rest : List Char) :
    readObject (writeMembers (Node.groupMembers connective (Node.toJsonList ns)) ++ rest) =
      .ok (⟨connective, ns⟩, rest) := by
  -- each of the two members and the brace use up one unit of the measure
  have hmembers (m : Nat) : readMembers (m + 3) true {}
      (writeMembers (Node.groupMembers connective (Node.toJsonList ns)) ++ rest) =
        .ok (⟨connective.map some, some ns⟩, '\x7d' :: rest) := by
    cases connective with
    | none =>
      refine readMembers_filterClauses h rfl ?_
      simp only [Node.groupMembers, Option.map_none, Option.toList_none, List.nil_append,
        writeMembers, writeMoreMembers, List.append_assoc, List.cons_append]
      exact nextKey_first _
    | some name =>
      have hkey : nextKey true (writeMembers (Node.groupMembers (some name) (Node.toJsonList ns)) ++
          rest) = .ok (some "logical_op", ':' :: (writeString name ++ (',' ::
            (writeString "filter_clauses" ++ ':' :: (write (.array (Node.toJsonList ns)) ++
              '\x7d' :: rest))))) := by
        simp only [Node.groupMembers, Option.map_some, Option.toList_some, List.cons_append,
          List.nil_append, writeMembers, writeMoreMembers, write, List.append_assoc]
        exact nextKey_first _
      have hrest : readMembers (m + 2) false { connective := some (some name) }
          (',' :: (writeString "filter_clauses" ++
            ':' :: (write (.array (Node.toJsonList ns)) ++ '\x7d' :: rest))) =
          .ok (⟨some (some name), some ns⟩, '\x7d' :: rest) :=
        readMembers_filterClauses h rfl (nextKey_more _)
      rw [readMembers, hkey]
      simp [located, mapError_ok, bind, Except.bind, readColon_colon,
        readConnective_writeString, hrest]
  generalize hs : writeMembers (Node.groupMembers connective (Node.toJsonList ns)) ++ rest = s at *
  have hpos : 0 < s.length := by
    subst hs
    cases connective <;> simp [Node.groupMembers, writeMembers, writeString]
  obtain ⟨m, hm⟩ : ∃ m, measureOf s = m + 3 := ⟨2 * s.length - 1, by rw [measureOf]; omega⟩
  rw [readObject, hm, hmembers]
  cases connective <;> rfl

/-- A filter is the one that its text holds, with all its groups and clauses, if its clauses can be
stored and it is not nested more deeply than texts are read. -/
theorem read_text (f : Filter) (hclauses : ∀ c, f.toNode.HasClause c → c.Stored)
    (hdepth : f.toJson.depth ≤ maxDepth) : Filter.read f.text = .ok f := by
  have hchildren : ∀ n ∈ f.children, n.toJson.depth ≤ maxDepth - 2 := by
    -- the filter itself and the list of its nodes are two levels
    have hlist : (Json.array (Node.toJsonList f.children)).depth ≤ maxDepth - 1 :=
      depthOfMembers_le_iff.1 (Nat.le_of_succ_le_succ hdepth) ("filter_clauses", _)
        (List.mem_append_right _ List.mem_cons_self)
    intro n hn
    refine depthOfItems_le_iff.1 (Nat.le_of_succ_le_succ hlist) _ ?_
    rw [Node.toJsonList_eq_map]
    exact List.mem_map_of_mem hn
  have hnodes : ∀ n ∈ f.children, n.ReadsBack (maxDepth - 2) := fun n hn =>
    Node.readsBack (fun c hc => hclauses c (Node.hasClause_group_iff.2 ⟨n, hn, hc⟩))
      (hchildren n hn)
  have hobject := readObject_writeMembers hnodes f.connective []
  rw [List.append_nil] at hobject
  have hread : readChars (write f.toJson) = .ok f := by
    rw [toJson, write, readChars, readFilter, skipBlanks_cons rfl]
    simp [hobject, mapError_ok, bind, Except.bind, readEnd, skipBlanks, pure, Except.pure]
  rw [Filter.read, text, Json.text, String.toList_ofList, hread]
  rfl

/-- A group without a connective, with a raw value that looks like a group, one that is missing, and
a group whose connective is none. -/
theorem read_text_of_value_like_group :
    let inner : Json := .object [("filter_clauses", .array [.number (.ofInt (-5)), .null]),
      ("logical_op", .string "\n|\x00")]
    let f : Filter := ⟨none, [.clause ⟨"Flavor \"1\"", "is", inner⟩,
      .group (some "xor") [.clause ⟨"Größe", "\\", .null⟩], .group none []]⟩
    (∀ c, f.toNode.HasClause c → c.Stored) ∧ f.toJson.depth ≤ maxDepth ∧
      Filter.read f.text = .ok f := by
  intro inner f
  have hclauses : ∀ c, f.toNode.HasClause c → c.Stored := by
    intro c hc
    have hc' : c = ⟨"Flavor \"1\"", "is", inner⟩ ∨ c = ⟨"Größe", "\\", .null⟩ := by
      simpa [f, toNode] using hc
    rcases hc' with rfl | rfl
    · exact ⟨rfl, by simp [inner, numbers, numbersOfMembers, numbersOfItems, Number.ofInt, Exact]⟩
    · exact ⟨rfl, by simp [numbers]⟩
  have hdepth : f.toJson.depth ≤ maxDepth := by decide
  exact ⟨hclauses, hdepth, read_text f hclauses hdepth⟩

end Filter

end FilterSql
