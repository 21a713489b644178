import FilterSql.Proofs.Json.ReadBack
import FilterSql.Proofs.Outcome
import FilterSql.Value.Canonical

/-!
# Collections and their canonical texts

A collection is read from a list of texts and of choices, each of which is reduced to its
identifier, a text or a whole number. Its canonical text lists the identifiers themselves. Read
again, a text is an element of a collection but a number is not, so the canonical text gives the
collection back just if all of its identifiers are texts. Otherwise it is refused.

## Main definitions

* `FilterSql.ChoiceId.isText`: the identifiers that are texts.

## Main results

* `FilterSql.Value.read_collection_of_read`: the text of a list is read like the list.
* `FilterSql.Value.readChoiceIds_toJson`: what is read from a list of identifiers.
* `FilterSql.Value.collection_read_again`: what the canonical text of a collection is read as.
-/

namespace FilterSql

namespace ChoiceId

/-- The identifiers that are texts. -/
def isText : ChoiceId → Bool
  | text _ => true
  | int _ => false

/-- The whole numbers among the identifiers are kept exactly in JSON. -/
def Exact (ids : List ChoiceId) : Prop :=
  ∀ n, int n ∈ ids → Json.Exact n

variable {ids : List ChoiceId}

/-! ### Identifiers as JSON -/

theorem canonicalItems_map_toJson (ids : List ChoiceId) :
    Json.canonicalItems (ids.map toJson) = ids.map toJson := by
  induction ids with
  | nil => rfl
  | cons id ids ih =>
    rw [List.map_cons, Json.canonicalItems, ih]
    cases id <;> rfl

theorem depth_toJson (id : ChoiceId) : id.toJson.depth = 0 := by
  cases id <;> rfl

theorem numbers_toJson {id : ChoiceId} {n : Json.Number} (h : n ∈ id.toJson.numbers) :
    ∃ m, id = int m ∧ n = .ofInt m := by
  cases id with
  | int m => exact ⟨m, rfl, List.mem_singleton.1 h⟩
  | text s => cases h

/-- The list of some identifiers is read from its text. -/
theorem read_text_toJson (h : Exact ids) :
    Json.read (Json.array (ids.map toJson)).text = .ok (.array (ids.map toJson)) := by
  refine Json.read_of_canonical (congrArg Json.array (canonicalItems_map_toJson ids))
    (fun n hn => ?_) (Nat.succ_le_succ (Json.depthOfItems_le_iff.2 ?_))
  · obtain ⟨x, hx, hn⟩ := Json.mem_numbersOfItems_iff.1 hn
    obtain ⟨id, hid, rfl⟩ := List.mem_map.1 hx
    obtain ⟨m, rfl, rfl⟩ := numbers_toJson hn
    rw [Json.Number.ofInt, dif_pos (h m hid)]
    exact Json.Number.readsBack_int m (h m hid)
  · exact List.forall_mem_map.2 fun id _ => by rw [depth_toJson]; exact Nat.zero_le _

end ChoiceId

namespace Value

variable {raw : Json} {s : String} {v : Value} {items : List Json} {ids : List ChoiceId}

/-! ### Reading collections -/

/-- The text of a list is read like the list. -/
theorem read_collection_of_read (h : Json.read s = .ok (.array items)) :
    read .collection (.string s) = read .collection (.array items) := by
  simp only [read, readCollection, h]

theorem read_collection_array_of_ok (h : readChoiceIds items = .ok ids) :
    read .collection (.array items) = .ok (.collection ids) := by
  simp only [read, readCollection, h]

theorem read_collection_array_of_error {problem : Problem}
    (h : readChoiceIds items = .error problem) :
    read .collection (.array items) = .error (.invalidValue .collection problem) := by
  simp only [read, readCollection, h, invalid]

/-- A collection is read from a list of elements, which stands for itself or is held by a text. -/
theorem exists_of_read_collection (h : read .collection raw = .ok v) :
    ∃ items ids, readChoiceIds items = .ok ids ∧ v = .collection ids := by
  simp only [read, readCollection] at h
  split at h
  next ids hids =>
    obtain rfl := Except.ok.inj h
    split at hids
    next items => exact ⟨items, ids, hids, rfl⟩
    next =>
      split at hids
      next items _ => exact ⟨items, ids, hids, rfl⟩
      all_goals cases hids
    next => cases hids
  next => cases h

/-- A whole number that is read as an identifier is kept exactly in JSON. -/
theorem exact_of_readChoiceId {x : Json} {n : Int} (h : readChoiceId x = .ok (.int n)) :
    Json.Exact n := by
  rw [readChoiceId.eq_def] at h
  split at h
  case h_1 => cases h
  case h_2 =>
    split at h
    case h_2 m _ =>
      split at h
      next i hi =>
        obtain rfl : i = n := ChoiceId.int.inj (Except.ok.inj h)
        cases m with
        | int k exact =>
          rw [Json.Number.toInt64?] at hi
          split at hi
          · exact Option.some.inj hi ▸ exact
          · cases hi
        | float x => cases hi
      next => cases h
    all_goals cases h
  case h_3 => cases h

theorem exact_of_readChoiceIds (h : readChoiceIds items = .ok ids) : ChoiceId.Exact ids := by
  induction items generalizing ids with
  | nil =>
    obtain rfl := Except.ok.inj h
    exact fun _ hn => absurd hn List.not_mem_nil
  | cons x items ih =>
    rw [readChoiceIds, List.mapM_cons] at h
    obtain ⟨id, hid, h⟩ := bind_eq_ok_iff.1 h
    obtain ⟨ids, hids, h⟩ := bind_eq_ok_iff.1 h
    obtain rfl := Except.ok.inj h
    rintro n (_ | ⟨_, hn⟩)
    · exact exact_of_readChoiceId hid
    · exact ih hids n hn

/-- From a list of identifiers these identifiers are read if they are all texts. A whole number is
no element of a collection. -/
theorem readChoiceIds_toJson (ids : List ChoiceId) :
    readChoiceIds (ids.map ChoiceId.toJson) =
      if ids.all ChoiceId.isText then .ok ids else .error .notChoice := by
  induction ids with
  | nil => rfl
  | cons id ids ih =>
    rw [readChoiceIds] at ih ⊢
    rw [List.map_cons, List.mapM_cons, ih]
    cases id with
    | int n => rfl
    | text s =>
      have hid : readChoiceId (ChoiceId.text s).toJson = .ok (.text s) := rfl
      have hall : (ChoiceId.text s :: ids).all ChoiceId.isText = ids.all ChoiceId.isText := rfl
      rw [hid, hall]
      cases ids.all ChoiceId.isText <;> rfl

/-! ### Canonical texts read again -/

/-- The canonical text of every collection that can be read lists its identifiers. It is read as the
collection, and is then its own canonical text, if all identifiers are texts. If one of them is a
whole number, the text is refused, since no element of a collection is a number. -/
theorem collection_read_again (raw : Json) (v : Value) (h : read .collection raw = .ok v) :
    ∃ ids s, v = .collection ids ∧ canonicalText .collection v = .ok s ∧
      (ids.all ChoiceId.isText = true →
        read .collection (.string s) = .ok v ∧ canonicalTextOf .collection (.string s) = .ok s) ∧
      (ids.all ChoiceId.isText = false →
        read .collection (.string s) = .error (.invalidValue .collection .notChoice) ∧
          canonicalTextOf .collection (.string s) =
            .error (.invalidValue .collection .notChoice)) := by
  obtain ⟨items, ids, hids, rfl⟩ := exists_of_read_collection h
  have htext := ChoiceId.read_text_toJson (exact_of_readChoiceIds hids)
  have hread := read_collection_of_read htext
  have hlist := readChoiceIds_toJson ids
  refine ⟨ids, _, rfl, rfl, fun hall => ?_, fun hall => ?_⟩
  · rw [hall] at hlist
    rw [read_collection_array_of_ok hlist] at hread
    exact ⟨hread, by rw [canonicalTextOf, hread]; rfl⟩
  · rw [hall] at hlist
    rw [read_collection_array_of_error hlist] at hread
    exact ⟨hread, by rw [canonicalTextOf, hread]; rfl⟩

/-- Two texts, one of them the identifier of a choice, are read again. -/
theorem collection_read_again_of_texts :
    let raw : Json := .array [.string "a\"b",
      .object [("id", .string "größer"), ("name", .string "Mint")]]
    let ids : List ChoiceId := [.text "a\"b", .text "größer"]
    read .collection raw = .ok (.collection ids) ∧
      ∃ s, canonicalText .collection (.collection ids) = .ok s ∧
        read .collection (.string s) = .ok (.collection ids) := by
  intro raw ids
  have hraw : read .collection raw = .ok (.collection ids) := rfl
  obtain ⟨ids', s, hids, hs, htexts, -⟩ := collection_read_again raw _ hraw
  obtain rfl := Value.collection.inj hids
  exact ⟨hraw, s, hs, (htexts rfl).1⟩

/-- A choice with a whole number as its identifier makes a collection whose canonical text is
refused. -/
theorem collection_of_number_refused :
    read .collection (.array [.object [("id", .number (.ofInt 7))]]) =
        .ok (.collection [.int 7]) ∧
      canonicalText .collection (.collection [.int 7]) = .ok "[7]" ∧
      read .collection (.string "[7]") = .error (.invalidValue .collection .notChoice) :=
  ⟨rfl, rfl, rfl⟩

end Value

end FilterSql
