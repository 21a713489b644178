import Mathlib.Data.List.Dedup
import FilterSql.Override
import FilterSql.Proofs.Resolution.Lookup

/-!
# The registered overrides

A registration fails where one of its keys is taken or stands twice in its list, and the error names
the first value type for which this is so. A registration that succeeds adds its keys and nothing
else. In a sequence of registrations, some of which may fail, the keys stay distinct: what is found
under a key is the override of the one registration that succeeded with it.

## Main definitions

* `FilterSql.Registration`: a call that registers an override.
* `FilterSql.Overrides.after`, `FilterSql.Overrides.replay`: the overrides after one call and after
  several.
* `FilterSql.Overrides.accepted`: the calls of a sequence that succeed.
* `FilterSql.Overrides.Distinct`: no key is registered twice.
* `FilterSql.Overrides.Each`: every registered override has a property.

## Main results

* `FilterSql.Overrides.register_eq_ok_iff`, `FilterSql.Overrides.register_eq_error_iff`: the
  outcomes of a registration.
* `FilterSql.Overrides.lookup_of_register`: what is found after a registration.
* `FilterSql.Overrides.Distinct.after`, `FilterSql.Overrides.Distinct.replay`: the keys stay
  distinct.
* `FilterSql.Overrides.Each.replay`: a property of all registered overrides.
* `FilterSql.Overrides.entries_replay`: the entries after a sequence of calls.
* `FilterSql.Overrides.registered_by_accepted`: all of this for a sequence of calls.
-/

namespace FilterSql

namespace Overrides

variable {overrides overrides' : Overrides} {source : String} {types : List ValueType}
  {override : Override}

/-! ### One registration -/

/-- A value type conflicts with some overrides and the value types before it in a list if its key is
taken or if it is one of these. -/
def Conflicts (overrides : Overrides) (source : String) (earlier : List ValueType)
    (type : ValueType) : Prop :=
  overrides.lookup source type ≠ none ∨ type ∈ earlier

theorem firstConflict?_cons_of_conflicts {earlier : List ValueType} {type : ValueType}
    (h : overrides.Conflicts source earlier type) :
    overrides.firstConflict? source earlier (type :: types) = some type := by
  rw [firstConflict?, if_pos]
  simpa [Option.isSome_iff_ne_none, Conflicts] using h

theorem firstConflict?_cons_of_not_conflicts {earlier : List ValueType} {type : ValueType}
    (h : ¬ overrides.Conflicts source earlier type) :
    overrides.firstConflict? source earlier (type :: types) =
      overrides.firstConflict? source (type :: earlier) types := by
  rw [firstConflict?, if_neg]
  simpa [Option.isSome_iff_ne_none, Conflicts] using h

/-- Some value types are free of conflicts if their keys are not taken, none of them stands earlier,
and none stands twice among them. -/
theorem firstConflict?_eq_none_iff {earlier : List ValueType} :
    overrides.firstConflict? source earlier types = none ↔
      (∀ t ∈ types, ¬ overrides.Conflicts source earlier t) ∧ types.Nodup := by
  induction types generalizing earlier with
  | nil => simp [firstConflict?]
  | cons t ts ih =>
    by_cases h : overrides.Conflicts source earlier t
    · simp [firstConflict?_cons_of_conflicts h, h]
    · rw [firstConflict?_cons_of_not_conflicts h, ih, List.forall_mem_cons, List.nodup_cons,
        and_iff_right h]
      constructor
      · rintro ⟨hts, hnodup⟩
        refine ⟨fun u hu hconflicts => hts u hu ?_, fun ht => hts t ht ?_, hnodup⟩
        · exact hconflicts.imp_right (List.mem_cons_of_mem t)
        · exact .inr List.mem_cons_self
      · rintro ⟨hts, ht, hnodup⟩
        refine ⟨fun u hu hconflicts => ?_, hnodup⟩
        rcases hconflicts with htaken | hearlier
        · exact hts u hu (.inl htaken)
        · rcases List.mem_cons.1 hearlier with rfl | hearlier
          · exact ht hu
          · exact hts u hu (.inr hearlier)

/-- The first conflict among some value types is the one that conflicts with those before it, while
these are free of conflicts. -/
theorem firstConflict?_eq_some_iff {earlier : List ValueType} {type : ValueType} :
    overrides.firstConflict? source earlier types = some type ↔
      ∃ before after, types = before ++ type :: after ∧
        overrides.Conflicts source (before.reverse ++ earlier) type ∧
        overrides.firstConflict? source earlier before = none := by
  induction types generalizing earlier with
  | nil => simp [firstConflict?]
  | cons t ts ih =>
    by_cases h : overrides.Conflicts source earlier t
    · rw [firstConflict?_cons_of_conflicts h]
      constructor
      · rintro ⟨⟩
        exact ⟨[], ts, rfl, h, rfl⟩
      · rintro ⟨before, after, hsplit, -, hfree⟩
        cases before with
        | nil => exact congrArg some (List.cons.inj hsplit).1
        | cons u before =>
          obtain rfl : t = u := (List.cons.inj hsplit).1
          rw [firstConflict?_cons_of_conflicts h] at hfree
          cases hfree
    · rw [firstConflict?_cons_of_not_conflicts h, ih]
      constructor
      · rintro ⟨before, after, rfl, hconflicts, hfree⟩
        refine ⟨t :: before, after, rfl, by simpa using hconflicts, ?_⟩
        rw [firstConflict?_cons_of_not_conflicts h, hfree]
      · rintro ⟨before, after, hsplit, hconflicts, hfree⟩
        cases before with
        | nil =>
          obtain rfl : t = type := (List.cons.inj hsplit).1
          exact absurd hconflicts h
        | cons u before =>
          obtain ⟨rfl, rfl⟩ := List.cons.inj hsplit
          rw [firstConflict?_cons_of_not_conflicts h] at hfree
          exact ⟨before, after, rfl, by simpa using hconflicts, hfree⟩

/-- A registration succeeds if its keys are not taken and none stands twice in its list. It adds
them behind the others. -/
theorem register_eq_ok_iff :
    overrides.register source types override = .ok overrides' ↔
      ((∀ t ∈ types, overrides.lookup source t = none) ∧ types.Nodup) ∧
        ⟨overrides.entries ++ types.map fun t => ((source, t), override)⟩ = overrides' := by
  have hfree : overrides.firstConflict? source [] types = none ↔
      (∀ t ∈ types, overrides.lookup source t = none) ∧ types.Nodup := by
    simp [firstConflict?_eq_none_iff, Conflicts]
  rw [← hfree, register]
  cases overrides.firstConflict? source [] types <;> simp

/-- A registration fails with the first value type of its list whose key is taken or which stands
before it in the list. -/
theorem register_eq_error_iff {cause : Cause} :
    overrides.register source types override = .error cause ↔
      ∃ before type after, types = before ++ type :: after ∧
        overrides.Conflicts source before type ∧
        ((∀ t ∈ before, overrides.lookup source t = none) ∧ before.Nodup) ∧
        cause = .conflictingOverride source type := by
  have hfirst (type : ValueType) : overrides.firstConflict? source [] types = some type ↔
      ∃ before after, types = before ++ type :: after ∧ overrides.Conflicts source before type ∧
        (∀ t ∈ before, overrides.lookup source t = none) ∧ before.Nodup := by
    simp [firstConflict?_eq_some_iff, firstConflict?_eq_none_iff, Conflicts]
  rw [register]
  constructor
  · intro h
    split at h
    case h_1 type htype =>
      obtain ⟨before, after, hsplit, hconflicts, hbefore⟩ := (hfirst type).1 htype
      cases h
      exact ⟨before, type, after, hsplit, hconflicts, hbefore, rfl⟩
    case h_2 => cases h
  · rintro ⟨before, type, after, hsplit, hconflicts, hbefore, rfl⟩
    rw [(hfirst type).2 ⟨before, after, hsplit, hconflicts, hbefore⟩]

/-- A registration fails if one of its keys is taken or stands twice in its list. -/
theorem exists_register_eq_error_iff :
    (∃ cause, overrides.register source types override = .error cause) ↔
      (∃ t ∈ types, overrides.lookup source t ≠ none) ∨ ¬ types.Nodup := by
  have hok : (∃ o, overrides.register source types override = .ok o) ↔
      (∀ t ∈ types, overrides.lookup source t = none) ∧ types.Nodup := by
    simp [register_eq_ok_iff]
  rw [← not_iff_not]
  simp only [not_or, not_exists, not_and, ne_eq, not_not]
  rw [← hok]
  cases overrides.register source types override <;> simp

theorem lookup_map_const (keys : List OverrideKey) (override : Override) (key : OverrideKey) :
    (keys.map fun k => (k, override)).lookup key = if key ∈ keys then some override else none := by
  induction keys with
  | nil => simp
  | cons k keys ih =>
    rw [List.map_cons, List.lookup_cons, ih]
    by_cases h : key = k
    · simp [h]
    · simp [beq_eq_false_iff_ne.2 h, h]

/-- After a registration its override is found under its keys, and under all others what was found
before. -/
theorem lookup_of_register (h : overrides.register source types override = .ok overrides')
    (source' : String) (type : ValueType) :
    overrides'.lookup source' type =
      if source' = source ∧ type ∈ types then some override
      else overrides.lookup source' type := by
  obtain ⟨⟨hfree, -⟩, rfl⟩ := register_eq_ok_iff.1 h
  have hadded : (types.map fun t => ((source, t), override)).lookup (source', type) =
      if source' = source ∧ type ∈ types then some override else none := by
    have hkeys := lookup_map_const (types.map (source, ·)) override (source', type)
    rw [List.map_map] at hkeys
    simpa [Function.comp_def, eq_comm, and_comm] using hkeys
  rw [lookup, List.lookup_append, hadded]
  split
  case isTrue hkey =>
    obtain ⟨rfl, htype⟩ := hkey
    have hnone : overrides.entries.lookup (source', type) = none := hfree type htype
    rw [hnone, Option.none_or]
  case isFalse => rw [Option.or_none, lookup]

end Overrides

/-! ### Sequences of registrations -/

/-- A call that registers an override for a data source under some value types. -/
structure Registration where
  /-- The display name of the data source. -/
  source : String
  /-- The value types. -/
  types : List ValueType
  /-- The override. -/
  override : Override

namespace Registration

/-- The keys that a call names. -/
def keys (call : Registration) : List OverrideKey :=
  call.types.map fun type => (call.source, type)

/-- The keys that a call names, each with the override. -/
def entries (call : Registration) : List (OverrideKey × Override) :=
  call.keys.map fun key => (key, call.override)

theorem map_fst_entries (call : Registration) : call.entries.map Prod.fst = call.keys := by
  rw [entries, List.map_map]
  exact List.map_id _

theorem mem_entries_iff {call : Registration} {key : OverrideKey} {override : Override} :
    (key, override) ∈ call.entries ↔ key ∈ call.keys ∧ call.override = override := by
  rw [entries, List.mem_map]
  constructor
  · rintro ⟨k, hk, ⟨⟩⟩
    exact ⟨hk, rfl⟩
  · rintro ⟨hkey, rfl⟩
    exact ⟨key, hkey, rfl⟩

end Registration

namespace Overrides

variable {overrides : Overrides}

/-- What a call of registration gives. -/
def perform (overrides : Overrides) (call : Registration) : Except Cause Overrides :=
  overrides.register call.source call.types call.override

/-- The overrides after a call. One that fails leaves them as they are. -/
def after (overrides : Overrides) (call : Registration) : Overrides :=
  match overrides.perform call with
  | .ok overrides' => overrides'
  | .error _ => overrides

/-- The overrides after some calls, one after another. -/
def replay (overrides : Overrides) (calls : List Registration) : Overrides :=
  calls.foldl after overrides

/-- Those of some calls, one after another, that succeed. -/
def accepted (overrides : Overrides) : List Registration → List Registration
  | [] => []
  | call :: calls =>
    if (overrides.perform call).isOk then call :: (overrides.after call).accepted calls
    else (overrides.after call).accepted calls

/-- The registered keys. -/
def keys (overrides : Overrides) : List OverrideKey :=
  overrides.entries.map Prod.fst

/-- No key is registered twice. -/
def Distinct (overrides : Overrides) : Prop :=
  overrides.keys.Nodup

theorem lookup_eq_none_iff {source : String} {type : ValueType} :
    overrides.lookup source type = none ↔ (source, type) ∉ overrides.keys := by
  rw [lookup, List.lookup_eq_none_iff]
  constructor
  · intro h hmem
    obtain ⟨entry, hentry, hkey⟩ := List.mem_map.1 hmem
    simpa [hkey] using h entry hentry
  · intro h entry hentry
    exact bne_iff_ne.2 fun hkey => h (hkey ▸ List.mem_map_of_mem hentry)

theorem perform_eq_ok_iff {call : Registration} :
    overrides.perform call = .ok overrides' ↔
      ((∀ key ∈ call.keys, key ∉ overrides.keys) ∧ call.keys.Nodup) ∧
        ⟨overrides.entries ++ call.entries⟩ = overrides' := by
  have hnodup : call.keys.Nodup ↔ call.types.Nodup :=
    List.nodup_map_iff fun _ _ h => (Prod.ext_iff.1 h).2
  rw [perform, register_eq_ok_iff, hnodup, Registration.entries, Registration.keys, List.map_map,
    List.forall_mem_map]
  simp only [lookup_eq_none_iff, Function.comp_def]

theorem entries_after (overrides : Overrides) (call : Registration) :
    (overrides.after call).entries =
      overrides.entries ++ if (overrides.perform call).isOk then call.entries else [] := by
  rw [after]
  cases hperform : overrides.perform call with
  | ok overrides' =>
    obtain ⟨-, rfl⟩ := perform_eq_ok_iff.1 hperform
    rfl
  | error cause => exact (List.append_nil _).symm

/-- The overrides after some calls are those before, followed by the ones of the calls that
succeed. -/
theorem entries_replay (overrides : Overrides) (calls : List Registration) :
    (overrides.replay calls).entries =
      overrides.entries ++ (overrides.accepted calls).flatMap Registration.entries := by
  induction calls generalizing overrides with
  | nil => simp [replay, accepted]
  | cons call calls ih =>
    rw [replay, List.foldl_cons, ← replay, ih, entries_after, accepted]
    split <;> simp

/-- A call keeps the keys distinct. -/
theorem Distinct.after (h : overrides.Distinct) (call : Registration) :
    (overrides.after call).Distinct := by
  rw [Overrides.after]
  split
  case h_1 overrides' hperform =>
    obtain ⟨⟨hfree, hnodup⟩, rfl⟩ := perform_eq_ok_iff.1 hperform
    rw [Distinct, keys, List.map_append, Registration.map_fst_entries]
    refine List.nodup_append.2 ⟨h, hnodup, fun key hkey key' hkey' heq => ?_⟩
    exact hfree key' hkey' (heq ▸ hkey)
  case h_2 => exact h

/-- Calls one after another keep the keys distinct. -/
theorem Distinct.replay (h : overrides.Distinct) (calls : List Registration) :
    (overrides.replay calls).Distinct := by
  induction calls generalizing overrides with
  | nil => exact h
  | cons call calls ih => exact ih (h.after call)

/-- Under distinct keys each entry is found. -/
theorem Distinct.lookup_of_mem (h : overrides.Distinct) {source : String} {type : ValueType}
    {override : Override} (hmem : ((source, type), override) ∈ overrides.entries) :
    overrides.lookup source type = some override := by
  obtain ⟨before, after, hsplit⟩ := List.append_of_mem hmem
  refine List.lookup_eq_some_iff.2 ⟨before, after, hsplit, fun entry hentry => ?_⟩
  rw [Distinct, keys, hsplit, List.map_append, List.map_cons] at h
  have hne := (List.nodup_append.1 h).2.2 entry.1 (List.mem_map_of_mem hentry) (source, type)
    List.mem_cons_self
  simpa using hne.symm

/-- Every registered override has a property. -/
def Each (P : Override → Prop) (overrides : Overrides) : Prop :=
  ∀ source type override, overrides.lookup source type = some override → P override

theorem each_empty {P : Override → Prop} : empty.Each P := by
  rintro source type override ⟨⟩

/-- A call whose override has a property keeps it so for all. -/
theorem Each.after {P : Override → Prop} (h : overrides.Each P) {call : Registration}
    (hcall : P call.override) : (overrides.after call).Each P := by
  rw [Overrides.after]
  split
  case h_1 overrides' hperform =>
    intro source type override hlookup
    rw [lookup_of_register hperform] at hlookup
    split at hlookup
    · obtain rfl := Option.some.inj hlookup
      exact hcall
    · exact h source type override hlookup
  case h_2 => exact h

/-- Calls one after another whose overrides have a property keep it so for all. -/
theorem Each.replay {P : Override → Prop} (h : overrides.Each P) {calls : List Registration}
    (hcalls : ∀ call ∈ calls, P call.override) : (overrides.replay calls).Each P := by
  induction calls generalizing overrides with
  | nil => exact h
  | cons call calls ih =>
    obtain ⟨hcall, hrest⟩ := List.forall_mem_cons.1 hcalls
    exact ih (h.after hcall) hrest

theorem keys_replay_empty (calls : List Registration) :
    (empty.replay calls).keys = (empty.accepted calls).flatMap Registration.keys := by
  rw [keys, entries_replay, List.map_append, List.map_flatMap]
  simp only [Registration.map_fst_entries]
  rfl

theorem replay_append_singleton (calls : List Registration) (call : Registration) :
    overrides.replay (calls ++ [call]) = (overrides.replay calls).after call :=
  List.foldl_append

/-- After any sequence of registrations without overrides at its start, what is found under a key is
the override of the one call that succeeded and named this key, or nothing if none did, and the keys
of the calls that succeeded are counted once each. A further call fails just if one of its keys is
taken or stands twice in its list. The error names the first value type for which this is so, and
nothing that is registered changes. -/
theorem registered_by_accepted (calls : List Registration) :
    (∀ source type,
      (∃ call, IsOnly ((source, type) ∈ ·.keys) (empty.accepted calls) call ∧
        (empty.replay calls).lookup source type = some call.override) ∨
      ((∀ call ∈ empty.accepted calls, (source, type) ∉ call.keys) ∧
        (empty.replay calls).lookup source type = none)) ∧
    (empty.replay calls).size =
      ((empty.accepted calls).flatMap Registration.keys).dedup.length ∧
    ∀ call, let overrides := empty.replay calls
      ((∃ cause, overrides.perform call = .error cause) ↔
        (∃ type ∈ call.types, overrides.lookup call.source type ≠ none) ∨ ¬ call.types.Nodup) ∧
      ∀ cause, overrides.perform call = .error cause →
        (∃ before type after, call.types = before ++ type :: after ∧
          overrides.Conflicts call.source before type ∧
          ((∀ t ∈ before, overrides.lookup call.source t = none) ∧ before.Nodup) ∧
          cause = .conflictingOverride call.source type) ∧
        (∀ source type, (empty.replay (calls ++ [call])).lookup source type =
          overrides.lookup source type) ∧
        (empty.replay (calls ++ [call])).size = overrides.size := by
  have hempty : empty.Distinct := List.nodup_nil
  have hdistinct := hempty.replay calls
  have hkeys := keys_replay_empty calls
  have hnodup : ((empty.accepted calls).flatMap Registration.keys).Nodup := hkeys ▸ hdistinct
  refine ⟨fun source type => ?_, ?_, fun call => ⟨exists_register_eq_error_iff, fun cause h => ?_⟩⟩
  · by_cases hkey : (source, type) ∈ (empty.replay calls).keys
    · rw [hkeys] at hkey
      obtain ⟨call, hcall, hnamed⟩ := List.mem_flatMap.1 hkey
      refine .inl ⟨call, isOnly_of_nodup_flatMap hnodup hcall hnamed, hdistinct.lookup_of_mem ?_⟩
      rw [entries_replay]
      exact List.mem_append_right _
        (List.mem_flatMap.2 ⟨call, hcall, Registration.mem_entries_iff.2 ⟨hnamed, rfl⟩⟩)
    · refine .inr ⟨fun call hcall hnamed => hkey ?_, lookup_eq_none_iff.2 hkey⟩
      rw [hkeys]
      exact List.mem_flatMap.2 ⟨call, hcall, hnamed⟩
  · rw [hnodup.dedup, ← hkeys, keys, List.length_map, size]
  · have hafter : empty.replay (calls ++ [call]) = empty.replay calls := by
      rw [replay_append_singleton, after, h]
    exact ⟨register_eq_error_iff.1 h, fun source type => by rw [hafter], by rw [hafter]⟩

/-- Of two calls that fail between others nothing is kept, although their first value types are
free, and a call that repeats a free value type behind a taken one fails for the taken one. -/
theorem registered_by_accepted_among_failures :
    let first : Override := Recipe.override [.column]
    let second : Override := Recipe.override [.default]
    let calls : List Registration := [⟨"Flavor", [.bool, .string], first⟩,
      ⟨"Flavor", [.numeric, .bool], second⟩, ⟨"Flavor", [.numeric, .numeric], second⟩,
      ⟨"Scoops", [], second⟩, ⟨"Scoops", [.bool], second⟩]
    let call : Registration := ⟨"Flavor", [.collection, .string, .collection], second⟩
    let overrides := empty.replay calls
    (∃ accepted, IsOnly (("Flavor", .bool) ∈ ·.keys) (empty.accepted calls) accepted ∧
      overrides.lookup "Flavor" .bool = some accepted.override ∧ accepted.override = first) ∧
    overrides.lookup "Flavor" .numeric = none ∧
    (overrides.size = ((empty.accepted calls).flatMap Registration.keys).dedup.length ∧
      overrides.size = 3) ∧
    overrides.perform call = .error (.conflictingOverride "Flavor" .string) ∧
    (empty.replay (calls ++ [call])).size = overrides.size := by
  intro first second calls call overrides
  obtain ⟨hfound, hsize, hcalls⟩ := registered_by_accepted calls
  have herror : overrides.perform call = .error (.conflictingOverride "Flavor" .string) := rfl
  obtain ⟨-, -, hunchanged⟩ := (hcalls call).2 _ herror
  have hbool : overrides.lookup "Flavor" .bool = some first := rfl
  have hnumeric : overrides.lookup "Flavor" .numeric = none := rfl
  refine ⟨?_, hnumeric, ⟨hsize, rfl⟩, herror, hunchanged⟩
  rcases hfound "Flavor" .bool with ⟨accepted, honly, hlookup⟩ | ⟨-, hnone⟩
  · exact ⟨accepted, honly, hlookup, Option.some.inj (hlookup.symm.trans hbool)⟩
  · cases hbool.symm.trans hnone

end Overrides

end FilterSql
