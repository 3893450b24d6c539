/-
**What records contribute to one key.**

Records are folded into observations one contribution at a time, and the contributions to all keys
are interleaved. Only those to one key matter for its observation:

* `contributionsTo` — the contributions to a key, record after record: the present fixed attribute
  of that name, then the present field entries with that key.
* `Observation.Gathers` — what an observation holds of the contributions that it has seen. One more
  contribution keeps it (`Observation.Gathers.extend`), and so does a run
  (`Observation.Gathers.gather`).
* `gathers_of_foldl_contribute` — a run of contributions leaves exactly such observations.
-/

import RecordSchema.ItemType.Tally

namespace RecordSchema

/-! ### The contributions to a key -/

/-- What a record contributes to a key. -/
def Record.contributionsTo (key : String) (record : Record) : List Contribution :=
  (((FixedAttribute.all.find? fun which => which.name == key).bind record.presentAttribute?).map
      (Contribution.ofFixed key)).toList ++
    (record.presentEntries.filter fun present => fieldKey present.1.label == key).map
      fun present => Contribution.ofEntry present.1 present.2

/-- What records contribute to a key, in their order. -/
def contributionsTo (key : String) (records : List Record) : List Contribution :=
  records.flatMap (Record.contributionsTo key)

/-- Among attributes with different names, those of one name are at most one. -/
theorem filter_fixedValues (record : Record) (key : String) {attributes : List FixedAttribute}
    (distinct : (attributes.map FixedAttribute.name).Nodup) :
    (attributes.filterMap fun which =>
        (record.presentAttribute? which).map fun value => (which.name, value)).filter
          (fun named => named.1 == key) =
      (((attributes.find? fun which => which.name == key).bind record.presentAttribute?).map
        fun value => (key, value)).toList := by
  induction attributes with
  | nil => rfl
  | cons which rest hypothesis =>
    rw [List.map_cons, List.nodup_cons] at distinct
    by_cases same : which.name = key
    · have noOther : rest.find? (fun other => other.name == key) = none := by
        rw [List.find?_eq_none]
        intro other member equal
        rw [beq_iff_eq] at equal
        exact distinct.1 (same.trans equal.symm ▸ List.mem_map_of_mem member)
      have nothing := hypothesis distinct.2
      rw [noOther] at nothing
      rw [List.find?_cons_of_pos (by simpa using same), Option.bind_some, List.filterMap_cons]
      cases record.presentAttribute? which with
      | none => exact nothing
      | some value =>
        simp only [Option.map_some, List.filter_cons, same, beq_self_eq_true, if_true]
        rw [nothing]
        rfl
    · rw [List.find?_cons_of_neg (by simpa using same), ← hypothesis distinct.2,
        List.filterMap_cons]
      cases record.presentAttribute? which with
      | none => rfl
      | some value =>
        rw [Option.map_some, List.filter_cons_of_neg (by simpa using same)]

/-- **The contributions of a record under a key** are those to the key. -/
theorem filter_contributions (record : Record) (key : String) :
    (record.contributions.filter fun contribution => contribution.key == key) =
      record.contributionsTo key := by
  have fixed : (record.fixedValues.map fun named => Contribution.ofFixed named.1 named.2).filter
        (fun contribution => contribution.key == key) =
      (((FixedAttribute.all.find? fun which => which.name == key).bind
        record.presentAttribute?).map (Contribution.ofFixed key)).toList := by
    rw [List.filter_map]
    show (record.fixedValues.filter fun named => named.1 == key).map _ = _
    rw [Record.fixedValues, filter_fixedValues record key (by decide), ← Option.toList_map,
      Option.map_map]
    rfl
  have entries : (record.presentEntries.map fun present =>
        Contribution.ofEntry present.1 present.2).filter
        (fun contribution => contribution.key == key) =
      (record.presentEntries.filter fun present => fieldKey present.1.label == key).map
        fun present => Contribution.ofEntry present.1 present.2 := by
    rw [List.filter_map]
    rfl
  rw [Record.contributions, List.filter_append, fixed, entries, Record.contributionsTo]

/-- The contributions of records under a key are those to the key. -/
theorem filter_flatMap_contributions (records : List Record) (key : String) :
    ((records.flatMap Record.contributions).filter fun contribution => contribution.key == key) =
      contributionsTo key records := by
  rw [List.filter_flatMap, contributionsTo]
  exact congrArg (records.flatMap ·) (funext fun record => filter_contributions record key)

/-- Under a key without spaces and underscores stand the entries that are labelled so. -/
theorem Record.filter_key_presentEntries (record : Record) {key : String}
    (spaceless : ' ' ∉ key.toList) (solid : '_' ∉ key.toList) :
    (record.presentEntries.filter fun present => fieldKey present.1.label == key) =
      record.presentEntries.filter fun present => present.1.label == key := by
  refine List.filter_congr fun present _ => ?_
  rw [Bool.eq_iff_iff, beq_iff_eq, beq_iff_eq]
  exact fieldKey_eq_iff spaceless solid

/-- A present field entry contributes to the key of its label. -/
theorem mem_contributionsTo_of_entry {records : List Record} {record : Record}
    {entry : FieldEntry} {value : FieldValue} (recordMember : record ∈ records)
    (present : (entry, value) ∈ record.presentEntries) :
    Contribution.ofEntry entry value ∈ contributionsTo (fieldKey entry.label) records := by
  refine List.mem_flatMap.mpr ⟨record, recordMember, List.mem_append_right _ ?_⟩
  exact List.mem_map.mpr ⟨(entry, value), List.mem_filter.mpr ⟨present, by simp⟩, rfl⟩

/-- A present fixed attribute contributes to its name. -/
theorem mem_contributionsTo_of_attribute {records : List Record} {record : Record}
    {which : FixedAttribute} {value : FieldValue} (recordMember : record ∈ records)
    (present : record.presentAttribute? which = some value) :
    Contribution.ofFixed which.name value ∈ contributionsTo which.name records := by
  rw [← filter_flatMap_contributions, List.mem_filter]
  refine ⟨List.mem_flatMap.mpr ⟨record, recordMember, List.mem_append_left _ ?_⟩, by
    simp [Contribution.ofFixed]⟩
  refine List.mem_map.mpr ⟨(which.name, value), ?_, rfl⟩
  refine List.mem_filterMap.mpr ⟨which, ?_, by rw [present]; rfl⟩
  cases which <;> decide

theorem contributionsTo_ne_nil_of_mem {records : List Record} {record : Record}
    {entry : FieldEntry} {value : FieldValue} (recordMember : record ∈ records)
    (present : (entry, value) ∈ record.presentEntries) :
    contributionsTo (fieldKey entry.label) records ≠ [] :=
  List.ne_nil_of_mem (mem_contributionsTo_of_entry recordMember present)

/-! ### What an observation holds -/

/-- An observation holds some contributions under a key: all their values in order, the set of their
hints, and the label and the origin of the last one. -/
structure Observation.Gathers (observation : Observation) (key : String)
    (contributions : List Contribution) : Prop where
  key_eq : observation.key = key
  values_eq : observation.values = contributions.map Contribution.value
  hints_eq : observation.hints = Hint.all.filter fun hint =>
    contributions.any fun contribution => contribution.hint == some hint
  last_eq : ∃ last, contributions.getLast? = some last ∧
    observation.label = last.label ∧ observation.isCustom = last.isCustom

namespace Observation

theorem withHint_filter (contributions : List Contribution) (added : Contribution) :
    withHint (Hint.all.filter fun hint =>
        contributions.any fun contribution => contribution.hint == some hint) added.hint =
      Hint.all.filter fun hint =>
        (contributions ++ [added]).any fun contribution => contribution.hint == some hint := by
  cases declared : added.hint with
  | none =>
    refine List.filter_congr fun hint _ => ?_
    simp [declared]
  | some wanted =>
    refine List.filter_congr fun hint _ => ?_
    rw [Bool.eq_iff_iff, Bool.or_eq_true, List.contains_iff_mem, List.mem_filter,
      List.any_append, Bool.or_eq_true, or_comm]
    refine or_congr (and_iff_right (Hint.mem_all hint)) ?_
    rw [List.any_cons, List.any_nil, Bool.or_false, declared, beq_iff_eq, beq_iff_eq,
      Option.some.injEq, eq_comm]

/-- The first contribution to a key starts its observation. -/
theorem Gathers.first (added : Contribution) :
    (extend added none).Gathers added.key [added] where
  key_eq := rfl
  values_eq := rfl
  hints_eq := withHint_filter [] added
  last_eq := ⟨added, rfl, rfl, rfl⟩

/-- **One more contribution** is gathered behind the earlier ones. -/
theorem Gathers.extend {observation : Observation} {key : String}
    {contributions : List Contribution} (gathered : observation.Gathers key contributions)
    (added : Contribution) :
    (Observation.extend added (some observation)).Gathers key (contributions ++ [added]) where
  key_eq := gathered.key_eq
  values_eq := by
    rw [List.map_append, ← gathered.values_eq]
    rfl
  hints_eq := by
    rw [← withHint_filter, ← gathered.hints_eq]
    rfl
  last_eq := ⟨added, List.getLast?_concat, rfl, rfl⟩

def gather (contributions : List Contribution) (found : Option Observation) : Option Observation :=
  contributions.foldl (fun earlier added => some (Observation.extend added earlier)) found

/-- **A run of contributions** is gathered behind the earlier ones. -/
theorem Gathers.gather {observation : Observation} {key : String}
    {earlier : List Contribution} (gathered : observation.Gathers key earlier)
    (later : List Contribution) :
    ∃ final, Observation.gather later (some observation) = some final ∧
      final.Gathers key (earlier ++ later) := by
  induction later generalizing observation earlier with
  | nil => exact ⟨observation, rfl, by rwa [List.append_nil]⟩
  | cons added rest hypothesis =>
    obtain ⟨final, reached, holds⟩ := hypothesis (gathered.extend added)
    rw [List.append_assoc, List.singleton_append] at holds
    exact ⟨final, reached, holds⟩

end Observation

/-! ### The observations of a run -/

/-- A contribution changes the observation under its own key only. -/
theorem get?_contribute (observations : SortedMap Observation) (added : Contribution)
    (key : String) :
    (Tally.contribute observations added).get? key =
      if added.key = key then some (Observation.extend added (observations.get? key))
      else observations.get? key := by
  rw [Tally.contribute, SortedMap.get?_adjust]
  by_cases same : added.key = key
  · rw [if_pos same, if_pos same, same]
  · rw [if_neg same, if_neg same]

/-- **Only the contributions to a key** change its observation. -/
theorem get?_foldl_contribute (contributions : List Contribution)
    (observations : SortedMap Observation) (key : String) :
    (contributions.foldl Tally.contribute observations).get? key =
      Observation.gather (contributions.filter fun contribution => contribution.key == key)
        (observations.get? key) := by
  -- The map that the head leaves behind is another one, so the hypothesis has to hold for any map.
  induction contributions generalizing observations with
  | nil => rfl
  | cons added rest hypothesis =>
    rw [List.foldl_cons, hypothesis, get?_contribute]
    by_cases same : added.key = key
    · rw [if_pos same, List.filter_cons_of_pos (by simpa using same)]
      rfl
    · rw [if_neg same, List.filter_cons_of_neg (by simpa using same)]

/-- **A run from nothing** leaves an observation under exactly the keys with a contribution, and it
holds all of these. -/
theorem gathers_of_foldl_contribute (contributions : List Contribution) (key : String) :
    let found := (contributions.foldl Tally.contribute SortedMap.empty).get? key
    let own := contributions.filter fun contribution => contribution.key == key
    (found = none ↔ own = []) ∧
      ∀ observation, found = some observation → observation.Gathers key own := by
  dsimp only
  rw [get?_foldl_contribute, SortedMap.get?_empty]
  cases listed : contributions.filter fun contribution => contribution.key == key with
  | nil => exact ⟨⟨fun _ => rfl, fun _ => rfl⟩, fun observation found => by cases found⟩
  | cons added rest =>
    have own : added.key = key := by
      have member : added ∈ contributions.filter fun contribution => contribution.key == key :=
        listed ▸ List.mem_cons_self
      exact beq_iff_eq.mp (List.mem_filter.mp member).2
    obtain ⟨final, reached, holds⟩ := (Observation.Gathers.first added).gather rest
    rw [own, List.singleton_append] at holds
    have found : Observation.gather (added :: rest) none = some final := reached
    rw [found]
    refine ⟨⟨fun absent => (by cases absent), fun empty => (by cases empty)⟩, ?_⟩
    rintro observation ⟨⟩
    exact holds

end RecordSchema
