/-
**Data types only get stronger.**

Each data type but the string needs something that speaks for it, and the strongest one that is
suggested is chosen. What an observation holds stays when records are added, so whatever was
suggested is suggested again.

* `DataType.strength` — the order of the data types.
* `Observation.Suggests` — what speaks for a data type; `Observation.suggests_dataType` and
  `Observation.strength_le_of_suggests` say that the strongest suggestion is chosen.
* `Observation.Grows` — what one contribution keeps (`Grows.extend`), and so a run of them
  (`Grows.gather`) and further records (`Tally.observation?_addAll_grows`).
* `Tally.strength_dataType_le` — further records never weaken a data type, and once enough values
  were seen they do not change whether it is rich text.
-/

import RecordSchema.Proofs.ItemType.Tally

namespace RecordSchema

/-- The strength of a data type: what is suggested more strongly wins. -/
def DataType.strength : DataType → Nat
  | string => 0
  | boolean => 1
  | datetime => 2
  | number => 3
  | richText => 4

namespace Observation

/-! ### Suggested data types -/

/-- Whether something in an observation speaks for a data type. Everything can be a string. -/
def Suggests (limits : InferenceLimits) (observation : Observation) : DataType → Prop
  | .string => True
  | .boolean => .boolean ∈ observation.hints
  | .datetime => .date ∈ observation.hints ∨ .datetime ∈ observation.hints
  | .number => .number ∈ observation.hints
  | .richText => observation.isNarrative limits = true

section Strongest

variable {limits : InferenceLimits} {observation : Observation}

theorem declares_iff {hint : Hint} :
    observation.declares hint = true ↔ hint ∈ observation.hints :=
  List.contains_iff_mem

theorem declares_temporal_iff :
    (observation.declares .date || observation.declares .datetime) = true ↔
      .date ∈ observation.hints ∨ .datetime ∈ observation.hints := by
  rw [Bool.or_eq_true, declares_iff, declares_iff]

/-- The data type of a field is suggested. -/
theorem suggests_dataType : observation.Suggests limits (observation.dataType limits) := by
  unfold dataType
  split
  case isTrue narrative => exact narrative
  split
  case isTrue number => exact declares_iff.mp number
  split
  case isTrue temporal => exact declares_temporal_iff.mp temporal
  split
  case isTrue boolean => exact declares_iff.mp boolean
  exact trivial

/-- **No stronger data type is suggested.** -/
theorem strength_le_of_suggests {wanted : DataType}
    (suggested : observation.Suggests limits wanted) :
    wanted.strength ≤ (observation.dataType limits).strength := by
  -- The rule for a suggested type applies unless an earlier one does, which gives a stronger type.
  cases wanted with
  | string => exact Nat.zero_le _
  | boolean =>
    rw [dataType, if_pos (declares_iff.mpr suggested)]
    split
    · decide
    split
    · decide
    split <;> decide
  | datetime =>
    rw [dataType, if_pos (declares_temporal_iff.mpr suggested)]
    split
    · decide
    split <;> decide
  | number =>
    rw [dataType, if_pos (declares_iff.mpr suggested)]
    split <;> decide
  | richText =>
    have narrative : observation.isNarrative limits = true := suggested
    have rich : observation.dataType limits = .richText := if_pos narrative
    exact Nat.le_of_eq (congrArg DataType.strength rich.symm)

theorem dataType_eq_richText_iff :
    observation.dataType limits = .richText ↔ observation.isNarrative limits = true := by
  constructor
  · intro rich
    have suggested : observation.Suggests limits (observation.dataType limits) := suggests_dataType
    rwa [rich] at suggested
  · intro narrative
    exact if_pos narrative

end Strongest

/-! ### Growing observations -/

/-- A later state of an observation: further values stand behind the earlier ones, and no hint is
lost. -/
structure Grows (earlier later : Observation) : Prop where
  key_eq : later.key = earlier.key
  values_prefix : earlier.values <+: later.values
  hints_subset : earlier.hints ⊆ later.hints

namespace Grows

variable {earlier later last : Observation} {limits : InferenceLimits}

theorem refl (observation : Observation) : observation.Grows observation :=
  ⟨rfl, List.prefix_rfl, fun _ declared => declared⟩

theorem trans (first : earlier.Grows later) (second : later.Grows last) : earlier.Grows last :=
  ⟨second.key_eq.trans first.key_eq, first.values_prefix.trans second.values_prefix,
    fun _ declared => second.hints_subset (first.hints_subset declared)⟩

/-- **One more contribution** makes an observation grow. -/
theorem extend (observation : Observation) (added : Contribution) :
    observation.Grows (Observation.extend added (some observation)) where
  key_eq := rfl
  values_prefix := List.prefix_append _ _
  hints_subset := fun _ declared => mem_hints_add.mpr (Or.inr declared)

/-- **A run of contributions** makes an observation grow. -/
theorem gather (observation : Observation) (contributions : List Contribution) :
    ∃ final, Observation.gather contributions (some observation) = some final ∧
      observation.Grows final := by
  induction contributions generalizing observation with
  | nil => exact ⟨observation, rfl, refl observation⟩
  | cons added rest hypothesis =>
    obtain ⟨final, reached, grows⟩ := hypothesis (Observation.extend added (some observation))
    exact ⟨final, reached, (extend observation added).trans grows⟩

/-- Among further values those that were seen as narrative are seen again. -/
theorem isNarrative (grows : earlier.Grows later)
    (narrative : earlier.isNarrative limits = true) : later.isNarrative limits = true := by
  unfold Observation.isNarrative at narrative ⊢
  rw [Bool.or_eq_true] at narrative ⊢
  rw [grows.key_eq]
  refine narrative.imp id fun found => ?_
  obtain ⟨further, values⟩ := grows.values_prefix
  unfold hasNarrativeValue at found ⊢
  rw [← values, List.take_append, List.filterMap_append, List.any_append, found, Bool.true_or]

/-- **Enough values** decide whether an observation is narrative. -/
theorem isNarrative_eq (grows : earlier.Grows later)
    (enough : limits.richTextScanLimit ≤ earlier.values.length) :
    later.isNarrative limits = earlier.isNarrative limits := by
  obtain ⟨further, values⟩ := grows.values_prefix
  unfold Observation.isNarrative hasNarrativeValue
  rw [grows.key_eq, ← values, List.take_append_of_le_length enough]

/-- What is suggested stays suggested. -/
theorem suggests (grows : earlier.Grows later) {wanted : DataType}
    (suggested : earlier.Suggests limits wanted) : later.Suggests limits wanted := by
  cases wanted with
  | string => exact trivial
  | boolean => exact grows.hints_subset suggested
  | datetime =>
    rcases suggested with date | datetime
    · exact Or.inl (grows.hints_subset date)
    · exact Or.inr (grows.hints_subset datetime)
  | number => exact grows.hints_subset suggested
  | richText => exact grows.isNarrative suggested

end Grows

end Observation

/-! ### Further records -/

/-- **Further records** make an observation grow. -/
theorem Tally.observation?_addAll_grows {tally : Tally} {key : String} {earlier : Observation}
    (observed : tally.observation? key = some earlier) (records : List Record) :
    ∃ later, (tally.addAll records).observation? key = some later ∧ earlier.Grows later := by
  unfold observation? at observed ⊢
  rw [observations_addAll, get?_foldl_contribute, observed]
  exact Observation.Grows.gather earlier _

/-- **Further records never weaken a data type.** Where enough values were seen before, they do not
change whether it is rich text either. -/
theorem Tally.strength_dataType_le (limits : InferenceLimits) (records further : List Record)
    {key : String} {earlier : Observation}
    (observed : (start.addAll records).observation? key = some earlier) :
    ∃ later, (start.addAll (records ++ further)).observation? key = some later ∧
      (earlier.dataType limits).strength ≤ (later.dataType limits).strength ∧
        (limits.richTextScanLimit ≤ earlier.values.length →
          (later.dataType limits = .richText ↔ earlier.dataType limits = .richText)) := by
  have split : start.addAll (records ++ further) = (start.addAll records).addAll further :=
    List.foldl_append ..
  obtain ⟨later, reached, grows⟩ := observation?_addAll_grows observed further
  rw [split]
  refine ⟨later, reached, ?_, fun enough => ?_⟩
  · have suggested : later.Suggests limits (earlier.dataType limits) :=
      grows.suggests Observation.suggests_dataType
    exact Observation.strength_le_of_suggests suggested
  · rw [Observation.dataType_eq_richText_iff, Observation.dataType_eq_richText_iff,
      grows.isNarrative_eq enough]

/-- A further date leaves a boolean field at least boolean, and its markup is not seen behind the
values that are scanned. -/
theorem Tally.strength_dataType_le_due :
    let limits : InferenceLimits := { richTextScanLimit := 1 }
    let records : List Record := [{ fields := [⟨"Due", some (.text "soon"), .boolean⟩] }]
    let further : List Record := [{ fields := [⟨"Due", some (.text "<p>late</p>"), .date⟩] }]
    ∃ earlier later,
      (start.addAll records).observation? "Due" = some earlier ∧
        (start.addAll (records ++ further)).observation? "Due" = some later ∧
        earlier.dataType limits = .boolean ∧
        DataType.boolean.strength ≤ (later.dataType limits).strength ∧
        later.dataType limits ≠ .richText := by
  intro limits records further
  have seen : ((start.addAll records).observation? "Due").map
      (fun observation => (observation.dataType limits, observation.values.length)) =
        some (.boolean, 1) := by
    decide +kernel
  obtain ⟨earlier, observed, facts⟩ := Option.map_eq_some_iff.mp seen
  obtain ⟨boolean, single⟩ := Prod.mk.inj facts
  obtain ⟨later, reached, stronger, settled⟩ := strength_dataType_le limits records further observed
  rw [boolean] at stronger settled
  refine ⟨earlier, later, observed, reached, boolean, stronger, fun rich => ?_⟩
  have sameType : DataType.boolean = .richText := (settled (Nat.le_of_eq single.symm)).mp rich
  cases sameType

end RecordSchema
