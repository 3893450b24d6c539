/-
**Assembled documents.**

Item types stand in a document by falling count, and by name where the counts agree.

* `ItemType.precedes_trans`, `ItemType.precedes_total` — the order is one that sorting keeps to.
* `Document.itemTypes_ofParts_pairwise` — the order of the item types of a document.
* `Document.itemTypes_ofParts_perm`, `Document.totalItems_ofParts` — sorting neither loses nor adds
  an item type, and the total is that of the sorted ones.
* `ItemType.Arranges` — item types as a document lists them, which is possible in one way only
  (`ItemType.Arranges.eq`).
* `Document.ofParts_arranges` — so a document does not depend on the order in which its item types
  are given, and its number of relations does not depend on how many of them are listed.
-/

import RecordSchema.Document.Assembly

namespace RecordSchema

/-! ### The order of item types -/

namespace ItemType

theorem precedes_iff {first second : ItemType} :
    first.precedes second = true ↔
      second.count < first.count ∨ (first.count = second.count ∧ first.name ≤ second.name) := by
  rw [precedes, Bool.or_eq_true, Bool.and_eq_true, decide_eq_true_iff, decide_eq_true_iff,
    beq_iff_eq]

theorem precedes_trans (first second third : ItemType) (before : first.precedes second = true)
    (after : second.precedes third = true) : first.precedes third = true := by
  rw [precedes_iff] at before after ⊢
  rcases before with more | ⟨same, below⟩
  · rcases after with still | ⟨equal, _⟩
    · exact Or.inl (Nat.lt_trans still more)
    · exact Or.inl (equal ▸ more)
  · rcases after with more | ⟨equal, above⟩
    · exact Or.inl (same ▸ more)
    · exact Or.inr ⟨same.trans equal, String.le_trans below above⟩

theorem precedes_total (first second : ItemType) :
    (first.precedes second || second.precedes first) = true := by
  rw [Bool.or_eq_true, precedes_iff, precedes_iff]
  rcases Nat.lt_trichotomy first.count second.count with fewer | same | more
  · exact Or.inr (Or.inl fewer)
  · rcases String.le_total first.name second.name with below | above
    · exact Or.inl (Or.inr ⟨same, below⟩)
    · exact Or.inr (Or.inr ⟨same.symm, above⟩)
  · exact Or.inl (Or.inl more)

/-- Whether an item type is listed in front of another one: it has more items, or as many and the
smaller name. -/
def Leads (first second : ItemType) : Prop :=
  second.count < first.count ∨ (first.count = second.count ∧ first.name < second.name)

theorem Leads.asymm {first second : ItemType} (leads : first.Leads second) :
    ¬ second.Leads first := by
  rintro (fewer | ⟨same, below⟩)
  · rcases leads with more | ⟨same, -⟩ <;> omega
  · rcases leads with more | ⟨-, above⟩
    · omega
    · exact String.lt_asymm above below

/-- Whether item types are listed as a document lists them: all of them and no others, each one in
front of those that it leads. -/
structure Arranges (itemTypes listed : List ItemType) : Prop where
  perm : listed.Perm itemTypes
  leading : listed.Pairwise Leads

/-- **There is one arrangement only**, in whatever order the item types are given. -/
theorem Arranges.eq {itemTypes reordered listed others : List ItemType}
    (arranges : Arranges itemTypes listed) (again : Arranges reordered others)
    (same : reordered.Perm itemTypes) : others = listed := by
  refine List.Perm.eq_of_pairwise (fun first second _ _ leads led => ?_) again.leading
    arranges.leading (again.perm.trans (same.trans arranges.perm.symm))
  exact absurd led leads.asymm

end ItemType

namespace Document

/-! ### Item types of a document -/

theorem itemTypes_ofParts_perm (limits : DocumentLimits) (parts : DocumentParts) :
    (ofParts limits parts).itemTypes.Perm parts.itemTypes :=
  List.mergeSort_perm parts.itemTypes ItemType.precedes

/-- **Item types with different names** go down in their counts, and up in their names where the
counts agree. -/
theorem itemTypes_ofParts_pairwise (limits : DocumentLimits) {parts : DocumentParts}
    (distinct : (parts.itemTypes.map ItemType.name).Nodup) :
    (ofParts limits parts).itemTypes.Pairwise fun first second =>
      second.count < first.count ∨ (first.count = second.count ∧ first.name < second.name) := by
  have sorted : (ofParts limits parts).itemTypes.Pairwise fun first second =>
      first.precedes second = true :=
    List.pairwise_mergeSort ItemType.precedes_trans ItemType.precedes_total parts.itemTypes
  have different : (ofParts limits parts).itemTypes.Pairwise fun first second =>
      first.name ≠ second.name := by
    have names := (itemTypes_ofParts_perm limits parts).map ItemType.name
    exact List.pairwise_map.mp (names.nodup_iff.mpr distinct)
  refine (sorted.and different).imp fun both => ?_
  rcases ItemType.precedes_iff.mp both.1 with more | ⟨same, below⟩
  · exact Or.inl more
  · refine Or.inr ⟨same, String.not_le.mp fun above => both.2 ?_⟩
    exact String.le_antisymm below above

theorem arranges_ofParts (limits : DocumentLimits) {parts : DocumentParts}
    (distinct : (parts.itemTypes.map ItemType.name).Nodup) :
    ItemType.Arranges parts.itemTypes (ofParts limits parts).itemTypes :=
  ⟨itemTypes_ofParts_perm limits parts, itemTypes_ofParts_pairwise limits distinct⟩

/-! ### Totals -/

theorem itemTotal_perm {first second : List ItemType} (same : first.Perm second) :
    itemTotal first = itemTotal second := by
  unfold itemTotal
  rw [same.foldr_eq' fun one _ other _ sum => Nat.add_left_comm other.count one.count sum]

/-- The total over the item types, as they stand in the document. -/
theorem totalItems_ofParts (limits : DocumentLimits) (parts : DocumentParts) :
    (ofParts limits parts).summary.totalItems =
      (ofParts limits parts).itemTypes.foldr (fun itemType sum => itemType.count + sum) 0 %
        totalLimit :=
  itemTotal_perm (itemTypes_ofParts_perm limits parts).symm

/-- Where names decide the counts, the total is that of the names. -/
theorem foldr_count_eq (measure : String → Nat) {itemTypes : List ItemType}
    (counts : ∀ itemType ∈ itemTypes, itemType.count = measure itemType.name) :
    itemTypes.foldr (fun itemType sum => itemType.count + sum) 0 =
      (itemTypes.map ItemType.name).foldr (fun name sum => measure name + sum) 0 := by
  induction itemTypes with
  | nil => rfl
  | cons itemType rest hypothesis =>
    have later := hypothesis fun other member => counts other (List.mem_cons_of_mem _ member)
    rw [List.foldr_cons, List.map_cons, List.foldr_cons, later, counts itemType List.mem_cons_self]

theorem itemTypeCount_ofParts (limits : DocumentLimits) (parts : DocumentParts) :
    (ofParts limits parts).summary.itemTypeCount = (ofParts limits parts).itemTypes.length :=
  (itemTypes_ofParts_perm limits parts).length_eq.symm

theorem totalRelations_ofParts (limits : DocumentLimits) (parts : DocumentParts) :
    (ofParts limits parts).summary.totalRelations =
      (parts.relations.kinds.map RelationKind.count).foldr (· + ·) 0 := by
  rw [List.foldr_map]
  rfl

/-! ### Reordered item types -/

/-- **A document is the same** in whatever order its item types are given, where their names are
different. It lists all of them unchanged, in the only order by falling counts and then by names,
and counts the entries of all kinds of relations, however many of these it lists. -/
theorem ofParts_arranges (limits : DocumentLimits) {parts : DocumentParts}
    (distinct : (parts.itemTypes.map ItemType.name).Nodup) :
    (∀ reordered, reordered.Perm parts.itemTypes →
        ofParts limits { parts with itemTypes := reordered } = ofParts limits parts) ∧
      (∀ listed, ItemType.Arranges parts.itemTypes listed ↔
        listed = (ofParts limits parts).itemTypes) ∧
      ∀ cap, (ofParts { limits with relationCap := cap } parts).summary.totalRelations =
        (parts.relations.kinds.map RelationKind.count).foldr (· + ·) 0 := by
  have arranges := arranges_ofParts limits distinct
  refine ⟨fun reordered same => ?_, fun listed => ⟨fun again => ?_, ?_⟩, fun cap => ?_⟩
  · let others : DocumentParts := { parts with itemTypes := reordered }
    have names : (others.itemTypes.map ItemType.name).Nodup :=
      (same.map ItemType.name).nodup_iff.mpr distinct
    have again := arranges_ofParts limits names
    have listed : reordered.mergeSort ItemType.precedes =
      parts.itemTypes.mergeSort ItemType.precedes := arranges.eq again same
    unfold ofParts
    simp only [listed, itemTotal_perm same, same.length_eq]
  · exact arranges.eq again (List.Perm.refl _)
  · rintro rfl
    exact arranges
  · exact totalRelations_ofParts { limits with relationCap := cap } parts

/-- Two of three item types have as many items and are listed by their names, and of three entries
of two kinds of relations the total counts all while one kind is listed. -/
theorem ofParts_arranges_ties :
    let itemType (name : String) (count : Nat) : ItemType := {
      name := name
      count := count
      fields := SortedMap.empty
      samples := []
      shortName := none
      statuses := []
      outgoing := [] }
    let risk := itemType "Risk" 5
    let anomaly := itemType "Anomaly" 9
    let epic := itemType "Epic" 5
    let parts : DocumentParts := {
      project := ⟨"P", "Pump", none⟩
      versions := []
      chosen := none
      itemTypes := [risk, anomaly, epic]
      relations := ⟨[{ name := "B", count := 1 }, { name := "A", count := 2 }]⟩
      generatedAt := default }
    (parts.itemTypes.map ItemType.name).Nodup ∧
      ofParts {} { parts with itemTypes := [epic, risk, anomaly] } = ofParts {} parts ∧
      (ofParts {} parts).itemTypes = [anomaly, epic, risk] ∧
      (ofParts { relationCap := 1 } parts).summary.totalRelations = 3 := by
  intro itemType risk anomaly epic parts
  have distinct : (parts.itemTypes.map ItemType.name).Nodup := by decide +kernel
  obtain ⟨unchanged, arranged, total⟩ := ofParts_arranges {} distinct
  have listed : ItemType.Arranges parts.itemTypes [anomaly, epic, risk] := by
    refine ⟨?_, ?_⟩
    · show ([anomaly, epic] ++ [risk]).Perm ([risk] ++ [anomaly, epic])
      exact List.perm_append_comm
    · have first : anomaly.Leads epic ∧ anomaly.Leads risk :=
        ⟨Or.inl (by decide), Or.inl (by decide)⟩
      have second : epic.Leads risk := Or.inr ⟨rfl, by decide⟩
      simp [first, second]
  refine ⟨distinct, unchanged _ ?_, ((arranged _).mp listed).symm, total 1⟩
  show ([epic] ++ [risk, anomaly]).Perm ([risk, anomaly] ++ [epic])
  exact List.perm_append_comm

end Document

end RecordSchema
