/-
**The most frequent relations.**

A ranking sorts the kinds of a catalogue by falling count and cuts the list off. The sort is stable
and comes before the cut, so kinds with one count are kept in the order in which their names were
discovered, and those that are cut off were discovered last.

* `Outranks` — the order of the ranking: more entries, or as many and discovered earlier.
* `pairwise_outranks_mergeSort` — a stable sort by the count brings the kinds into this order.
* `RelationCatalogue.Ranks` — what a ranking keeps, and what it leaves out.
* `RelationCatalogue.Ranks.eq` — this determines the ranking.
* `RelationCatalogue.countAll_ranks` — the catalogue of any batches ranks its kinds so.
-/

import Mathlib.Data.List.Nodup
import Mathlib.Data.List.Perm.Subperm
import RecordSchema.Proofs.Relation.Batches

namespace RecordSchema

/-- The place of a kind in the order of discovery: where its name first occurs among the relation
entries of the batches. -/
def RecordBatch.discovery (batches : List RecordBatch) (kind : RelationKind) : Nat :=
  (RecordBatch.names batches).idxOf kind.name

/-- Whether a kind comes in front of another one: it has more entries, or as many and was discovered
earlier. -/
def Outranks (batches : List RecordBatch) (first second : RelationKind) : Prop :=
  second.count < first.count ∨
    first.count = second.count ∧
      RecordBatch.discovery batches first < RecordBatch.discovery batches second

section

variable {batches : List RecordBatch} {first second : RelationKind}

theorem Outranks.asymm (before : Outranks batches first second) :
    ¬ Outranks batches second first := by
  unfold Outranks at before ⊢
  omega

theorem Outranks.count_le (before : Outranks batches first second) :
    second.count ≤ first.count := by
  unfold Outranks at before
  omega

end

namespace RelationCatalogue

open RecordBatch (discovery)

variable {batches : List RecordBatch} {first second : RelationKind}

/-! ### A stable sort -/

/-- Whether a kind may stand in front of another one by its count alone. -/
def countOrder (first second : RelationKind) : Bool :=
  decide (second.count ≤ first.count)

theorem countOrder_iff : countOrder first second = true ↔ second.count ≤ first.count :=
  decide_eq_true_iff

theorem countOrder_trans (one two three : RelationKind) (before : countOrder one two = true)
    (behind : countOrder two three = true) : countOrder one three = true := by
  rw [countOrder_iff] at before behind ⊢
  omega

theorem countOrder_total (one two : RelationKind) :
    (countOrder one two || countOrder two one) = true := by
  rw [Bool.or_eq_true, countOrder_iff, countOrder_iff]
  omega

/-- **Kinds with one count** keep their order in a sort by the count. -/
theorem filter_count_mergeSort (kinds : List RelationKind) (count : Nat) :
    (kinds.mergeSort countOrder).filter (fun kind => kind.count == count) =
      kinds.filter fun kind => kind.count == count := by
  have level : (kinds.filter fun kind => kind.count == count).Pairwise
      fun first second => countOrder first second = true := by
    refine List.pairwise_of_forall_mem_list fun first firstKept second secondKept => ?_
    have same := beq_iff_eq.mp (List.mem_filter.mp firstKept).2
    have also := beq_iff_eq.mp (List.mem_filter.mp secondKept).2
    exact countOrder_iff.mpr (Nat.le_of_eq (also.trans same.symm))
  have kept := (List.sublist_mergeSort countOrder_trans countOrder_total level
    List.filter_sublist).filter fun kind => kind.count == count
  simp only [List.filter_filter, Bool.and_self] at kept
  have many := ((List.mergeSort_perm kinds countOrder).filter fun kind => kind.count == count)
  exact (kept.eq_of_length many.length_eq.symm).symm

/-- **A stable sort by the count** brings kinds that stand in the order of their discovery into the
order of the ranking. -/
theorem pairwise_outranks_mergeSort {kinds : List RelationKind}
    (discovered : kinds.Pairwise fun first second =>
      discovery batches first < discovery batches second) :
    (kinds.mergeSort countOrder).Pairwise (Outranks batches) := by
  have sorted := List.pairwise_mergeSort countOrder_trans countOrder_total kinds
  refine List.pairwise_of_forall_sublist fun {first second} pair => ?_
  have falling := countOrder_iff.mp (sorted.forall_sublist pair)
  rcases Nat.lt_or_eq_of_le falling with fewer | same
  · exact Or.inl fewer
  · -- The pair stands among the kinds with its count, which the sort leaves as they were.
    have level := pair.filter fun kind => kind.count == first.count
    rw [filter_count_mergeSort] at level
    have whole : [first, second].filter (fun kind => kind.count == first.count) =
        [first, second] := by
      simp [same]
    rw [whole] at level
    exact Or.inr ⟨same.symm, discovered.forall_sublist (level.trans List.filter_sublist)⟩

/-! ### Rankings -/

/-- What a ranking of a catalogue keeps under a cap, and what it leaves out. -/
structure Ranks (batches : List RecordBatch) (catalogue : RelationCatalogue) (cap : Nat)
    (listed : List RelationKind) : Prop where
  length_eq : listed.length = min cap catalogue.kinds.length
  /-- The kinds are listed as they stand in the catalogue. -/
  mem_kinds : ∀ kind ∈ listed, kind ∈ catalogue.kinds
  names_nodup : (listed.map RelationKind.name).Nodup
  counts_falling : listed.Pairwise fun first second => second.count ≤ first.count
  ties_discovered : listed.Pairwise fun first second =>
    first.count = second.count → discovery batches first < discovery batches second
  /-- What is left out has fewer entries than all that is listed, or as many and was discovered
  later. -/
  left_out : ∀ kind ∈ catalogue.kinds, kind ∉ listed → ∀ kept ∈ listed,
    kind.count < kept.count ∨
      kind.count = kept.count ∧ discovery batches kept < discovery batches kind

namespace Ranks

variable {catalogue : RelationCatalogue} {cap : Nat} {listed others : List RelationKind}

theorem nodup (ranks : Ranks batches catalogue cap listed) : listed.Nodup :=
  List.Nodup.of_map _ ranks.names_nodup

theorem outranks_of_left_out (ranks : Ranks batches catalogue cap listed) {kind kept : RelationKind}
    (member : kind ∈ catalogue.kinds) (left : kind ∉ listed) (keeps : kept ∈ listed) :
    Outranks batches kept kind :=
  (ranks.left_out kind member left kept keeps).imp_right fun tie => ⟨tie.1.symm, tie.2⟩

theorem pairwise_outranks (ranks : Ranks batches catalogue cap listed) :
    listed.Pairwise (Outranks batches) := by
  refine List.Pairwise.imp ?_ (ranks.counts_falling.and ranks.ties_discovered)
  rintro first second ⟨falling, tied⟩
  rcases Nat.lt_or_eq_of_le falling with fewer | same
  · exact Or.inl fewer
  · exact Or.inr ⟨same.symm, tied same.symm⟩

/-- What one ranking keeps, every ranking keeps. -/
theorem subset (ranks : Ranks batches catalogue cap listed)
    (again : Ranks batches catalogue cap others) : listed ⊆ others := by
  have size : others.length = listed.length := again.length_eq.trans ranks.length_eq.symm
  intro kind member
  by_contra left
  -- There is room for the kind, so the other ranking has one that this one leaves out.
  have more : ¬ others ⊆ listed := by
    intro within
    have same :=
      (List.subperm_of_subset again.nodup within).perm_of_length_le (Nat.le_of_eq size.symm)
    exact left (same.mem_iff.mpr member)
  simp only [List.subset_def, Classical.not_forall] at more
  obtain ⟨other, otherMember, missing⟩ := more
  have above := again.outranks_of_left_out (ranks.mem_kinds kind member) left otherMember
  have below := ranks.outranks_of_left_out (again.mem_kinds other otherMember) missing member
  exact above.asymm below

/-- **There is one ranking only.** -/
theorem eq (ranks : Ranks batches catalogue cap listed)
    (again : Ranks batches catalogue cap others) : listed = others := by
  have reordered : listed.Perm others := by
    rw [List.perm_ext_iff_of_nodup ranks.nodup again.nodup]
    exact fun kind => ⟨fun member => ranks.subset again member,
      fun member => again.subset ranks member⟩
  refine List.Perm.eq_of_pairwise (fun first second _ _ before behind => ?_)
    ranks.pairwise_outranks again.pairwise_outranks reordered
  exact absurd behind before.asymm

end Ranks

/-- The kinds of a catalogue stand in the order in which they were discovered. -/
theorem Summarises.pairwise_discovery {catalogue : RelationCatalogue}
    (summarises : catalogue.Summarises batches) :
    catalogue.kinds.Pairwise fun first second =>
      discovery batches first < discovery batches second :=
  List.Pairwise.of_map RelationKind.name (fun _ _ before => before) summarises.names_pairwise

/-- **A catalogue** ranks its kinds: the most frequent ones come first, and of those with one count
the ones that were discovered first. -/
theorem Summarises.ranks {catalogue : RelationCatalogue}
    (summarises : catalogue.Summarises batches) (cap : Nat) :
    Ranks batches catalogue cap (catalogue.ranked cap) := by
  let sorted := catalogue.kinds.mergeSort countOrder
  have perm : sorted.Perm catalogue.kinds := List.mergeSort_perm _ _
  have ordered : sorted.Pairwise (Outranks batches) :=
    pairwise_outranks_mergeSort summarises.pairwise_discovery
  have kept : (sorted.take cap).Sublist sorted := List.take_sublist cap sorted
  refine ⟨?length, fun kind => mem_kinds_of_mem_ranked,
    names_ranked_nodup summarises.names_nodup cap, ?counts, ?ties, ?left⟩
  case length =>
    show (sorted.take cap).length = _
    rw [List.length_take, perm.length_eq]
  case counts =>
    exact (ordered.sublist kept).imp Outranks.count_le
  case ties =>
    refine (ordered.sublist kept).imp ?_
    rintro first second (fewer | ⟨-, earlier⟩) same
    · exact absurd same (Nat.ne_of_gt fewer)
    · exact earlier
  case left =>
    intro kind member left other listed
    have cut : kind ∈ sorted.drop cap := by
      have whole := perm.mem_iff.mpr member
      rw [← List.take_append_drop cap sorted, List.mem_append] at whole
      exact whole.resolve_left left
    rw [← List.take_append_drop cap sorted, List.pairwise_append] at ordered
    exact (ordered.2.2 other listed kind cut).imp_right fun tie => ⟨tie.1.symm, tie.2⟩

/-- **The catalogue of any batches** is built, and its ranking under any cap keeps the most frequent
kinds, with ties in the order of discovery. No other list does. -/
theorem countAll_ranks (batches : List RecordBatch) (cap : Nat) :
    ∃ builder, RelationBuilder.countAll batches = some builder ∧
      Ranks batches builder.finish cap (builder.finish.ranked cap) ∧
      ∀ others, Ranks batches builder.finish cap others → others = builder.finish.ranked cap := by
  obtain ⟨builder, built, finished⟩ :=
    Option.map_eq_some_iff.mp (RelationBuilder.countAll_eq batches)
  have ranks := (summarises_countAll batches).ranks cap
  rw [← finished] at ranks
  exact ⟨builder, built, ranks, fun others again => again.eq ranks⟩

/-- Of four relations two are cut off: the one with a single entry, and of the three with two
entries the one that was discovered last. -/
example :
    let record : Record := { relations := ["D", "B", "A", "C", "C", "A", "B"].map (⟨·, none⟩) }
    ((countAll [⟨"Requirement", [record]⟩]).ranked 2).map RelationKind.name = ["B", "A"] := by
  cbv

end RelationCatalogue

end RecordSchema
