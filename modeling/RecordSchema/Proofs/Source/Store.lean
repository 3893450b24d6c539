/-
**What a store answers.**

* `Store.findItemRecords_eq_ok_iff` — the items whose records are delivered.
* `Store.answer_eq_ok_iff` — the page that a query brings.
* `Store.answer_typeExpression` — the page that the expression for a type brings.
* `Store.sum_length_tagged` — the records with one of several tags, counted tag by tag.
-/

import RecordSchema.Proofs.Source.Expression
import RecordSchema.Record.Basic

namespace RecordSchema

theorem NameSet.contains_iff {set : NameSet} {name : String} :
    set.contains name = true ↔ name ∈ set :=
  SortedMap.mem_names_iff.symm

theorem isObject_of_typeTag? {record : Json.Value} {tag : String}
    (tagged : typeTag? record = some tag) : record.isObject = true := by
  cases record with
  | object members => rfl
  | _ => cases tagged

namespace Store

theorem query_toSource (store : Store) (projectId : String) (query : Query) :
    store.toSource.query projectId query = store.answer query := rfl

/-- The records of an item are delivered exactly if there are any and the item does not fail. -/
theorem findItemRecords_eq_ok_iff {store : Store} {itemId : String} {records : List Json.Value} :
    store.findItemRecords itemId = .ok records ↔
      itemId ∉ store.failingItems ∧ store.itemRecords.get? itemId = some records := by
  rw [findItemRecords, ← NameSet.contains_iff]
  by_cases failing : store.failingItems.contains itemId = true
  · rw [if_pos failing]
    constructor
    · rintro ⟨⟩
    · exact fun both => absurd failing both.1
  · rw [if_neg failing]
    cases store.itemRecords.get? itemId with
    | none =>
      refine ⟨fun given => ?_, fun given => ?_⟩
      · cases given
      · obtain ⟨-, ⟨⟩⟩ := given
    | some found =>
      refine ⟨fun given => ?_, fun given => ?_⟩
      · cases given
        exact ⟨failing, rfl⟩
      · obtain ⟨-, ⟨⟩⟩ := given
        rfl

/-! ### Tagged records -/

theorem mem_tagged_iff {store : Store} {name : String} {record : Json.Value} :
    record ∈ store.tagged name ↔ record ∈ store.records ∧ typeTag? record = some name := by
  rw [tagged, List.mem_filter, beq_iff_eq]

/-- **A query that selects a type** is answered unless the type fails: by the window that it asks
for among the records with the type's tag, and the number of all of them. -/
theorem answer_eq_ok_iff {store : Store} {query : Query} {name : String} {page : Page}
    (selects : query.typeName? = some name) :
    store.answer query = .ok page ↔
      name ∉ store.failingTypes ∧
        page = {
          records := ((store.tagged name).drop query.startAt).take query.maxResults
          total := some (store.tagged name).length } := by
  rw [answer, selects, ← NameSet.contains_iff]
  dsimp only
  by_cases failing : store.failingTypes.contains name = true
  · rw [if_pos failing]
    constructor
    · rintro ⟨⟩
    · exact fun both => absurd failing both.1
  · rw [if_neg failing]
    refine ⟨fun given => ?_, fun given => ?_⟩
    · cases given
      exact ⟨failing, rfl⟩
    · obtain ⟨-, rfl⟩ := given
      rfl

/-- **The expression for a type** brings the first records with its name as their tag, and the
number of all of them, unless the type fails. -/
theorem answer_typeExpression {store : Store} {name : String} {limit : Nat} {page : Page}
    (nonempty : name ≠ "") (plain : ¬ SelfQuoted name) :
    store.answer { expression := typeExpression name, maxResults := limit } = .ok page ↔
      name ∉ store.failingTypes ∧
        page = {
          records := (store.tagged name).take limit
          total := some (store.tagged name).length } := by
  rw [answer_eq_ok_iff (typeName?_typeExpression limit nonempty plain), List.drop_zero]

/-- Elements with one of two properties that exclude each other are counted one property at a time.
-/
theorem countP_or_of_apart {α : Type} {one other : α → Bool}
    (apart : ∀ element, one element = true → other element = false) (elements : List α) :
    elements.countP (fun element => one element || other element) =
      elements.countP one + elements.countP other := by
  induction elements with
  | nil => rfl
  | cons element rest hypothesis =>
    rw [List.countP_cons, List.countP_cons, List.countP_cons, hypothesis]
    cases first : one element with
    | true =>
      rw [apart element first, Bool.true_or, if_pos rfl, if_neg Bool.false_ne_true]
      omega
    | false =>
      rw [Bool.false_or, if_neg Bool.false_ne_true]
      omega

/-- **Counting tag by tag**: the records with one of several different tags. -/
theorem sum_length_tagged (store : Store) {names : List String} (distinct : names.Nodup) :
    names.foldr (fun name sum => (store.tagged name).length + sum) 0 =
      store.records.countP fun record => names.any fun name => typeTag? record == some name := by
  induction names with
  | nil => exact (List.countP_eq_zero.mpr fun record _ => Bool.false_ne_true).symm
  | cons name rest hypothesis =>
    rw [List.nodup_cons] at distinct
    -- A record has one tag, which is either the first name or one of the others.
    have apart : ∀ record : Json.Value, (typeTag? record == some name) = true →
        (rest.any fun other => typeTag? record == some other) = false := by
      intro record first
      rw [beq_iff_eq] at first
      rw [List.any_eq_false]
      intro other member equal
      rw [first, beq_iff_eq, Option.some.injEq] at equal
      exact distinct.1 (equal ▸ member)
    rw [List.foldr_cons, hypothesis distinct.2, tagged, ← List.countP_eq_length_filter,
      ← countP_or_of_apart apart]
    rfl

end Store

end RecordSchema
