/-
**Paging.**

The records of a type can be fetched page by page, by queries for windows of one size that follow
one another. A store answers each query as if it were the only one, and the windows cover the
records of the type in their order.

* `Store.receiveAll` — answers several queries, one after the other. A query that has been noted
  changes no later answer (`Store.receiveAll_eq`).
* `flatMap_windows` — windows of one size that follow one another cover the front of a list.
* `Partitions` — what the pages of a list of records say and hold.
* `Store.receiveAll_pages_partition` — the pages of a type partition the records with its tag.
-/

import Mathlib.Algebra.Order.Floor.Div
import RecordSchema.Proofs.Source.Store

namespace RecordSchema

open Json (Value)

/-! ### Several queries -/

/-- The query for the window of this index among windows of one size. -/
def Query.page (query : Query) (size index : Nat) : Query :=
  { query with startAt := index * size, maxResults := size }

/-- The queries for the first windows of one size. -/
def Query.pages (query : Query) (size count : Nat) : List Query :=
  (List.range count).map (query.page size)

namespace Store

/-- Answers queries one after the other, each by the store that the one before it leaves. -/
def receiveAll (store : Store) : List Query → List (Except SourceError Page) × Store
  | [] => ([], store)
  | query :: rest =>
    let (answer, next) := store.receive query
    let (answers, last) := next.receiveAll rest
    (answer :: answers, last)

/-- The store does not look at the queries that it has noted. -/
theorem answer_with_received (store : Store) (noted : List Query) (query : Query) :
    { store with received := noted }.answer query = store.answer query := rfl

/-- **Several queries** are answered each on its own, and noted in their order. -/
theorem receiveAll_eq (store : Store) (queries : List Query) :
    store.receiveAll queries =
      (queries.map store.answer, { store with received := store.received ++ queries }) := by
  induction queries generalizing store with
  | nil => simp [receiveAll]
  | cons query rest hypothesis =>
    have later : rest.map (store.receive query).2.answer = rest.map store.answer :=
      List.map_congr_left fun other _ => answer_with_received store _ other
    simp only [receiveAll, hypothesis, later, List.map_cons]
    simp [receive]

end Store

/-! ### Windows of a list -/

/-- **Windows of one size** that follow one another cover the front of a list. -/
theorem flatMap_windows {α : Type} (elements : List α) (size count : Nat) :
    ((List.range count).flatMap fun index => (elements.drop (index * size)).take size) =
      elements.take (count * size) := by
  induction count with
  | zero => simp
  | succ count hypothesis =>
    rw [List.range_succ, List.flatMap_append, hypothesis, List.flatMap_singleton, ← List.take_add,
      Nat.succ_mul]

/-- What pages of one size say and hold that partition the matching records. -/
structure Partitions (matching : List Value) (size : Nat) (pages : List Page) : Prop where
  /-- Every page tells how many records match. -/
  total_eq : ∀ page ∈ pages, page.total = some matching.length
  length_le : ∀ page ∈ pages, page.records.length ≤ size
  /-- A page that starts behind all matching records is empty. -/
  beyond : ∀ index page, pages[index]? = some page → matching.length ≤ index * size →
    page.records = []
  /-- Together the pages hold the first matching records in their order, each of them once. -/
  front : pages.flatMap Page.records = matching.take (pages.length * size)
  /-- They hold all of them exactly if there are as many pages as the records fill. -/
  whole_iff : pages.flatMap Page.records = matching ↔ matching.length ⌈/⌉ size ≤ pages.length

/-- The windows of a list partition it. -/
theorem partitions_windows (matching : List Value) {size : Nat} (positive : 1 ≤ size)
    (count : Nat) :
    Partitions matching size ((List.range count).map fun index =>
      { records := (matching.drop (index * size)).take size, total := some matching.length }) := by
  have covered := flatMap_windows matching size count
  refine ⟨?total, ?length, ?beyond, ?front, ?whole⟩
  case total =>
    intro page member
    obtain ⟨index, -, rfl⟩ := List.mem_map.mp member
    rfl
  case length =>
    intro page member
    obtain ⟨index, -, rfl⟩ := List.mem_map.mp member
    exact List.length_take_le size _
  case beyond =>
    intro index page found behind
    rw [List.getElem?_map, Option.map_eq_some_iff] at found
    obtain ⟨position, listed, rfl⟩ := found
    obtain ⟨_, same⟩ := List.getElem?_eq_some_iff.mp listed
    rw [List.getElem_range] at same
    rw [← same]
    show (matching.drop (index * size)).take size = []
    rw [List.drop_eq_nil_of_le behind, List.take_nil]
  case front =>
    rw [List.flatMap_map, List.length_map, List.length_range]
    exact covered
  case whole =>
    rw [List.flatMap_map, List.length_map, List.length_range, ceilDiv_le_iff_le_mul positive,
      Nat.mul_comm, ← List.take_eq_self_iff, ← covered]

namespace Store

/-- **The pages of a type** that is delivered partition the records with its tag, whatever has been
asked before. -/
theorem receiveAll_pages_partition (store : Store) {query : Query} {name : String} {size : Nat}
    (selects : query.typeName? = some name) (delivered : name ∉ store.failingTypes)
    (positive : 1 ≤ size) (count : Nat) :
    ∃ pages : List Page, pages.length = count ∧
      (store.receiveAll (query.pages size count)).1 = pages.map .ok ∧
      Partitions (store.records.filter fun record => typeTag? record == some name) size pages := by
  refine ⟨_, ?_, ?_, partitions_windows (store.tagged name) positive count⟩
  · rw [List.length_map, List.length_range]
  · rw [receiveAll_eq, Query.pages, List.map_map, List.map_map]
    apply List.map_congr_left
    intro index _
    have selected : (query.page size index).typeName? = some name := selects
    exact (answer_eq_ok_iff selected).mpr ⟨delivered, rfl⟩

/-- Three records of a type among others come on two pages of two records and one, and the page
after these is empty. -/
theorem receiveAll_pages_requirements :
    let requirement (title : String) : Value :=
      .object [("type", .string "Requirement"), ("title", .string title)]
    let store : Store := {
      records := [requirement "A", .object [("type", .string "Risk")], requirement "B", .null,
        requirement "C"]
      failingTypes := NameSet.empty.insert "Risk" }
    let query : Query := { expression := "type:Requirement", maxResults := 1 }
    query.typeName? = some "Requirement" ∧ "Requirement" ∉ store.failingTypes ∧ 1 ≤ 2 ∧
      ∃ pages : List Page, (store.receiveAll (query.pages 2 3)).1 = pages.map .ok ∧
        pages.flatMap Page.records = [requirement "A", requirement "B", requirement "C"] ∧
        ∀ page, pages[2]? = some page → page.records = [] := by
  intro requirement store query
  have selects : query.typeName? = some "Requirement" := by decide +kernel
  have delivered : "Requirement" ∉ store.failingTypes := by
    rw [← NameSet.contains_iff]
    decide +kernel
  obtain ⟨pages, length, answered, partitions⟩ :=
    receiveAll_pages_partition store selects delivered (show 1 ≤ 2 by decide) 3
  have matching : (store.records.filter fun record => typeTag? record == some "Requirement") =
      [requirement "A", requirement "B", requirement "C"] := rfl
  rw [matching] at partitions
  refine ⟨selects, delivered, by decide, pages, answered, ?_, fun page third => ?_⟩
  · exact partitions.whole_iff.mpr (by rw [length]; decide)
  · exact partitions.beyond 2 page third (by decide)

end Store

end RecordSchema
