/-
**Sorted maps of listed pairs.**

* `Entries.find?_append` — a name is looked up in the first list and then in the second.
* `SortedMap.names_nodup`, `SortedMap.mem_values_iff` — what the lists of names and values hold.
* `SortedMap.bound_of_get?_foldl_insert` — what a run of bindings leaves behind, and
  `SortedMap.get?_foldl_insert`, that it is the last binding of each name.
* `SortedMap.get?_ofList_iff` — where the names of the pairs differ, all pairs are kept.
* `SortedMap.names_ext`, `NameSet.ext_mem`, `NameSet.names_ofList_congr` — names in order are
  determined by what they are.
-/

import Mathlib.Data.List.Induction
import RecordSchema.SortedMap

namespace RecordSchema

/-- A name is looked up in the first of two lists, and only then in the second. -/
theorem Entries.find?_append {α : Type} (name : String) (first second : List (String × α)) :
    find? name (first ++ second) = (find? name first).or (find? name second) := by
  induction first with
  | nil => rfl
  | cons entry rest hypothesis =>
    obtain ⟨key, value⟩ := entry
    rw [List.cons_append, find?, find?]
    by_cases same : key = name
    · rw [if_pos same, if_pos same, Option.some_or]
    · rw [if_neg same, if_neg same, hypothesis]

namespace SortedMap

variable {α : Type}

theorem names_nodup (map : SortedMap α) : map.names.Nodup :=
  map.names_pairwise_lt.imp fun below => Entries.ne_of_lt below

theorem mem_values_iff {map : SortedMap α} {value : α} :
    value ∈ map.values ↔ ∃ name, map.get? name = some value := by
  rw [values, List.mem_map]
  refine ⟨fun given => ?_, fun given => ?_⟩
  · obtain ⟨⟨name, value⟩, member, rfl⟩ := given
    exact ⟨name, mem_entries_iff.mp member⟩
  · obtain ⟨name, found⟩ := given
    exact ⟨(name, value), mem_entries_iff.mpr found, rfl⟩

/-- **The last binding of a name stays** in a run, and without any the older one. -/
theorem get?_foldl_insert {β : Type} (elements : List β) (name : β → String) (value : β → α)
    (map : SortedMap α) (wanted : String) :
    (elements.foldl (fun map element => map.insert (name element) (value element))
      map).get? wanted =
        ((elements.filter fun element => name element == wanted).getLast?.map value).or
          (map.get? wanted) := by
  induction elements using List.reverseRecOn with
  | nil => rfl
  | append_singleton earlier last hypothesis =>
    rw [List.foldl_append, List.foldl_cons, List.foldl_nil, get?_insert, hypothesis,
      List.filter_append, List.getLast?_append]
    by_cases same : name last = wanted
    · simp [same]
    · simp [same]

/-- What is bound after a run was bound before it or by one of its elements. -/
theorem bound_of_get?_foldl_insert {β : Type} {elements : List β} {name : β → String}
    {value : β → α} {map : SortedMap α} {wanted : String} {found : α}
    (bound : (elements.foldl (fun map element => map.insert (name element) (value element))
      map).get? wanted = some found) :
    map.get? wanted = some found ∨
      ∃ element ∈ elements, name element = wanted ∧ value element = found := by
  rw [get?_foldl_insert, Option.or_eq_some_iff] at bound
  rcases bound with last | ⟨-, older⟩
  · obtain ⟨element, isLast, valued⟩ := Option.map_eq_some_iff.mp last
    obtain ⟨member, named⟩ := List.mem_filter.mp (List.mem_of_getLast? isLast)
    exact Or.inr ⟨element, member, beq_iff_eq.mp named, valued⟩
  · exact Or.inl older

/-- Pairs with different names are all bound, and older bindings stay under other names. -/
theorem get?_foldl_insert_iff {pairs : List (String × α)}
    (distinct : (pairs.map Prod.fst).Nodup) (map : SortedMap α) (name : String) (value : α) :
    (pairs.foldl (fun map pair => map.insert pair.1 pair.2) map).get? name = some value ↔
      (name, value) ∈ pairs ∨ (name ∉ pairs.map Prod.fst ∧ map.get? name = some value) := by
  induction pairs generalizing map with
  | nil => simp
  | cons pair rest hypothesis =>
    obtain ⟨key, bound⟩ := pair
    rw [List.map_cons, List.nodup_cons] at distinct
    rw [List.foldl_cons, hypothesis distinct.2, get?_insert, List.mem_cons, List.map_cons,
      List.mem_cons, Prod.mk.injEq, not_or]
    by_cases same : key = name
    · subst same
      have later : (key, value) ∉ rest := fun member =>
        distinct.1 (List.mem_map.mpr ⟨(key, value), member, rfl⟩)
      rw [if_pos rfl, Option.some.injEq]
      simp only [later, distinct.1, false_or, not_false_eq_true, true_and, not_true_eq_false,
        false_and, or_false]
      exact eq_comm
    · have other : name ≠ key := fun equal => same equal.symm
      rw [if_neg same]
      simp only [other, false_and, false_or, not_false_eq_true, true_and]

/-- **Pairs with different names** are exactly the bindings of the map that they make. -/
theorem get?_ofList_iff {pairs : List (String × α)} (distinct : (pairs.map Prod.fst).Nodup)
    (name : String) (value : α) :
    (ofList pairs).get? name = some value ↔ (name, value) ∈ pairs := by
  rw [ofList, get?_foldl_insert_iff distinct, get?_empty]
  exact or_iff_left fun older => nomatch older.2

/-- Two lists of the same names in order are the same list. -/
theorem names_ext {first second : List String} (firstAscending : first.Pairwise (· < ·))
    (secondAscending : second.Pairwise (· < ·))
    (same : ∀ name, name ∈ first ↔ name ∈ second) : first = second := by
  have firstNodup : first.Nodup := firstAscending.imp fun below => Entries.ne_of_lt below
  have secondNodup : second.Nodup := secondAscending.imp fun below => Entries.ne_of_lt below
  have reordered : first.Perm second :=
    (List.perm_ext_iff_of_nodup firstNodup secondNodup).mpr same
  refine List.Perm.eq_of_pairwise (fun name other _ _ below above => ?_)
    firstAscending secondAscending reordered
  exact absurd above (String.lt_asymm below)

end SortedMap

/-- The set of listed names holds these names. -/
theorem NameSet.mem_ofList_iff {members : List String} {name : String} :
    name ∈ (NameSet.ofList members).names ↔ name ∈ members := by
  have nothing : name ∉ NameSet.empty.names := List.not_mem_nil
  rw [ofList, mem_insertAll_iff]
  exact or_iff_left nothing

/-- Sets with the same members are the same set. -/
theorem NameSet.ext_mem {first second : NameSet} (same : ∀ name, name ∈ first ↔ name ∈ second) :
    first = second := by
  refine SortedMap.ext_get? fun name => ?_
  have bound : (first.get? name).isSome ↔ (second.get? name).isSome := by
    rw [← SortedMap.mem_names_iff, ← SortedMap.mem_names_iff]
    exact same name
  cases inFirst : first.get? name <;> cases inSecond : second.get? name <;>
    simp [inFirst, inSecond] at bound ⊢

theorem NameSet.names_ofList_congr {first second : List String}
    (same : ∀ name, name ∈ first ↔ name ∈ second) :
    (NameSet.ofList first).names = (NameSet.ofList second).names := by
  have sets : NameSet.ofList first = NameSet.ofList second :=
    ext_mem fun name => mem_ofList_iff.trans ((same name).trans mem_ofList_iff.symm)
  rw [sets]

end RecordSchema
