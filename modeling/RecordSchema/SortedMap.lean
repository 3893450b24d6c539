/-
**Maps from names to values, kept in the order of their names.**

Names are compared by code point, and every name occurs once, so two maps with the same bindings are
the same map:

* `SortedMap.get?_insert` — binding a name changes the answer for that name and for no other.
* `SortedMap.ext_get?` — a map is determined by its answers.
* `SortedMap.adjust` — rewriting the value under one name, which is `insert` after `get?`.

A `NameSet` is a map that binds its members to nothing; `NameSet.mem_insert_iff` says what it holds.
-/

namespace RecordSchema

universe u v

/-! ### Entry lists -/

namespace Entries

variable {α : Type u}

/-- The value of the first entry under a name. -/
def find? (name : String) : List (String × α) → Option α
  | [] => none
  | (key, value) :: rest => if key = name then some value else find? name rest

/-- Binds a name at its place, in front of the first larger name; an older value is replaced. -/
def insert (name : String) (value : α) : List (String × α) → List (String × α)
  | [] => [(name, value)]
  | (key, old) :: rest =>
    if name < key then (name, value) :: (key, old) :: rest
    else if name = key then (name, value) :: rest
    else (key, old) :: insert name value rest

def Ascending (entries : List (String × α)) : Prop :=
  entries.Pairwise fun first second => first.1 < second.1

theorem mem_insert {name : String} {value : α} {entries : List (String × α)} {entry : String × α}
    (member : entry ∈ insert name value entries) : entry = (name, value) ∨ entry ∈ entries := by
  induction entries with
  | nil => exact Or.inl (by simpa [insert] using member)
  | cons head rest hypothesis =>
    obtain ⟨key, old⟩ := head
    unfold insert at member
    split at member
    · simpa using member
    · split at member
      · rcases List.mem_cons.mp member with equal | later
        · exact Or.inl equal
        · exact Or.inr (List.mem_cons_of_mem _ later)
      · rcases List.mem_cons.mp member with equal | later
        · exact Or.inr (equal ▸ List.mem_cons_self)
        · rcases hypothesis later with new | older
          · exact Or.inl new
          · exact Or.inr (List.mem_cons_of_mem _ older)

theorem lt_of_not_lt_of_ne {first second : String} (notBelow : ¬ first < second)
    (different : first ≠ second) : second < first := by
  rcases Classical.em (second < first) with below | notAbove
  · exact below
  · exact absurd (String.le_antisymm (String.not_lt.mp notAbove) (String.not_lt.mp notBelow))
      different

/-- Binding a name keeps the order. -/
theorem Ascending.insert {name : String} {value : α} {entries : List (String × α)}
    (ascending : Ascending entries) : Ascending (insert name value entries) := by
  induction entries with
  | nil => simp [Entries.insert, Ascending]
  | cons head rest hypothesis =>
    obtain ⟨key, old⟩ := head
    have above := (List.pairwise_cons.mp ascending).1
    have tailAscending : Ascending rest := (List.pairwise_cons.mp ascending).2
    unfold Entries.insert
    split
    · rename_i below
      refine List.pairwise_cons.mpr ⟨fun entry member => ?_, ascending⟩
      rcases List.mem_cons.mp member with equal | later
      · exact equal ▸ below
      · exact String.lt_trans below (above entry later)
    · rename_i notBelow
      split
      · rename_i same
        exact List.pairwise_cons.mpr ⟨fun entry member => same ▸ above entry member, tailAscending⟩
      · rename_i different
        refine List.pairwise_cons.mpr ⟨fun entry member => ?_, hypothesis tailAscending⟩
        rcases mem_insert member with new | older
        · exact new ▸ lt_of_not_lt_of_ne notBelow different
        · exact above entry older

theorem find?_insert (name other : String) (value : α) (entries : List (String × α)) :
    find? other (insert name value entries) =
      if name = other then some value else find? other entries := by
  induction entries with
  | nil => simp [insert, find?]
  | cons head rest hypothesis =>
    obtain ⟨key, old⟩ := head
    unfold insert
    split
    · simp [find?]
    · split
      · rename_i same
        subst same
        by_cases equal : name = other <;> simp [find?, equal]
      · rename_i different
        by_cases equal : key = other
        · simp [find?, equal, show name ≠ other from fun same => different (same.trans equal.symm)]
        · simp [find?, equal, hypothesis]

theorem find?_eq_none_of_forall {name : String} {entries : List (String × α)}
    (absent : ∀ entry ∈ entries, entry.1 ≠ name) : find? name entries = none := by
  induction entries with
  | nil => rfl
  | cons head rest hypothesis =>
    obtain ⟨key, old⟩ := head
    simp [find?, absent (key, old) List.mem_cons_self,
      hypothesis fun entry member => absent entry (List.mem_cons_of_mem _ member)]

theorem mem_of_find? {name : String} {value : α} {entries : List (String × α)}
    (found : find? name entries = some value) : (name, value) ∈ entries := by
  induction entries with
  | nil => simp [find?] at found
  | cons head rest hypothesis =>
    obtain ⟨key, old⟩ := head
    unfold find? at found
    split at found
    · rename_i same
      simp_all
    · exact List.mem_cons_of_mem _ (hypothesis found)

theorem ne_of_lt {first second : String} (below : first < second) : first ≠ second :=
  fun same => String.lt_irrefl second (same ▸ below)

/-- In ascending entries each entry is the one that is found under its name. -/
theorem find?_of_mem {entries : List (String × α)} (ascending : Ascending entries)
    {name : String} {value : α} (member : (name, value) ∈ entries) :
    find? name entries = some value := by
  induction entries with
  | nil => simp at member
  | cons head rest hypothesis =>
    obtain ⟨key, old⟩ := head
    have above := (List.pairwise_cons.mp ascending).1
    rcases List.mem_cons.mp member with equal | later
    · cases equal
      simp [find?]
    · have different : key ≠ name := ne_of_lt (above _ later)
      simp [find?, different, hypothesis (List.pairwise_cons.mp ascending).2 later]

/-- Ascending entries that answer alike are alike. -/
theorem eq_of_find?_eq {first second : List (String × α)} (ascendingFirst : Ascending first)
    (ascendingSecond : Ascending second) (alike : ∀ name, find? name first = find? name second) :
    first = second := by
  induction first generalizing second with
  | nil =>
    cases second with
    | nil => rfl
    | cons head rest =>
      have := alike head.1
      simp [find?] at this
  | cons head rest hypothesis =>
    obtain ⟨key, value⟩ := head
    have above := (List.pairwise_cons.mp ascendingFirst).1
    cases second with
    | nil =>
      have := alike key
      simp [find?] at this
    | cons other others =>
      obtain ⟨otherKey, otherValue⟩ := other
      have otherAbove := (List.pairwise_cons.mp ascendingSecond).1
      have inSecond : (key, value) ∈ (otherKey, otherValue) :: others :=
        mem_of_find? (by rw [← alike]; simp [find?])
      have inFirst : (otherKey, otherValue) ∈ (key, value) :: rest :=
        mem_of_find? (by rw [alike]; simp [find?])
      have sameHead : (key, value) = (otherKey, otherValue) := by
        rcases List.mem_cons.mp inSecond with equal | later
        · exact equal
        · rcases List.mem_cons.mp inFirst with equal | laterFirst
          · exact equal.symm
          · exact absurd (String.lt_trans (above _ laterFirst) (otherAbove _ later))
              (String.lt_irrefl _)
      cases sameHead
      refine congrArg _ (hypothesis (List.pairwise_cons.mp ascendingFirst).2
        (List.pairwise_cons.mp ascendingSecond).2 fun name => ?_)
      by_cases same : key = name
      · subst same
        rw [find?_eq_none_of_forall fun entry member => (ne_of_lt (above entry member)).symm,
          find?_eq_none_of_forall fun entry member => (ne_of_lt (otherAbove entry member)).symm]
      · simpa [find?, same] using alike name

end Entries

/-! ### Sorted maps -/

/-- A finite map from names to values, listed in the order of the names. -/
structure SortedMap (α : Type u) where
  entries : List (String × α)
  ascending : Entries.Ascending entries

namespace SortedMap

variable {α : Type u} {β : Type v}

def empty : SortedMap α :=
  ⟨[], List.Pairwise.nil⟩

instance : Inhabited (SortedMap α) := ⟨empty⟩

def get? (map : SortedMap α) (name : String) : Option α :=
  Entries.find? name map.entries

def contains (map : SortedMap α) (name : String) : Bool :=
  (map.get? name).isSome

/-- Binds a name, replacing its older value. -/
def insert (map : SortedMap α) (name : String) (value : α) : SortedMap α :=
  ⟨Entries.insert name value map.entries, map.ascending.insert⟩

/-- Rewrites the value under one name, given what the map held there. -/
def adjust (map : SortedMap α) (name : String) (change : Option α → α) : SortedMap α :=
  map.insert name (change (map.get? name))

def names (map : SortedMap α) : List String :=
  map.entries.map Prod.fst

def values (map : SortedMap α) : List α :=
  map.entries.map Prod.snd

def size (map : SortedMap α) : Nat :=
  map.entries.length

def isEmpty (map : SortedMap α) : Bool :=
  map.entries.isEmpty

/-- Changes every value and keeps the names. -/
def map (f : α → β) (source : SortedMap α) : SortedMap β where
  entries := source.entries.map fun entry => (entry.1, f entry.2)
  ascending := by
    unfold Entries.Ascending
    rw [List.pairwise_map]
    exact source.ascending

/-- Binds the pairs of a list from first to last, so that the last value of a name stays. -/
def ofList (pairs : List (String × α)) : SortedMap α :=
  pairs.foldl (fun map pair => map.insert pair.1 pair.2) empty

@[simp] theorem get?_empty (name : String) : (empty : SortedMap α).get? name = none := rfl

@[simp] theorem get?_insert (map : SortedMap α) (name other : String) (value : α) :
    (map.insert name value).get? other = if name = other then some value else map.get? other :=
  Entries.find?_insert name other value map.entries

@[simp] theorem get?_adjust (map : SortedMap α) (name other : String) (change : Option α → α) :
    (map.adjust name change).get? other =
      if name = other then some (change (map.get? name)) else map.get? other :=
  get?_insert map name other _

/-- Two maps that answer alike are the same map. -/
theorem ext_get? {first second : SortedMap α} (alike : ∀ name, first.get? name = second.get? name) :
    first = second := by
  have entries := Entries.eq_of_find?_eq first.ascending second.ascending alike
  cases first
  cases second
  cases entries
  rfl

/-- The listed bindings are the answers of the map. -/
theorem mem_entries_iff {map : SortedMap α} {name : String} {value : α} :
    (name, value) ∈ map.entries ↔ map.get? name = some value :=
  ⟨Entries.find?_of_mem map.ascending, Entries.mem_of_find?⟩

theorem mem_names_iff {map : SortedMap α} {name : String} :
    name ∈ map.names ↔ (map.get? name).isSome := by
  unfold names
  rw [List.mem_map]
  constructor
  · rintro ⟨⟨key, value⟩, member, rfl⟩
    rw [mem_entries_iff.mp member]
    rfl
  · intro bound
    obtain ⟨value, found⟩ := Option.isSome_iff_exists.mp bound
    exact ⟨(name, value), mem_entries_iff.mpr found, rfl⟩

theorem names_pairwise_lt (map : SortedMap α) : map.names.Pairwise (· < ·) :=
  List.Pairwise.map _ (fun _ _ below => below) map.ascending

/-- Changing every value changes every answer. -/
@[simp] theorem get?_map (f : α → β) (source : SortedMap α) (name : String) :
    (source.map f).get? name = (source.get? name).map f := by
  obtain ⟨entries, ascending⟩ := source
  simp only [get?, map]
  clear ascending
  induction entries with
  | nil => rfl
  | cons head rest hypothesis =>
    by_cases same : head.1 = name <;> simp [Entries.find?, same, hypothesis]

end SortedMap

/-! ### Sets of names -/

/-- A set of names, listed in order. -/
abbrev NameSet := SortedMap Unit

namespace NameSet

def empty : NameSet := SortedMap.empty

def insert (set : NameSet) (name : String) : NameSet :=
  SortedMap.insert set name ()

def insertAll (set : NameSet) (added : List String) : NameSet :=
  added.foldl insert set

def ofList (members : List String) : NameSet :=
  insertAll empty members

instance : Membership String NameSet where
  mem set name := name ∈ set.names

/-- The set after an addition holds the new member and the older ones. -/
theorem mem_insert_iff {set : NameSet} {name other : String} :
    other ∈ (set.insert name).names ↔ name = other ∨ other ∈ set.names := by
  rw [SortedMap.mem_names_iff, SortedMap.mem_names_iff]
  unfold insert
  rw [SortedMap.get?_insert]
  by_cases same : name = other <;> simp [same]

/-- The set after several additions holds the new members and the older ones. -/
theorem mem_insertAll_iff {set : NameSet} {added : List String} {other : String} :
    other ∈ (set.insertAll added).names ↔ other ∈ added ∨ other ∈ set.names := by
  induction added generalizing set with
  | nil => simp [insertAll]
  | cons head rest hypothesis =>
    have step : set.insertAll (head :: rest) = (set.insert head).insertAll rest := rfl
    rw [step, hypothesis, mem_insert_iff, List.mem_cons]
    constructor
    · rintro (later | first | older)
      · exact Or.inl (Or.inr later)
      · exact Or.inl (Or.inl first.symm)
      · exact Or.inr older
    · rintro ((first | later) | older)
      · exact Or.inr (Or.inl first.symm)
      · exact Or.inl later
      · exact Or.inr (Or.inr older)

end NameSet

end RecordSchema
