/-
**What an object gives after its members were edited.**

A structure is read off an object by the names that it declares, so members of other names are of no
account, nor is the order. A declared member that was changed is given as it is now:

* `Entries.find?_perm` — where no name is listed twice, the order does not matter.
* `Json.Value.ExtendsWith` — an object after members were changed and added.
* `Json.Value.ExtendsWith.rel_find?` — what it gives under a declared name.
* `Json.Value.Extends` — an object after members were added only, which gives the same under
  declared names (`Json.Value.Extends.find?_eq`).
-/

import Mathlib.Data.List.Forall2
import RecordSchema.Json.Given
import RecordSchema.Proofs.SortedMap

namespace RecordSchema

open Json (Value)

/-! ### Looking up entries -/

namespace Entries

variable {α β : Type} {entries : List (String × α)} {name : String}

/-- Where no name is listed twice, all entries are found. -/
theorem find?_eq_some_iff_mem (distinct : (entries.map Prod.fst).Nodup) {value : α} :
    find? name entries = some value ↔ (name, value) ∈ entries := by
  refine ⟨mem_of_find?, fun member => ?_⟩
  induction entries with
  | nil => cases member
  | cons head rest hypothesis =>
    obtain ⟨key, bound⟩ := head
    rw [List.map_cons, List.nodup_cons] at distinct
    rcases List.mem_cons.mp member with equal | later
    · cases equal
      exact if_pos rfl
    · have different : key ≠ name := by
        rintro rfl
        exact distinct.1 (List.mem_map.mpr ⟨_, later, rfl⟩)
      rw [find?, if_neg different]
      exact hypothesis distinct.2 later

/-- **The order of entries** does not matter where no name is listed twice. -/
theorem find?_perm {other : List (String × α)} (distinct : (entries.map Prod.fst).Nodup)
    (arranged : entries.Perm other) : find? name entries = find? name other := by
  have otherDistinct : (other.map Prod.fst).Nodup := (arranged.map Prod.fst).nodup distinct
  refine Option.ext fun value => ?_
  rw [find?_eq_some_iff_mem distinct, find?_eq_some_iff_mem otherDistinct, arranged.mem_iff]

/-- Entries that were picked by their names are found under these names. -/
theorem find?_filter (kept : String → Bool) :
    find? name (entries.filter fun entry => kept entry.1) =
      if kept name then find? name entries else none := by
  induction entries with
  | nil => simp [find?]
  | cons head rest hypothesis =>
    obtain ⟨key, bound⟩ := head
    by_cases keptKey : kept key = true
    · rw [List.filter_cons, if_pos keptKey, find?, find?, hypothesis]
      by_cases same : key = name
      · subst same
        rw [if_pos rfl, if_pos keptKey, if_pos rfl]
      · rw [if_neg same, if_neg same]
    · rw [List.filter_cons, if_neg keptKey, hypothesis, find?]
      by_cases same : key = name
      · subst same
        rw [if_neg keptKey, if_neg keptKey]
      · rw [if_neg same]

theorem find?_map (change : String → α → β) :
    find? name (entries.map fun entry => (entry.1, change entry.1 entry.2)) =
      (find? name entries).map (change name) := by
  induction entries with
  | nil => rfl
  | cons head rest hypothesis =>
    obtain ⟨key, bound⟩ := head
    rw [List.map_cons, find?, find?, hypothesis]
    by_cases same : key = name
    · rw [if_pos same, if_pos same, Option.map_some, same]
    · rw [if_neg same, if_neg same]

/-- Under each name stand related values, or none. -/
theorem rel_find?_of_forall₂ {related : String → α → β → Prop} {others : List (String × β)}
    (pairs : List.Forall₂ (fun entry other => entry.1 = other.1 ∧ related entry.1 entry.2 other.2)
      entries others) (name : String) :
    Option.Rel (related name) (find? name entries) (find? name others) := by
  induction pairs with
  | nil => exact Option.Rel.none
  | @cons entry other _ _ head _ hypothesis =>
    obtain ⟨key, value⟩ := entry
    obtain ⟨otherKey, otherValue⟩ := other
    obtain ⟨rfl, single⟩ := head
    unfold find?
    by_cases same : key = name
    · rw [if_pos same, if_pos same]
      exact Option.Rel.some (same ▸ single)
    · rw [if_neg same, if_neg same]
      exact hypothesis

end Entries

/-! ### Extending objects -/

namespace Json.Value

/-- An object after its members were changed, each of them in a way that its name allows, and
members of names that are not declared were added. No name is given twice, and the order is free.
-/
inductive ExtendsWith (changes : String → Value → Value → Prop) (declared : List String) :
    Value → Value → Prop where
  | object {members changed further extended : List (String × Value)}
      (alters : List.Forall₂ (fun member now => member.1 = now.1 ∧
        changes member.1 member.2 now.2) members changed)
      (undeclared : ∀ member ∈ further, member.1 ∉ declared)
      (arranged : (changed ++ further).Perm extended)
      (distinct : (extended.map Prod.fst).Nodup) :
      ExtendsWith changes declared (.object members) (.object extended)

/-- An object after members of names that are not declared were added. -/
abbrev Extends (declared : List String) : Value → Value → Prop :=
  ExtendsWith (fun _ => Eq) declared

variable {declared : List String} {changes : String → Value → Value → Prop} {name : String}
  {members extended : List (String × Value)}

/-- **Under a declared name** an extended object gives the changed member and nothing else. -/
theorem ExtendsWith.rel_find?
    (extension : ExtendsWith changes declared (.object members) (.object extended))
    (isDeclared : name ∈ declared) :
    Option.Rel (changes name) (Entries.find? name members) (Entries.find? name extended) := by
  cases extension with
  | @object _ changed further _ alters undeclared arranged distinct =>
    have partsDistinct : ((changed ++ further).map Prod.fst).Nodup :=
      (arranged.map Prod.fst).nodup_iff.mpr distinct
    have noFurther : Entries.find? name further = none :=
      Entries.find?_eq_none_of_forall fun member listed same =>
        undeclared member listed (same ▸ isDeclared)
    rw [← Entries.find?_perm partsDistinct arranged, Entries.find?_append, noFurther,
      Option.or_none]
    exact Entries.rel_find?_of_forall₂ alters name

/-- Where members were added only, the declared ones are given as before. -/
theorem Extends.find?_eq (extension : Extends declared (.object members) (.object extended))
    (isDeclared : name ∈ declared) :
    Entries.find? name extended = Entries.find? name members := by
  have related := extension.rel_find? isDeclared
  generalize Entries.find? name members = given at related ⊢
  generalize Entries.find? name extended = found at related ⊢
  cases related with
  | some same => exact congrArg some same.symm
  | none => rfl

end Json.Value

end RecordSchema
