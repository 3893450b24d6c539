/-
**Short names.**

A type is called by what the first fitting identifier among its records starts with. An identifier
that does not fit is passed over, and the search goes on with the next field entry.

* `Heads` — a name stands in front of the first separator of an identifier, and is one or more
  letters within the limit; `identifierName?_eq_some_iff` says that identifiers are read so.
* `FieldEntry.Suggests` — an entry is labelled as the identifier, and its present value fits.
* `shortName?_eq_findSome?` — the search goes through the field entries of the first records.
* `shortName?_eq_some_iff_isFirst` — it finds what the first fitting entry suggests, and further
  records do not change that.
-/

import Mathlib.Data.List.Infix
import RecordSchema.ItemType.RecordSet
import RecordSchema.Proofs.Search

namespace RecordSchema

/-! ### Identifiers -/

/-- Whether a name is what an identifier starts with in front of its first separator, and can be a
short name. -/
structure Heads (maxLength : Nat) (identifier name : String) : Prop where
  divided : ∃ rest, identifier = name ++ "-" ++ rest
  /-- The separator behind the name is the first one. -/
  undivided : '-' ∉ name.toList
  one_le : 1 ≤ name.length
  length_le : name.length ≤ maxLength
  alphabetic : ∀ char ∈ name.toList, Text.isAlphabetic char = true

theorem frontOf?_append {front : List Char} (undivided : '-' ∉ front) (rest : List Char) :
    frontOf? (front ++ '-' :: rest) = some front := by
  have solid : ∀ char ∈ front, (char != '-') = true := by
    intro char member
    rw [bne_iff_ne]
    rintro rfl
    exact undivided member
  unfold frontOf? identifierSeparator
  rw [if_pos (by simp), List.takeWhile_append_of_pos solid]
  simp

/-- **The front of an identifier** is what stands in front of its first separator. -/
theorem frontOf?_eq_some_iff {identifier front : List Char} :
    frontOf? identifier = some front ↔
      ∃ rest, identifier = front ++ '-' :: rest ∧ '-' ∉ front := by
  constructor
  · intro found
    have divided : '-' ∈ identifier := by
      by_contra undivided
      unfold frontOf? identifierSeparator at found
      rw [if_neg undivided] at found
      cases found
    obtain ⟨before, rest, rfl, undivided⟩ := List.eq_append_cons_of_mem divided
    rw [frontOf?_append undivided] at found
    cases found
    exact ⟨rest, rfl, undivided⟩
  · rintro ⟨rest, rfl, undivided⟩
    exact frontOf?_append undivided rest

theorem isShortName_iff {maxLength : Nat} {chars : List Char} :
    isShortName maxLength chars = true ↔
      1 ≤ chars.length ∧ chars.length ≤ maxLength ∧
        ∀ char ∈ chars, Text.isAlphabetic char = true := by
  simp only [isShortName, Bool.and_eq_true, decide_eq_true_eq, List.all_eq_true, and_assoc]

/-- **An identifier is read** up to its first separator. -/
theorem identifierName?_eq_some_iff {maxLength : Nat} {identifier name : String} :
    identifierName? maxLength identifier = some name ↔ Heads maxLength identifier name := by
  unfold identifierName?
  rw [Option.map_eq_some_iff]
  constructor
  · rintro ⟨front, found, rfl⟩
    obtain ⟨divided, fits⟩ := Option.filter_eq_some_iff.mp found
    obtain ⟨rest, split, undivided⟩ := frontOf?_eq_some_iff.mp divided
    obtain ⟨one_le, length_le, alphabetic⟩ := isShortName_iff.mp fits
    have whole : identifier = String.ofList front ++ "-" ++ String.ofList rest := by
      apply String.toList_inj.mp
      simp [split]
    refine ⟨⟨_, whole⟩, ?_, ?_, ?_, ?_⟩
    · rwa [String.toList_ofList]
    · rwa [String.length_ofList]
    · rwa [String.length_ofList]
    · rwa [String.toList_ofList]
  · rintro ⟨⟨rest, rfl⟩, undivided, one_le, length_le, alphabetic⟩
    refine ⟨name.toList, Option.filter_eq_some_iff.mpr ⟨?_, ?_⟩, String.ofList_toList⟩
    · exact frontOf?_eq_some_iff.mpr ⟨rest.toList, by simp, undivided⟩
    · rw [isShortName_iff, String.length_toList]
      exact ⟨one_le, length_le, alphabetic⟩

/-! ### Field entries -/

/-- Whether a field entry suggests a short name: it is labelled as the identifier and has a present
value whose text starts with the name. -/
structure FieldEntry.Suggests (maxLength : Nat) (entry : FieldEntry) (name : String) : Prop where
  label_eq : entry.label = "ID"
  heads : ∃ value, entry.value = some value ∧ value.isPresent = true ∧
    Heads maxLength value.canonical name

/-- The short name that a field entry suggests. -/
def FieldEntry.suggested? (maxLength : Nat) (entry : FieldEntry) : Option String :=
  if entry.label = identifierLabel then
    entry.present?.bind fun value => identifierName? maxLength value.canonical
  else none

theorem FieldEntry.suggested?_eq_some_iff {maxLength : Nat} {entry : FieldEntry} {name : String} :
    entry.suggested? maxLength = some name ↔ entry.Suggests maxLength name := by
  unfold suggested? present?
  constructor
  · intro found
    split at found
    · rename_i labelled
      obtain ⟨value, present, named⟩ := Option.bind_eq_some_iff.mp found
      obtain ⟨observed, isPresent⟩ := Option.filter_eq_some_iff.mp present
      exact ⟨labelled, value, observed, isPresent, identifierName?_eq_some_iff.mp named⟩
    · cases found
  · rintro ⟨labelled, value, observed, isPresent, heads⟩
    rw [if_pos (show entry.label = identifierLabel from labelled), Option.bind_eq_some_iff]
    exact ⟨value, Option.filter_eq_some_iff.mpr ⟨observed, isPresent⟩,
      identifierName?_eq_some_iff.mpr heads⟩

/-- The identifiers of a record suggest what its field entries do. -/
theorem Record.filterMap_identifiers (maxLength : Nat) (record : Record) :
    record.identifiers.filterMap (identifierName? maxLength) =
      record.fields.filterMap (FieldEntry.suggested? maxLength) := by
  unfold identifiers presentEntries
  rw [List.filterMap_map, List.filterMap_filter, List.filterMap_filterMap]
  congr 1
  funext entry
  unfold FieldEntry.suggested?
  cases entry.present? with
  | none => simp
  | some value => simp

/-! ### The search -/

/-- **The search** for a short name goes through the field entries of the first records. -/
theorem shortName?_eq_findSome? (scan maxLength : Nat) (records : List Record) :
    shortName? scan maxLength records =
      ((records.take scan).flatMap Record.fields).findSome? (FieldEntry.suggested? maxLength) := by
  unfold shortName?
  rw [← List.head?_filterMap, ← List.head?_filterMap, List.filterMap_flatMap,
    List.filterMap_flatMap]
  simp only [Record.filterMap_identifiers]

/-- The first records come first among more records, of which at least as many are scanned. -/
theorem take_prefix_take_append {α : Type} {fewer more : Nat} (wider : fewer ≤ more)
    (elements further : List α) : elements.take fewer <+: (elements ++ further).take more := by
  rw [List.prefix_take_iff]
  constructor
  · exact (List.take_prefix fewer elements).trans (List.prefix_append elements further)
  · exact Nat.le_trans (List.length_take_le fewer elements) wider

/-- **The short name** of a type is what the first fitting field entry of the scanned records
suggests. Once there is one, neither further records nor a longer scan change it. -/
theorem shortName?_eq_some_iff_isFirst (scan maxLength : Nat) (records : List Record)
    (name : String) :
    (shortName? scan maxLength records = some name ↔
      ∃ entry, IsFirst (fun other => ∃ given, other.Suggests maxLength given)
          ((records.take scan).flatMap Record.fields) entry ∧
        entry.Suggests maxLength name) ∧
    (shortName? scan maxLength records = some name →
      ∀ wider, scan ≤ wider → ∀ further,
        shortName? wider maxLength (records ++ further) = some name) := by
  constructor
  · rw [shortName?_eq_findSome?, findSome?_eq_some_iff_isFirst]
    simp only [FieldEntry.suggested?_eq_some_iff]
  · intro found wider longer further
    rw [shortName?_eq_findSome?] at found ⊢
    have scanned := take_prefix_take_append longer records further
    exact (scanned.flatMap Record.fields).findSome?_eq_some found

/-- A fitting text under another label and four identifiers that do not fit are passed over: one
with digits in front, one without a value, one that is too long and one without a separator. -/
theorem shortName?_of_later_entry :
    let records : List Record := [
      { fields := [⟨"Key", some (.text "KEY-1"), .string⟩, ⟨"ID", some (.text "12-34"), .string⟩,
          ⟨"ID", none, .string⟩] },
      { fields := [⟨"ID", some (.text "TOOLONGX-1"), .string⟩,
          ⟨"ID", some (.boolean true), .boolean⟩, ⟨"ID", some (.text "REQ-7-1"), .string⟩] }]
    let later : Record := { fields := [⟨"ID", some (.text "SW-2"), .string⟩] }
    shortName? 2 6 records = some "REQ" ∧ shortName? 9 6 (records ++ [later]) = some "REQ" := by
  intro records later
  have found : shortName? 2 6 records = some "REQ" := by decide +kernel
  obtain ⟨-, kept⟩ := shortName?_eq_some_iff_isFirst 2 6 records "REQ"
  exact ⟨found, kept found 9 (by decide) [later]⟩

end RecordSchema
