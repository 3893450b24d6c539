/-
**The records of one type.**

* `RecordSet.ofPage?` — the readable records of a page; a page without any drops the type.
* `RecordSet.ofPage?_isSome_iff` — a type is kept exactly if its page has an object.
* `shortName?` — the short name that the identifiers of the first records suggest.
-/

import RecordSchema.Project.Basic
import RecordSchema.Record.Basic
import RecordSchema.Text.Alphabetic

namespace RecordSchema

/-- The label of the field entry that holds a record's identifier. -/
def identifierLabel : String := "ID"

/-- What divides the short name from the rest of an identifier. -/
def identifierSeparator : Char := '-'

/-- The part of an identifier in front of its first separator, as characters. -/
def frontOf? (identifier : List Char) : Option (List Char) :=
  if identifierSeparator ∈ identifier then
    some (identifier.takeWhile fun char => char != identifierSeparator)
  else none

/-- Whether characters can be a short name: some letters, and not too many. -/
def isShortName (maxLength : Nat) (chars : List Char) : Bool :=
  decide (1 ≤ chars.length) && decide (chars.length ≤ maxLength) && chars.all Text.isAlphabetic

/-- The short name that an identifier suggests. -/
def identifierName? (maxLength : Nat) (identifier : String) : Option String :=
  ((frontOf? identifier.toList).filter (isShortName maxLength)).map String.ofList

/-- The identifiers of a record: the present values under exactly the identifier label. -/
def Record.identifiers (record : Record) : List String :=
  (record.presentEntries.filter fun present => present.1.label == identifierLabel).map
    fun present => present.2.canonical

/-- The first short name that an identifier of the first `scan` records suggests. -/
def shortName? (scan maxLength : Nat) (records : List Record) : Option String :=
  ((records.take scan).flatMap Record.identifiers).findSome? (identifierName? maxLength)

/-- The records retrieved for a type. -/
structure RecordSet where
  typeName : String
  /-- The number of matching records that the source reports; there may be fewer here. -/
  total : Nat
  shortName : Option String
  records : List Record
  deriving Repr, Inhabited

/-- The limits of a search for short names. -/
structure ShortNameLimits where
  scan : Nat
  maxLength : Nat
  deriving DecidableEq, Repr, Inhabited

/-- The records of a page that can be read, as those of a type; none if there are none. -/
def RecordSet.ofPage? (limits : ShortNameLimits) (typeName : String) (page : Page) :
    Option RecordSet :=
  let records := page.records.filterMap Record.ofJson?
  if records.isEmpty then none
  else some {
    typeName := typeName
    total := page.total.getD records.length
    shortName := shortName? limits.scan limits.maxLength records
    records := records }

/-- A type is kept exactly if its page has an object. -/
theorem RecordSet.ofPage?_isSome_iff {limits : ShortNameLimits} {typeName : String} {page : Page} :
    (RecordSet.ofPage? limits typeName page).isSome = true ↔
      ∃ record ∈ page.records, record.isObject = true := by
  have readable : page.records.filterMap Record.ofJson? = [] ↔
      ∀ record ∈ page.records, record.isObject = false := by
    rw [List.filterMap_eq_nil_iff]
    refine forall_congr' fun record => forall_congr' fun _ => ?_
    rw [← Record.ofJson?_isSome, Option.isSome_eq_false_iff, Option.isNone_iff_eq_none]
  unfold RecordSet.ofPage?
  by_cases nothing : page.records.filterMap Record.ofJson? = []
  · rw [if_pos (List.isEmpty_iff.mpr nothing)]
    refine ⟨fun kept => absurd kept (by simp), fun ⟨record, member, object⟩ => ?_⟩
    exact absurd object (by simp [readable.mp nothing record member])
  · rw [if_neg fun empty => nothing (List.isEmpty_iff.mp empty)]
    refine ⟨fun _ => ?_, fun _ => rfl⟩
    have readableRecord := mt readable.mpr nothing
    simp only [Classical.not_forall, Bool.not_eq_false] at readableRecord
    obtain ⟨record, member, object⟩ := readableRecord
    exact ⟨record, member, object⟩

end RecordSchema
