/-
**The types that occur among records.**

* `TypeSurvey.note` — counts a record and notes its type tag.
* `TypeSurvey.typeNames` — the types found, ascending.
* `TypeSurvey.mem_typeNames_noteAll` — they are exactly the types that some record names.
-/

import RecordSchema.Json.Value

namespace RecordSchema

open Json (Value)

/-- The tag of records whose type is not known. -/
def unknownType : String := "Unknown"

def typeTag? (record : Value) : Option String :=
  (record.member? "type").bind Value.text?

/-- Whether a tag names a type. -/
def isTypeName (tag : String) : Bool :=
  tag != "" && tag != unknownType

/-- The type that the tag of a record names. -/
def namedType? (record : Value) : Option String :=
  (typeTag? record).filter isTypeName

/-- The records seen so far and the types found among them. -/
structure TypeSurvey where
  found : NameSet := NameSet.empty
  recordsSeen : Nat := 0

namespace TypeSurvey

def start : TypeSurvey := {}

/-- Notes a record; what is no object is passed over. -/
def note (survey : TypeSurvey) (record : Value) : TypeSurvey :=
  if record.isObject then
    { found := survey.found.insertAll (namedType? record).toList
      recordsSeen := survey.recordsSeen + 1 }
  else survey

def noteAll (survey : TypeSurvey) (records : List Value) : TypeSurvey :=
  records.foldl note survey

/-- The types found, ascending. -/
def typeNames (survey : TypeSurvey) : List String :=
  survey.found.names

/-- A record adds the type that it names. -/
theorem mem_typeNames_note {survey : TypeSurvey} {record : Value} {name : String} :
    name ∈ (survey.note record).typeNames ↔
      namedType? record = some name ∨ name ∈ survey.typeNames := by
  have unnamed : record.isObject = false → namedType? record = none := by
    cases record <;> intro noObject <;> first | rfl | cases noObject
  unfold note typeNames
  by_cases object : record.isObject = true
  · rw [if_pos object]
    refine NameSet.mem_insertAll_iff.trans (or_congr ?_ Iff.rfl)
    rw [Option.mem_toList]
  · rw [if_neg object, unnamed (Bool.eq_false_iff.mpr object)]
    simp

/-- The types found are exactly those that some record names. -/
theorem mem_typeNames_noteAll {survey : TypeSurvey} {records : List Value} {name : String} :
    name ∈ (survey.noteAll records).typeNames ↔
      (∃ record ∈ records, namedType? record = some name) ∨ name ∈ survey.typeNames := by
  induction records generalizing survey with
  | nil => simp [noteAll]
  | cons record rest hypothesis =>
    show name ∈ ((survey.note record).noteAll rest).typeNames ↔ _
    rw [hypothesis, mem_typeNames_note]
    constructor
    · rintro (⟨found, member, names⟩ | first | older)
      · exact Or.inl ⟨found, List.mem_cons_of_mem _ member, names⟩
      · exact Or.inl ⟨record, List.mem_cons_self, first⟩
      · exact Or.inr older
    · rintro (⟨found, member, names⟩ | older)
      · rcases List.mem_cons.mp member with equal | later
        · exact Or.inr (Or.inl (equal ▸ names))
        · exact Or.inl ⟨found, later, names⟩
      · exact Or.inr (Or.inr older)

end TypeSurvey

end RecordSchema
