/-
**The description of a field.**

* `Observation.dataType` — the data type of a field: rich text by its key or its values, else the
  strongest declared hint, else a string.
* `fillRate?` — the percentage of records that carry a field, unless it reaches one hundred.
* `Observation.schema` — the description of a field.
* `FieldSchema.toJson` — the description as it stands in a document.
-/

import RecordSchema.Field.Domain
import RecordSchema.Field.Observation
import RecordSchema.Field.Narrative
import RecordSchema.Config.Inference

namespace RecordSchema

open Json (Value)

structure FieldSchema where
  key : String
  label : String
  dataType : DataType
  isCustom : Bool
  access : Access
  domain : Domain
  /-- The percentage of records that carry the field; none where every record does. -/
  fillRate : Option Binary64
  deriving DecidableEq, Repr, Inhabited

/-- The limits of domains within the limits of an inference. -/
def InferenceLimits.domainLimits (limits : InferenceLimits) : DomainLimits :=
  ⟨limits.maxUniqueValues, limits.maxExampleValues, limits.maxValueLength⟩

namespace Observation

/-- Whether the key or one of the first values looks narrative. -/
def isNarrative (limits : InferenceLimits) (observation : Observation) : Bool :=
  isNarrativeLabel observation.key ||
    hasNarrativeValue limits.richTextScanLimit limits.richTextMinLength observation.values

/-- The data type of a field. The first matching rule decides. -/
def dataType (limits : InferenceLimits) (observation : Observation) : DataType :=
  if observation.isNarrative limits then .richText
  else if observation.declares .number then .number
  else if observation.declares .date || observation.declares .datetime then .datetime
  else if observation.declares .boolean then .boolean
  else .string

end Observation

/-- One hundred, as a floating-point number. -/
def hundred : Binary64 :=
  (Binary64.ofNat? 100).getD default

/-- The share of `present` in `records`, rounded, times one hundred, rounded; none from one hundred
on. Without records it is zero. -/
def fillRate? (present records : Nat) : Option Binary64 :=
  if records = 0 then some (Binary64.zero false)
  else do
    let share ← (← Binary64.ofNat? present).div? (← Binary64.ofNat? records)
    let rate ← share.mul? hundred
    if rate.lt hundred then some rate else none

/-- The description of an observed field among a number of records. -/
def Observation.schema (observation : Observation) (records : Nat) (limits : InferenceLimits) :
    FieldSchema :=
  let dataType := observation.dataType limits
  { key := observation.key
    label := observation.label
    dataType := dataType
    isCustom := observation.isCustom
    access := Access.ofField observation.key observation.isCustom dataType
    domain := limits.domainLimits.domainOf dataType observation.values
    fillRate := fillRate? observation.values.length records }

namespace FieldSchema

/-- The fill rate as a whole percentage. -/
def fillRateText? (field : FieldSchema) : Option String :=
  field.fillRate.map fun rate => rate.wholeText ++ "%"

/-- The members that list values; an empty list is left out. -/
def domainMembers : Domain → List (String × Value)
  | .enumerated values => if values.isEmpty then [] else [("uniqueValues", .ofTexts values)]
  | .examples values => if values.isEmpty then [] else [("exampleValues", .ofTexts values)]
  | .empty => []

/-- The description as it stands in a document, without what is absent. -/
def toJson (field : FieldSchema) : Value :=
  .object (
    [("label", .string field.label), ("dataType", .string field.dataType.name),
      ("access", field.access.toJson)] ++
    (if field.isCustom then [("isCustomField", .bool true)] else []) ++
    domainMembers field.domain ++
    (field.fillRateText?.map fun text => ("fillRate", Value.string text)).toList)

end FieldSchema

end RecordSchema
