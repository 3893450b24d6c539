/-
**Malformed elements are passed over one by one.**

The entries of a record and the records of a page are listed in arrays, and an array may hold
anything. What is malformed is passed over at its place, and all else is read as if it were not
there:

* `Json.Value.isLabelled`, `FieldEntry.ofJson?_isSome`, `Relation.ofJson?_isSome` — which elements
  are well-formed.
* `Pads` — an array with further elements at any positions. Where a reader refuses these, it reads
  the same (`Pads.filterMap_eq`).
* `RecordPads`, `Page.Pads` — further elements in the arrays of a record, and of a page together
  with its records.
* `reads_alike_of_pads` — records and pages with malformed elements are read as without them, and
  every other element is kept.
-/

import Mathlib.Data.List.Forall2
import RecordSchema.ItemType.RecordSet
import RecordSchema.Proofs.Json.Members

namespace RecordSchema

open Json (Value)

/-! ### Well-formed elements -/

/-- Whether a value is an object with a label, a string that is not empty. -/
def Json.Value.isLabelled (value : Value) : Bool :=
  value.isObject && ((value.member? "label").bind Value.text?).any (· != "")

theorem Json.Value.member?_of_not_isObject {value : Value} (other : value.isObject = false)
    (name : String) : value.member? name = none := by
  cases value with
  | object members => cases other
  | _ => rfl

/-- **A field entry** is read off a labelled object and off nothing else. -/
theorem FieldEntry.ofJson?_isSome (json : Value) : (ofJson? json).isSome = json.isLabelled := by
  unfold ofJson? Value.isLabelled
  by_cases object : json.isObject = true
  · rw [object, Bool.true_and]
    cases json.member? "label" with
    | none => rfl
    | some member =>
      cases text : member.text? with
      | none => simp [text]
      | some label =>
        by_cases empty : label = ""
        · simp [text, empty]
        · simp [text, empty]
  · have other := Bool.eq_false_iff.mpr object
    rw [Value.member?_of_not_isObject other, other]
    rfl

/-- **A relation entry** is read off any object and off nothing else. -/
theorem Relation.ofJson?_isSome (json : Value) : (ofJson? json).isSome = json.isObject := by
  unfold ofJson?
  cases json.isObject <;> rfl

/-- A reader that reads exactly the well-formed elements reads each of them, in their order. -/
theorem forall₂_filterMap {α : Type} {decode : Value → Option α} {wellFormed : Value → Bool}
    (reads : ∀ value, (decode value).isSome = wellFormed value) (elements : List Value) :
    List.Forall₂ (fun element entry => decode element = some entry)
      (elements.filter wellFormed) (elements.filterMap decode) := by
  induction elements with
  | nil => exact List.Forall₂.nil
  | cons element rest hypothesis =>
    have verdict := reads element
    cases read : decode element with
    | none =>
      rw [read, Option.isSome_none] at verdict
      rw [List.filterMap_cons, read, List.filter_cons_of_neg (by simp [← verdict])]
      exact hypothesis
    | some entry =>
      rw [read, Option.isSome_some] at verdict
      rw [List.filterMap_cons, read, List.filter_cons_of_pos verdict.symm]
      exact List.Forall₂.cons read hypothesis

/-! ### Further elements of an array -/

/-- An array with further elements at any positions, where the other elements may change into
similar ones. -/
inductive Pads (further : Value → Prop) (similar : Value → Value → Prop) :
    List Value → List Value → Prop where
  | nil : Pads further similar [] []
  | keep {value changed : Value} {elements padded : List Value} :
      similar value changed → Pads further similar elements padded →
        Pads further similar (value :: elements) (changed :: padded)
  | insert {value : Value} {elements padded : List Value} :
      further value → Pads further similar elements padded →
        Pads further similar elements (value :: padded)

/-- **A reader that refuses the further elements** and reads similar ones alike reads the same. -/
theorem Pads.filterMap_eq {α : Type} {decode : Value → Option α} {further : Value → Prop}
    {similar : Value → Value → Prop} {elements padded : List Value}
    (pads : Pads further similar elements padded)
    (refuses : ∀ value, further value → decode value = none)
    (alike : ∀ value changed, similar value changed → decode changed = decode value) :
    padded.filterMap decode = elements.filterMap decode := by
  induction pads with
  | nil => rfl
  | keep same _ hypothesis =>
    rw [List.filterMap_cons, List.filterMap_cons, alike _ _ same, hypothesis]
  | insert more _ hypothesis => rw [List.filterMap_cons, refuses _ more, hypothesis]

/-! ### Further entries of a record -/

/-- A member of a record with further elements among its entries: among the field entries any that
are not labelled, and among the relation entries any that are no objects. -/
inductive MemberPads : String → Value → Value → Prop where
  | same (name : String) (value : Value) : MemberPads name value value
  | fields {elements padded : List Value} :
      Pads (fun value => value.isLabelled = false) Eq elements padded →
        MemberPads "fields" (.array elements) (.array padded)
  | relations {elements padded : List Value} :
      Pads (fun value => value.isObject = false) Eq elements padded →
        MemberPads "relations" (.array elements) (.array padded)

/-- An object with further elements among its entries; other values stay. -/
inductive RecordPads : Value → Value → Prop where
  | same (value : Value) : RecordPads value value
  | object {members padded : List (String × Value)} :
      List.Forall₂ (fun member changed =>
          member.1 = changed.1 ∧ MemberPads member.1 member.2 changed.2) members padded →
        RecordPads (.object members) (.object padded)

section Members

variable {name : String} {found changed : Option Value}
  (pads : Option.Rel (MemberPads name) found changed)

include pads

/-- Members of other names stay. -/
theorem eq_of_rel_memberPads (fields : name ≠ "fields") (relations : name ≠ "relations") :
    changed = found := by
  cases pads with
  | none => rfl
  | some single =>
    cases single with
    | same => rfl
    | fields => exact absurd rfl fields
    | relations => exact absurd rfl relations

/-- The further elements among field entries are passed over. -/
theorem entriesOf_fields_eq (named : name = "fields") :
    Record.entriesOf FieldEntry.ofJson? changed = Record.entriesOf FieldEntry.ofJson? found := by
  cases pads with
  | none => rfl
  | some single =>
    cases single with
    | same => rfl
    | fields more =>
      refine more.filterMap_eq (fun value unlabelled => ?_) fun _ _ same => same ▸ rfl
      rw [← Option.not_isSome_iff_eq_none, FieldEntry.ofJson?_isSome, unlabelled]
      exact Bool.false_ne_true
    | relations => exact absurd named (by decide)

/-- The further elements among relation entries are passed over. -/
theorem entriesOf_relations_eq (named : name = "relations") :
    Record.entriesOf Relation.ofJson? changed = Record.entriesOf Relation.ofJson? found := by
  cases pads with
  | none => rfl
  | some single =>
    cases single with
    | same => rfl
    | fields => exact absurd named (by decide)
    | relations more =>
      refine more.filterMap_eq (fun value other => ?_) fun _ _ same => same ▸ rfl
      rw [← Option.not_isSome_iff_eq_none, Relation.ofJson?_isSome, other]
      exact Bool.false_ne_true

end Members

namespace Record

/-- **A record with further elements** is read as without them. -/
theorem ofJson?_eq_of_pads {value padded : Value} (pads : RecordPads value padded) :
    ofJson? padded = ofJson? value := by
  cases pads with
  | same => rfl
  | @object members changed more =>
    have found := Entries.rel_find?_of_forall₂ more
    have plain : ∀ name, name ≠ "fields" → name ≠ "relations" →
        (Value.object changed).member? name = (Value.object members).member? name :=
      fun name => eq_of_rel_memberPads (found name)
    have fields : entriesOf FieldEntry.ofJson? ((Value.object changed).member? "fields") =
        entriesOf FieldEntry.ofJson? ((Value.object members).member? "fields") :=
      entriesOf_fields_eq (found "fields") rfl
    have relations : entriesOf Relation.ofJson? ((Value.object changed).member? "relations") =
        entriesOf Relation.ofJson? ((Value.object members).member? "relations") :=
      entriesOf_relations_eq (found "relations") rfl
    unfold ofJson?
    rw [fields, relations, plain "type" (by decide) (by decide),
      plain "title" (by decide) (by decide), plain "createdAt" (by decide) (by decide),
      plain "revision" (by decide) (by decide), plain "isControlled" (by decide) (by decide)]
    rfl

theorem ofJson?_eq_none_iff {value : Value} : ofJson? value = none ↔ value.isObject = false := by
  rw [← Option.not_isSome_iff_eq_none, ofJson?_isSome, Bool.not_eq_true]

/-- The elements that an object lists under a name. -/
def listed (name : String) (value : Value) : List Value :=
  ((value.member? name).bind Value.elements?).getD []

/-- Whether a record keeps all well-formed elements of an object, in their order. -/
structure Keeps (record : Record) (value : Value) : Prop where
  fields : List.Forall₂ (fun element entry => FieldEntry.ofJson? element = some entry)
    ((listed "fields" value).filter Value.isLabelled) record.fields
  relations : List.Forall₂ (fun element entry => Relation.ofJson? element = some entry)
    ((listed "relations" value).filter Value.isObject) record.relations

/-- **Every other element** is kept. -/
theorem keeps_of_ofJson? {value : Value} {record : Record} (read : ofJson? value = some record) :
    record.Keeps value := by
  unfold ofJson? at read
  by_cases object : value.isObject = true
  · rw [if_pos object] at read
    cases read
    exact ⟨forall₂_filterMap FieldEntry.ofJson?_isSome _,
      forall₂_filterMap Relation.ofJson?_isSome _⟩
  · rw [if_neg object] at read
    cases read

end Record

/-! ### Further records of a page -/

/-- A page with further values that are no objects among its records, and with further elements
among the entries of these. -/
structure Page.Pads (page padded : Page) : Prop where
  records : RecordSchema.Pads (fun value => value.isObject = false) RecordPads
    page.records padded.records
  total_eq : padded.total = page.total

namespace RecordSet

variable {limits : ShortNameLimits} {typeName : String} {page : Page}

/-- **A page with further elements** is read as without them. -/
theorem ofPage?_eq_of_pads {padded : Page} (pads : page.Pads padded) :
    ofPage? limits typeName padded = ofPage? limits typeName page := by
  have records : padded.records.filterMap Record.ofJson? =
      page.records.filterMap Record.ofJson? :=
    pads.records.filterMap_eq (fun _ other => Record.ofJson?_eq_none_iff.mpr other)
      fun _ _ similar => Record.ofJson?_eq_of_pads similar
  unfold ofPage?
  rw [records, pads.total_eq]

theorem ofPage?_eq_none_iff :
    ofPage? limits typeName page = none ↔ ∀ record ∈ page.records, record.isObject = false := by
  rw [← Option.not_isSome_iff_eq_none, ofPage?_isSome_iff]
  simp only [not_exists, not_and, Bool.not_eq_true]

/-- **Every object of a page** is kept. -/
theorem keeps_of_ofPage? {set : RecordSet} (read : ofPage? limits typeName page = some set) :
    List.Forall₂ (fun value record => Record.ofJson? value = some record)
      (page.records.filter Value.isObject) set.records := by
  unfold ofPage? at read
  by_cases nothing : (page.records.filterMap Record.ofJson?).isEmpty = true
  · rw [if_pos nothing] at read
    cases read
  · rw [if_neg nothing] at read
    cases read
    exact forall₂_filterMap Record.ofJson?_isSome _

end RecordSet

/-- **Malformed elements are passed over one by one**, in a record and in a page at once: whatever
is inserted of them, at any positions, nothing changes. Only what is no object is no record, and
only a page without an object brings none. All other elements are kept, in their order. -/
theorem reads_alike_of_pads :
    (∀ value padded, RecordPads value padded →
      Record.ofJson? padded = Record.ofJson? value) ∧
    (∀ value, Record.ofJson? value = none ↔ value.isObject = false) ∧
    (∀ value record, Record.ofJson? value = some record → record.Keeps value) ∧
    ∀ (limits : ShortNameLimits) (typeName : String) (page : Page),
      (∀ padded, page.Pads padded →
        RecordSet.ofPage? limits typeName padded = RecordSet.ofPage? limits typeName page) ∧
      (RecordSet.ofPage? limits typeName page = none ↔
        ∀ record ∈ page.records, record.isObject = false) ∧
      ∀ set, RecordSet.ofPage? limits typeName page = some set →
        List.Forall₂ (fun value record => Record.ofJson? value = some record)
          (page.records.filter Value.isObject) set.records := by
  refine ⟨fun value padded => Record.ofJson?_eq_of_pads, fun value => Record.ofJson?_eq_none_iff,
    fun value record => Record.keeps_of_ofJson?, fun limits typeName page => ⟨?_, ?_, ?_⟩⟩
  · exact fun padded => RecordSet.ofPage?_eq_of_pads
  · exact RecordSet.ofPage?_eq_none_iff
  · exact fun set => RecordSet.keeps_of_ofPage?

/-- Of a page with a text beside its record, and an empty label and a number among the entries, one
record is read, with the identifier that it has. -/
theorem reads_alike_of_pads_page :
    let identifier : Value := .object [("label", .string "ID"), ("value", .string "RSK-1")]
    let record (fields relations : List Value) : Value :=
      .object [("fields", .array fields), ("relations", .array relations)]
    let page : Page := ⟨[record [identifier] []], none⟩
    let padded : Page := ⟨[.string "garbage",
      record [.object [("label", .string "")], identifier] [.number (.integer 42)]], none⟩
    page.Pads padded ∧
      RecordSet.ofPage? ⟨20, 6⟩ "Risk" padded = RecordSet.ofPage? ⟨20, 6⟩ "Risk" page ∧
      (RecordSet.ofPage? ⟨20, 6⟩ "Risk" padded).map (fun set => (set.total, set.shortName)) =
        some (1, some "RSK") := by
  intro identifier record page padded
  have fields : Pads (fun value => value.isLabelled = false) Eq [identifier]
      [.object [("label", .string "")], identifier] :=
    .insert (by decide) (.keep rfl .nil)
  have relations : Pads (fun value => value.isObject = false) Eq []
      [.number (.integer 42)] :=
    .insert rfl .nil
  have pads : page.Pads padded :=
    ⟨.insert rfl (.keep (.object (.cons ⟨rfl, .fields fields⟩
      (.cons ⟨rfl, .relations relations⟩ .nil))) .nil), rfl⟩
  obtain ⟨-, -, -, pages⟩ := reads_alike_of_pads
  exact ⟨pads, (pages ⟨20, 6⟩ "Risk" page).1 padded pads, by decide +kernel⟩

end RecordSchema
