/-
**The tagged form of a value.**

A value is written as its kind beside its content. Texts and points in time have the same content,
and a value without a tag of its own may have any, so only the kind tells them apart:

* `FieldValue.ofContent?_eq_some_iff` — a kind and a content are those of a value.
* `FieldValue.TaggedAs` — all forms in which a value is tagged: an object or an array.
* `FieldValue.ofJson?_eq_some_iff` — a value is read off its tagged forms and off nothing else.
* `FieldValue.ofJson?_tagged` — so reading undoes writing, and other members of an object are of no
  account.
-/

import RecordSchema.Record.FieldValue
import RecordSchema.Proofs.Json.Members

namespace RecordSchema

open Json (Value)

namespace Json.Value

theorem text?_eq_some_iff {value : Value} {text : String} :
    value.text? = some text ↔ value = .string text := by
  cases value <;> simp [text?]

theorem bool?_eq_some_iff {value : Value} {truth : Bool} :
    value.bool? = some truth ↔ value = .bool truth := by
  cases value <;> simp [bool?]

end Json.Value

namespace FieldValue

/-- **A kind and a content** are those of a value. -/
theorem ofContent?_eq_some_iff {kind : String} {content : Value} {value : FieldValue} :
    ofContent? kind content = some value ↔ kind = value.kind ∧ content = value.content := by
  constructor
  · intro read
    unfold ofContent? at read
    split at read
    case isTrue isText =>
      obtain ⟨text, found, rfl⟩ := Option.map_eq_some_iff.mp read
      exact ⟨isText, Value.text?_eq_some_iff.mp found⟩
    split at read
    case isTrue isNumber =>
      split at read
      · cases read
        exact ⟨isNumber, rfl⟩
      · cases read
    split at read
    case isTrue isBoolean =>
      obtain ⟨truth, found, rfl⟩ := Option.map_eq_some_iff.mp read
      exact ⟨isBoolean, Value.bool?_eq_some_iff.mp found⟩
    split at read
    case isTrue isDateTime =>
      obtain ⟨text, found, rfl⟩ := Option.map_eq_some_iff.mp read
      exact ⟨isDateTime, Value.text?_eq_some_iff.mp found⟩
    split at read
    case isTrue isUnknown =>
      cases read
      exact ⟨isUnknown, rfl⟩
    cases read
  · rintro ⟨rfl, rfl⟩
    cases value <;> rfl

/-- The tagged forms of a value: an object that gives the kind and the content under their names,
or an array of the two. In an object the kind may be chosen like any alternative. -/
inductive TaggedAs (value : FieldValue) : Value → Prop where
  | object {members : List (String × Value)} {kind : Value}
      (kindGiven : Entries.find? "kind" members = some kind)
      (chosen : kind.choice? = some value.kind)
      (contentGiven : Entries.find? "value" members = some value.content) :
      TaggedAs value (.object members)
  | array : TaggedAs value (.array [.string value.kind, value.content])

/-- What an object is read as depends on its kind and its value. -/
theorem ofJson?_object (members : List (String × Value)) :
    ofJson? (.object members) =
      ((Entries.find? "kind" members).bind Value.choice?).bind fun kind =>
        (Entries.find? "value" members).bind (ofContent? kind) := rfl

/-- An array is read as a kind and a content, with nothing behind them. -/
theorem ofJson?_array_eq_some_iff {elements : List Value} {value : FieldValue} :
    ofJson? (.array elements) = some value ↔ elements = [.string value.kind, value.content] := by
  match elements with
  | [] => exact iff_of_false (fun read => nomatch read) (List.cons_ne_nil _ _).symm
  | [kind] =>
    refine iff_of_false (fun read => ?_) (by simp)
    obtain ⟨name, -, given⟩ := Option.bind_eq_some_iff.mp read
    cases given
  | [kind, content] =>
    have read : ofJson? (.array [kind, content]) =
        kind.text?.bind fun name => ofContent? name content := rfl
    rw [read, Option.bind_eq_some_iff]
    constructor
    · rintro ⟨name, named, given⟩
      obtain ⟨rfl, rfl⟩ := ofContent?_eq_some_iff.mp given
      rw [Value.text?_eq_some_iff.mp named]
    · intro same
      obtain ⟨rfl, rfl⟩ : kind = .string value.kind ∧ content = value.content := by
        simpa using same
      exact ⟨value.kind, rfl, ofContent?_eq_some_iff.mpr ⟨rfl, rfl⟩⟩
  | kind :: content :: surplus :: rest =>
    refine iff_of_false (fun read => ?_) (by simp)
    have refused : ofJson? (.array (kind :: content :: surplus :: rest)) = none := by
      rw [ofJson?, Value.given?, if_neg (by simp)]
      rfl
    rw [refused] at read
    cases read

/-- **A value is read** off its tagged forms and off nothing else. -/
theorem ofJson?_eq_some_iff {json : Value} {value : FieldValue} :
    ofJson? json = some value ↔ value.TaggedAs json := by
  constructor
  · intro read
    cases json with
    | object members =>
      rw [ofJson?_object] at read
      obtain ⟨name, named, given⟩ := Option.bind_eq_some_iff.mp read
      obtain ⟨kind, kindGiven, chosen⟩ := Option.bind_eq_some_iff.mp named
      obtain ⟨content, contentGiven, made⟩ := Option.bind_eq_some_iff.mp given
      obtain ⟨rfl, rfl⟩ := ofContent?_eq_some_iff.mp made
      exact .object kindGiven chosen contentGiven
    | array elements =>
      rw [ofJson?_array_eq_some_iff] at read
      exact read ▸ .array
    | null => cases read
    | bool _ => cases read
    | number _ => cases read
    | string _ => cases read
  · intro tagged
    cases tagged with
    | object kindGiven chosen contentGiven =>
      rw [ofJson?_object, kindGiven, contentGiven, Option.bind_some, chosen, Option.bind_some,
        Option.bind_some]
      exact ofContent?_eq_some_iff.mpr ⟨rfl, rfl⟩
    | array => exact ofJson?_array_eq_some_iff.mpr rfl

/-- The tagged form of a value is an object of its kind and its content. -/
theorem taggedAs_toJson (value : FieldValue) : value.TaggedAs value.toJson :=
  .object rfl rfl rfl

/-- **Further members** of an object do not change what it is read as. -/
theorem ofJson?_of_extends {json further : Value}
    (extended : json.Extends ["kind", "value"] further) : ofJson? further = ofJson? json := by
  have given := extended
  cases extended with
  | @object members _ _ edited =>
    have kindGiven : Entries.find? "kind" edited = Entries.find? "kind" members :=
      given.find?_eq (by decide)
    have contentGiven : Entries.find? "value" edited = Entries.find? "value" members :=
      given.find?_eq (by decide)
    rw [ofJson?_object, ofJson?_object, kindGiven, contentGiven]

/-- **The tagged form of a value** is read as the value, whether it is an object or an array. An
object may have further members. A value is read off its tagged forms only, and what was read is
read off its own tagged form again; so values with the same tagged form are the same. -/
theorem ofJson?_tagged :
    (∀ value, ofJson? value.toJson = some value ∧
      ofJson? (.array [.string value.kind, value.content]) = some value) ∧
    (∀ json further, json.Extends ["kind", "value"] further → ofJson? further = ofJson? json) ∧
    (∀ json value, ofJson? json = some value ↔ value.TaggedAs json) ∧
    (∀ json value, ofJson? json = some value → ofJson? value.toJson = some value) ∧
    ∀ value other : FieldValue, value.toJson = other.toJson → value = other := by
  have written : ∀ value, ofJson? value.toJson = some value := fun value =>
    ofJson?_eq_some_iff.mpr value.taggedAs_toJson
  refine ⟨fun value => ⟨written value, ?_⟩, fun json further => ofJson?_of_extends,
    fun json value => ofJson?_eq_some_iff, fun json value _ => written value,
    fun value other same => ?_⟩
  · exact ofJson?_eq_some_iff.mpr .array
  · have read := written value
    rw [same, written other] at read
    exact (Option.some.inj read).symm

/-- A null without a tag of its own is read with a note in front of it. It is not missing, and it
is no text. -/
theorem ofJson?_tagged_null :
    let further : Value :=
      .object [("note", .bool true), ("value", .null), ("kind", .string "unknown")]
    (FieldValue.unknown .null).toJson.Extends ["kind", "value"] further ∧
      ofJson? further = some (.unknown .null) ∧
      ofJson? (.object [("kind", .string "unknown")]) = none ∧
      ofJson? (.object [("kind", .string "text"), ("value", .null)]) = none := by
  intro further
  let members : List (String × Value) := [("kind", .string "unknown"), ("value", .null)]
  let note : List (String × Value) := [("note", .bool true)]
  have arranged : (members ++ note).Perm (members ++ note).reverse := (List.reverse_perm _).symm
  have undeclared : ∀ member ∈ note, member.1 ∉ ["kind", "value"] := by
    simp [note]
  have extended : (FieldValue.unknown .null).toJson.Extends ["kind", "value"] further :=
    .object (.cons ⟨rfl, rfl⟩ (.cons ⟨rfl, rfl⟩ .nil)) undeclared arranged (by decide)
  obtain ⟨written, alike, -⟩ := ofJson?_tagged
  refine ⟨extended, ?_, rfl, rfl⟩
  rw [alike _ _ extended]
  exact (written (.unknown .null)).1

end FieldValue

end RecordSchema
