/-
**A partial configuration overlays the defaults.**

A configuration that was written down and lost some of its members is read as the one that it was,
with the lost settings back at their defaults. Members of names that are no settings are passed
over:

* `ExtractionConfig.remaining` — what was written, less some members of it and of its sections.
* `ExtractionConfig.keeping` — the configuration that keeps the settings of the same names.
* `ExtractionConfig.ofJson?_remaining` — the one is read as the other.
* `ExtractionConfig.ofJson?_of_extends` — further members, in the configuration or in a section,
  change nothing.
-/

import RecordSchema.Config.Extraction
import RecordSchema.Proofs.Json.Members

namespace RecordSchema

open Json (Value)

/-! ### Members of an object -/

namespace Json.Value

/-- An object with those members only whose names are kept; other values stay. -/
def keepMembers (kept : String → Bool) : Value → Value
  | .object members => .object (members.filter fun member => kept member.1)
  | other => other

/-- An object with each member changed as its name asks; other values stay. -/
def mapMembers (change : String → Value → Value) : Value → Value
  | .object members => .object (members.map fun member => (member.1, change member.1 member.2))
  | other => other

theorem memberSettings_eq_map (members : List (String × Value)) :
    memberSettings members = members.map fun member => (member.1, member.2.toSetting) := by
  induction members with
  | nil => rfl
  | cons member rest hypothesis => rw [memberSettings, hypothesis, List.map_cons]

/-- A count of at most 64 bits is read as it was written. -/
theorem count?_toSetting_ofNat {count : Nat} (fits : count < Nat.pow 2 64) :
    (ofNat count).toSetting.count? = some count := by
  have inRange : (0 : Int) ≤ count ∧ (count : Int) < Nat.pow 2 64 :=
    ⟨Int.natCast_nonneg count, Int.ofNat_lt.mpr fits⟩
  rw [ofNat, toSetting, Number.count?, if_pos inRange]
  rfl

end Json.Value

/-- The settings that the members of an object give. -/
abbrev Given.ofObject (members : List (String × Value)) : Given Setting :=
  Given.ofMembers (Value.memberSettings members)

namespace Given

section Reading

variable {α : Type} {decode : Setting → Option α} {value : α} {fallback : α} {name : String}
  {members : List (String × Value)}

theorem ofObject_apply (members : List (String × Value)) (name : String) :
    ofObject members name = (Entries.find? name members).map Value.toSetting := by
  rw [ofObject, ofMembers, Value.memberSettings_eq_map]
  exact Entries.find?_map fun _ => Value.toSetting

/-- **Of the members that are kept** each is read as before, and the others have their defaults. -/
theorem withDefault_filter (members : List (String × Value)) (kept : String → Bool) (name : String)
    (fallback : α) {before : Value} (stands : Entries.find? name members = some before)
    (read : decode before.toSetting = some value) :
    (ofObject (members.filter fun member => kept member.1)).withDefault name fallback decode =
      some (if kept name then value else fallback) := by
  rw [withDefault, ofObject_apply, Entries.find?_filter]
  by_cases remains : kept name = true
  · rw [if_pos remains, if_pos remains, stands]
    exact read
  · rw [if_neg remains, if_neg remains, Option.map_none]

/-- **Further members** do not change what is read under a declared name, if the member there is
read as before. -/
theorem withDefault_of_extends {changes : String → Value → Value → Prop} {declared : List String}
    {extended : List (String × Value)}
    (extension : Value.ExtendsWith changes declared (.object members) (.object extended))
    (isDeclared : name ∈ declared)
    (alike : ∀ before now, changes name before now →
      decode now.toSetting = decode before.toSetting) :
    (ofObject extended).withDefault name fallback decode =
      (ofObject members).withDefault name fallback decode := by
  have related := extension.rel_find? isDeclared
  rw [withDefault, withDefault, ofObject_apply, ofObject_apply]
  generalize Entries.find? name members = given at related ⊢
  generalize Entries.find? name extended = found at related ⊢
  cases related with
  | some changed => exact alike _ _ changed
  | none => rfl

/-- **Counts that are kept** are read as they were written, and the others have their defaults. -/
theorem withDefault_keptCounts {counts : List (String × Nat)} {count : Nat}
    (fits : ∀ entry ∈ counts, entry.2 < Nat.pow 2 64)
    (stands : Entries.find? name counts = some count) (kept : String → Bool) (fallback : Nat) :
    (ofObject ((counts.map fun entry => (entry.1, Value.ofNat entry.2)).filter fun member =>
      kept member.1)).withDefault name fallback Setting.count? =
        some (if kept name then count else fallback) := by
  have written : Entries.find? name (counts.map fun entry => (entry.1, Value.ofNat entry.2)) =
      some (.ofNat count) := by
    rw [Entries.find?_map fun _ => Value.ofNat, stands, Option.map_some]
  have inRange : count < Nat.pow 2 64 := fits _ (Entries.mem_of_find? stands)
  exact withDefault_filter _ kept name fallback written (Value.count?_toSetting_ofNat inRange)

end Reading

end Given

/-- **An extended object** gives the same settings under declared names. -/
theorem Json.Value.Extends.exists_given (surplus : Surplus) {declared : List String}
    {before after : Value} (extension : before.Extends declared after) :
    ∃ given further : Given Setting,
      before.toSetting.given? surplus declared = some given ∧
      after.toSetting.given? surplus declared = some further ∧
      ∀ name ∈ declared, further name = given name := by
  have unchanged := extension
  cases extension with
  | @object members _ _ extended =>
    refine ⟨Given.ofObject members, Given.ofObject extended, rfl, rfl, fun name isDeclared => ?_⟩
    rw [Given.ofObject_apply, Given.ofObject_apply, unchanged.find?_eq isDeclared]

/-! ### Sections -/

namespace DiscoveryLimits

/-- The limits under their names. -/
def counts (limits : DiscoveryLimits) : List (String × Nat) :=
  [("listLimit", limits.listLimit), ("sampleItems", limits.sampleItems),
    ("shortNameScan", limits.shortNameScan), ("maxShortNameLen", limits.maxShortNameLen)]

/-- The limits of the names that are kept, where the others have their defaults. -/
def keeping (limits : DiscoveryLimits) (kept : String → Bool) : DiscoveryLimits where
  listLimit := if kept "listLimit" then limits.listLimit else standard.listLimit
  sampleItems := if kept "sampleItems" then limits.sampleItems else standard.sampleItems
  shortNameScan := if kept "shortNameScan" then limits.shortNameScan else standard.shortNameScan
  maxShortNameLen :=
    if kept "maxShortNameLen" then limits.maxShortNameLen else standard.maxShortNameLen

/-- The members that are left are read as the limits of their names. -/
theorem ofSetting?_keepMembers (surplus : Surplus) {limits : DiscoveryLimits}
    (fits : ∀ limit ∈ limits.counts, limit.2 < Nat.pow 2 64) (kept : String → Bool) :
    ofSetting? surplus (limits.toJson.keepMembers kept).toSetting = some (limits.keeping kept) := by
  have given : (limits.toJson.keepMembers kept).toSetting.given? surplus declared =
      some (Given.ofObject ((limits.counts.map fun limit =>
        (limit.1, Value.ofNat limit.2)).filter fun member => kept member.1)) := rfl
  have read (name : String) {count : Nat}
      (stands : Entries.find? name limits.counts = some count) :=
    Given.withDefault_keptCounts fits stands kept
  simp only [ofSetting?, given, read "listLimit" rfl, read "sampleItems" rfl,
    read "shortNameScan" rfl, read "maxShortNameLen" rfl, Option.bind_eq_bind, Option.bind_some]
  rfl

/-- Further members change nothing. -/
theorem ofSetting?_of_extends (surplus : Surplus) {before after : Value}
    (changed : after = before ∨ before.Extends declared after) :
    ofSetting? surplus after.toSetting = ofSetting? surplus before.toSetting := by
  rcases changed with rfl | extension
  · rfl
  obtain ⟨given, further, found, foundFurther, same⟩ := extension.exists_given surplus
  simp only [ofSetting?, found, foundFurther, Given.withDefault, same "listLimit" (by decide),
    same "sampleItems" (by decide), same "shortNameScan" (by decide),
    same "maxShortNameLen" (by decide), Option.bind_eq_bind, Option.bind_some]

end DiscoveryLimits

namespace FetchLimits

/-- The limits under their names. -/
def counts (limits : FetchLimits) : List (String × Nat) :=
  [("pageSize", limits.pageSize), ("requestDelayMs", limits.requestDelayMs),
    ("maxConcurrent", limits.maxConcurrent)]

/-- The limits of the names that are kept, where the others have their defaults. -/
def keeping (limits : FetchLimits) (kept : String → Bool) : FetchLimits where
  pageSize := if kept "pageSize" then limits.pageSize else standard.pageSize
  requestDelayMs := if kept "requestDelayMs" then limits.requestDelayMs else standard.requestDelayMs
  maxConcurrent := if kept "maxConcurrent" then limits.maxConcurrent else standard.maxConcurrent

/-- The members that are left are read as the limits of their names. -/
theorem ofSetting?_keepMembers (surplus : Surplus) {limits : FetchLimits}
    (fits : ∀ limit ∈ limits.counts, limit.2 < Nat.pow 2 64) (kept : String → Bool) :
    ofSetting? surplus (limits.toJson.keepMembers kept).toSetting = some (limits.keeping kept) := by
  have given : (limits.toJson.keepMembers kept).toSetting.given? surplus declared =
      some (Given.ofObject ((limits.counts.map fun limit =>
        (limit.1, Value.ofNat limit.2)).filter fun member => kept member.1)) := rfl
  have read (name : String) {count : Nat}
      (stands : Entries.find? name limits.counts = some count) :=
    Given.withDefault_keptCounts fits stands kept
  simp only [ofSetting?, given, read "pageSize" rfl, read "requestDelayMs" rfl,
    read "maxConcurrent" rfl, Option.bind_eq_bind, Option.bind_some]
  rfl

/-- Further members change nothing. -/
theorem ofSetting?_of_extends (surplus : Surplus) {before after : Value}
    (changed : after = before ∨ before.Extends declared after) :
    ofSetting? surplus after.toSetting = ofSetting? surplus before.toSetting := by
  rcases changed with rfl | extension
  · rfl
  obtain ⟨given, further, found, foundFurther, same⟩ := extension.exists_given surplus
  simp only [ofSetting?, found, foundFurther, Given.withDefault, same "pageSize" (by decide),
    same "requestDelayMs" (by decide), same "maxConcurrent" (by decide), Option.bind_eq_bind,
    Option.bind_some]

end FetchLimits

namespace InferenceLimits

/-- The limits under their names. -/
def counts (limits : InferenceLimits) : List (String × Nat) :=
  [("maxUniqueValues", limits.maxUniqueValues), ("maxExampleValues", limits.maxExampleValues),
    ("maxValueLength", limits.maxValueLength), ("richTextScanLimit", limits.richTextScanLimit),
    ("richTextMinLength", limits.richTextMinLength), ("maxSampleRecords", limits.maxSampleRecords),
    ("sampleTitleLength", limits.sampleTitleLength),
    ("sampleValueLength", limits.sampleValueLength), ("sampleFieldLimit", limits.sampleFieldLimit)]

/-- The limits of the names that are kept, where the others have their defaults. -/
def keeping (limits : InferenceLimits) (kept : String → Bool) : InferenceLimits where
  maxUniqueValues :=
    if kept "maxUniqueValues" then limits.maxUniqueValues else standard.maxUniqueValues
  maxExampleValues :=
    if kept "maxExampleValues" then limits.maxExampleValues else standard.maxExampleValues
  maxValueLength := if kept "maxValueLength" then limits.maxValueLength else standard.maxValueLength
  richTextScanLimit :=
    if kept "richTextScanLimit" then limits.richTextScanLimit else standard.richTextScanLimit
  richTextMinLength :=
    if kept "richTextMinLength" then limits.richTextMinLength else standard.richTextMinLength
  maxSampleRecords :=
    if kept "maxSampleRecords" then limits.maxSampleRecords else standard.maxSampleRecords
  sampleTitleLength :=
    if kept "sampleTitleLength" then limits.sampleTitleLength else standard.sampleTitleLength
  sampleValueLength :=
    if kept "sampleValueLength" then limits.sampleValueLength else standard.sampleValueLength
  sampleFieldLimit :=
    if kept "sampleFieldLimit" then limits.sampleFieldLimit else standard.sampleFieldLimit

/-- The members that are left are read as the limits of their names. -/
theorem ofSetting?_keepMembers (surplus : Surplus) {limits : InferenceLimits}
    (fits : ∀ limit ∈ limits.counts, limit.2 < Nat.pow 2 64) (kept : String → Bool) :
    ofSetting? surplus (limits.toJson.keepMembers kept).toSetting = some (limits.keeping kept) := by
  have given : (limits.toJson.keepMembers kept).toSetting.given? surplus declared =
      some (Given.ofObject ((limits.counts.map fun limit =>
        (limit.1, Value.ofNat limit.2)).filter fun member => kept member.1)) := rfl
  have read (name : String) {count : Nat}
      (stands : Entries.find? name limits.counts = some count) :=
    Given.withDefault_keptCounts fits stands kept
  simp only [ofSetting?, given, read "maxUniqueValues" rfl, read "maxExampleValues" rfl,
    read "maxValueLength" rfl, read "richTextScanLimit" rfl, read "richTextMinLength" rfl,
    read "maxSampleRecords" rfl, read "sampleTitleLength" rfl, read "sampleValueLength" rfl,
    read "sampleFieldLimit" rfl, Option.bind_eq_bind, Option.bind_some]
  rfl

/-- Further members change nothing. -/
theorem ofSetting?_of_extends (surplus : Surplus) {before after : Value}
    (changed : after = before ∨ before.Extends declared after) :
    ofSetting? surplus after.toSetting = ofSetting? surplus before.toSetting := by
  rcases changed with rfl | extension
  · rfl
  obtain ⟨given, further, found, foundFurther, same⟩ := extension.exists_given surplus
  simp only [ofSetting?, found, foundFurther, Given.withDefault, same "maxUniqueValues" (by decide),
    same "maxExampleValues" (by decide), same "maxValueLength" (by decide),
    same "richTextScanLimit" (by decide), same "richTextMinLength" (by decide),
    same "maxSampleRecords" (by decide), same "sampleTitleLength" (by decide),
    same "sampleValueLength" (by decide), same "sampleFieldLimit" (by decide), Option.bind_eq_bind,
    Option.bind_some]

end InferenceLimits

/-! ### Configurations -/

/-- Which settings are kept, of the configuration itself and of each of its sections. -/
structure KeptSettings where
  own : String → Bool
  discovery : String → Bool
  fetch : String → Bool
  inference : String → Bool

namespace KeptSettings

/-- All settings. -/
def all : KeptSettings :=
  ⟨fun _ => true, fun _ => true, fun _ => true, fun _ => true⟩

/-- What is left of the setting of a name: of a section, the members that are kept. -/
def trim (kept : KeptSettings) (name : String) (value : Value) : Value :=
  match name with
  | "discovery" => value.keepMembers kept.discovery
  | "fetch" => value.keepMembers kept.fetch
  | "inference" => value.keepMembers kept.inference
  | _ => value

end KeptSettings

namespace ExtractionConfig

/-- Whether a configuration holds counts only. A count is a number of at most 64 bits. -/
structure Fits (config : ExtractionConfig) : Prop where
  discovery : ∀ limit ∈ config.discovery.counts, limit.2 < Nat.pow 2 64
  fetch : ∀ limit ∈ config.fetch.counts, limit.2 < Nat.pow 2 64
  inference : ∀ limit ∈ config.inference.counts, limit.2 < Nat.pow 2 64
  relationCap : config.relationCap < Nat.pow 2 64

/-- The configuration that keeps some settings, where the others have their defaults. A section
that is not kept has its defaults as a whole. -/
def keeping (config : ExtractionConfig) (kept : KeptSettings) : ExtractionConfig where
  versionId := if kept.own "versionId" then config.versionId else standard.versionId
  discovery :=
    if kept.own "discovery" then config.discovery.keeping kept.discovery else standard.discovery
  fetch := if kept.own "fetch" then config.fetch.keeping kept.fetch else standard.fetch
  inference :=
    if kept.own "inference" then config.inference.keeping kept.inference else standard.inference
  relationCap := if kept.own "relationCap" then config.relationCap else standard.relationCap

/-- What was written of a configuration, without the members that are not kept. -/
def remaining (config : ExtractionConfig) (kept : KeptSettings) : Value :=
  (config.toJson.mapMembers kept.trim).keepMembers kept.own

/-- A text, or its absence, is read as it was written. -/
theorem optionalText?_toSetting_ofText? (text : Option String) :
    (Value.ofText? text).toSetting.optionalText? = some text := by
  cases text <;> rfl

/-- **What is left** of a configuration is read as the configuration that keeps it. -/
theorem ofJson?_remaining {config : ExtractionConfig} (fits : config.Fits) (kept : KeptSettings) :
    ofJson? (config.remaining kept) = some (config.keeping kept) := by
  let written : List (String × Value) :=
    [("versionId", .ofText? config.versionId),
      ("discovery", config.discovery.toJson.keepMembers kept.discovery),
      ("fetch", config.fetch.toJson.keepMembers kept.fetch),
      ("inference", config.inference.toJson.keepMembers kept.inference),
      ("relationCap", .ofNat config.relationCap)]
  have given : (config.remaining kept).toSetting.given? .refused declared =
      some (Given.ofObject (written.filter fun member => kept.own member.1)) := rfl
  simp only [ofJson?, ofSetting?, given, Option.bind_eq_bind, Option.bind_some,
    Given.withDefault_filter written kept.own "versionId" _ rfl
      (optionalText?_toSetting_ofText? config.versionId),
    Given.withDefault_filter written kept.own "discovery" _ rfl
      (DiscoveryLimits.ofSetting?_keepMembers _ fits.discovery _),
    Given.withDefault_filter written kept.own "fetch" _ rfl
      (FetchLimits.ofSetting?_keepMembers _ fits.fetch _),
    Given.withDefault_filter written kept.own "inference" _ rfl
      (InferenceLimits.ofSetting?_keepMembers _ fits.inference _),
    Given.withDefault_filter written kept.own "relationCap" _ rfl
      (Value.count?_toSetting_ofNat fits.relationCap)]
  rfl

/-- A member of a configuration, where a section may have further members. -/
def MemberExtends (name : String) (before after : Value) : Prop :=
  match name with
  | "discovery" => after = before ∨ before.Extends DiscoveryLimits.declared after
  | "fetch" => after = before ∨ before.Extends FetchLimits.declared after
  | "inference" => after = before ∨ before.Extends InferenceLimits.declared after
  | _ => after = before

/-- **Further members**, in the configuration or in a section, change nothing. -/
theorem ofJson?_of_extends {before after : Value}
    (extension : Value.ExtendsWith MemberExtends declared before after) :
    ofJson? after = ofJson? before := by
  have given := extension
  cases extension with
  | @object members _ _ extended =>
    have alike {α : Type} (name : String) (isDeclared : name ∈ declared)
        (decode : Setting → Option α) (fallback : α)
        (decoded : ∀ before after, MemberExtends name before after →
          decode after.toSetting = decode before.toSetting) :
        (Given.ofObject extended).withDefault name fallback decode =
          (Given.ofObject members).withDefault name fallback decode :=
      Given.withDefault_of_extends given isDeclared decoded
    simp only [ofJson?, ofSetting?, Value.toSetting, Setting.given?, Option.bind_eq_bind,
      Option.bind_some,
      alike "versionId" (by decide) _ _ fun _ _ =>
        congrArg fun value : Value => value.toSetting.optionalText?,
      alike "discovery" (by decide) _ _ fun _ _ => DiscoveryLimits.ofSetting?_of_extends .refused,
      alike "fetch" (by decide) _ _ fun _ _ => FetchLimits.ofSetting?_of_extends .refused,
      alike "inference" (by decide) _ _ fun _ _ => InferenceLimits.ofSetting?_of_extends .refused,
      alike "relationCap" (by decide) _ _ fun _ _ =>
        congrArg fun value : Value => value.toSetting.count?]

/-- **A partial configuration** is read. What was written of a configuration is read as it, also
where it names no version; without some members, of its own or of its sections, it is read as the
configuration that keeps the others and has the defaults in their place. Further members, in the
configuration or in a section, never change what is read. -/
theorem ofJson?_overlays {config : ExtractionConfig} (fits : config.Fits) :
    ofJson? config.toJson = some config ∧
    (∀ kept, ofJson? (config.remaining kept) = some (config.keeping kept)) ∧
    ∀ before after, Value.ExtendsWith MemberExtends declared before after →
      ofJson? after = ofJson? before :=
  ⟨ofJson?_remaining fits .all, ofJson?_remaining fits, fun _ _ => ofJson?_of_extends⟩

/-- Of a configuration without a version, two sections are removed, and of the third one the page
size. Comments are added to it and to the section that is left. -/
theorem ofJson?_overlays_commented :
    let config : ExtractionConfig :=
      { fetch := { pageSize := 7, requestDelayMs := 250 }, relationCap := 10,
        discovery := { listLimit := 3 } }
    let json : Value := .object [("comment", .null), ("versionId", .null),
      ("fetch", .object [("requestDelayMs", .ofNat 250), ("maxConcurrent", .ofNat 4),
        ("comment", .bool true)]),
      ("relationCap", .ofNat 10)]
    config.Fits ∧
      ofJson? json = some { fetch := { requestDelayMs := 250 }, relationCap := 10 } := by
  intro config json
  let kept : KeptSettings :=
    { own := fun name => name != "discovery" && name != "inference"
      discovery := fun _ => false
      fetch := fun name => name != "pageSize"
      inference := fun _ => false }
  have fits : config.Fits := ⟨by decide, by decide, by decide, by decide⟩
  obtain ⟨-, remains, unchanged⟩ := ofJson?_overlays fits
  let comment (value : Value) : List (String × Value) := [("comment", value)]
  have undeclared (value : Value) :
      (∀ member ∈ comment value, member.1 ∉ declared) ∧
        ∀ member ∈ comment value, member.1 ∉ FetchLimits.declared := by
    simp [comment, declared, FetchLimits.declared]
  let fetched : List (String × Value) :=
    [("requestDelayMs", .ofNat 250), ("maxConcurrent", .ofNat 4)]
  have commented : (Value.object fetched).Extends FetchLimits.declared
      (.object (fetched ++ comment (.bool true))) :=
    .object (.cons ⟨rfl, rfl⟩ (.cons ⟨rfl, rfl⟩ .nil)) (undeclared _).2 (List.Perm.refl _)
      (by decide)
  let left (fetch : List (String × Value)) : List (String × Value) :=
    [("versionId", .null), ("fetch", .object fetch), ("relationCap", .ofNat 10)]
  have altered : List.Forall₂ (fun member now => member.1 = now.1 ∧
      MemberExtends member.1 member.2 now.2) (left fetched)
        (left (fetched ++ comment (.bool true))) :=
    .cons ⟨rfl, rfl⟩ (.cons ⟨rfl, .inr commented⟩ (.cons ⟨rfl, rfl⟩ .nil))
  have extension : Value.ExtendsWith MemberExtends declared (config.remaining kept) json :=
    .object altered (undeclared .null).1 List.perm_append_comm (by decide)
  refine ⟨fits, ?_⟩
  rw [unchanged _ _ extension, remains]
  rfl

end ExtractionConfig

end RecordSchema
