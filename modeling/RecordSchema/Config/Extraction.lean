/-
**The configuration of an extraction.**

Every setting has a default, so a configuration only names what it changes.

* `ExtractionConfig.ofSetting?`, `ExtractionConfig.toJson` — reading and writing.
* `ExtractionConfig.fault?` — the first fault of a configuration.
* `ExtractionConfig.ofToml`, `ExtractionConfig.load` — a faultless configuration from a text or a
  file.
* `ExtractionConfig.change` — one setting changed.
-/

import RecordSchema.ItemType.RecordSet
import RecordSchema.Config.Inference
import RecordSchema.Toml.Reader

namespace RecordSchema

open Json (Value)

/-! ### Errors -/

/-- What is wrong with a configuration. -/
inductive ConfigError where
  | parse (reason : String)
  | io (path reason : String)
  | invalid (reason : String)
  deriving DecidableEq, Repr, Inhabited

def ConfigError.message : ConfigError → String
  | parse reason => "Failed to parse configuration: " ++ reason
  | io path reason => "Failed to read configuration " ++ path ++ ": " ++ reason
  | invalid reason => "Invalid configuration: " ++ reason

/-! ### Sections -/

structure DiscoveryLimits where
  listLimit : Nat := 100
  /-- The number of listed items whose records are looked at. -/
  sampleItems : Nat := 50
  /-- The number of records of a type that are searched for a short name. -/
  shortNameScan : Nat := 20
  maxShortNameLen : Nat := 6
  deriving DecidableEq, Repr, Inhabited

namespace DiscoveryLimits

def standard : DiscoveryLimits := {}

def declared : List String := ["listLimit", "sampleItems", "shortNameScan", "maxShortNameLen"]

/-- Reads limits; a missing one has its default. -/
def ofSetting? (surplus : Surplus) (setting : Setting) : Option DiscoveryLimits := do
  let given ← setting.given? surplus declared
  let limit (name : String) (fallback : Nat) : Option Nat :=
    given.withDefault name fallback Setting.count?
  return {
    listLimit := ← limit "listLimit" standard.listLimit
    sampleItems := ← limit "sampleItems" standard.sampleItems
    shortNameScan := ← limit "shortNameScan" standard.shortNameScan
    maxShortNameLen := ← limit "maxShortNameLen" standard.maxShortNameLen }

def toJson (limits : DiscoveryLimits) : Value :=
  .object [("listLimit", .ofNat limits.listLimit), ("sampleItems", .ofNat limits.sampleItems),
    ("shortNameScan", .ofNat limits.shortNameScan),
    ("maxShortNameLen", .ofNat limits.maxShortNameLen)]

/-- The limits of the search for short names. -/
def shortNames (limits : DiscoveryLimits) : ShortNameLimits :=
  ⟨limits.shortNameScan, limits.maxShortNameLen⟩

end DiscoveryLimits

structure FetchLimits where
  /-- The number of records that a query asks for. -/
  pageSize : Nat := 1000
  /-- The pause before each request, in milliseconds. -/
  requestDelayMs : Nat := 100
  /-- The number of queries that may run at a time. -/
  maxConcurrent : Nat := 4
  deriving DecidableEq, Repr, Inhabited

namespace FetchLimits

def standard : FetchLimits := {}

def declared : List String := ["pageSize", "requestDelayMs", "maxConcurrent"]

/-- Reads limits; a missing one has its default. -/
def ofSetting? (surplus : Surplus) (setting : Setting) : Option FetchLimits := do
  let given ← setting.given? surplus declared
  let limit (name : String) (fallback : Nat) : Option Nat :=
    given.withDefault name fallback Setting.count?
  return {
    pageSize := ← limit "pageSize" standard.pageSize
    requestDelayMs := ← limit "requestDelayMs" standard.requestDelayMs
    maxConcurrent := ← limit "maxConcurrent" standard.maxConcurrent }

def toJson (limits : FetchLimits) : Value :=
  .object [("pageSize", .ofNat limits.pageSize), ("requestDelayMs", .ofNat limits.requestDelayMs),
    ("maxConcurrent", .ofNat limits.maxConcurrent)]

end FetchLimits

/-! ### Configurations -/

structure ExtractionConfig where
  /-- The version that the document describes; the last released one if unset. -/
  versionId : Option String := none
  discovery : DiscoveryLimits := {}
  fetch : FetchLimits := {}
  inference : InferenceLimits := {}
  relationCap : Nat := 20
  deriving DecidableEq, Repr, Inhabited

namespace ExtractionConfig

def standard : ExtractionConfig := {}

def declared : List String := ["versionId", "discovery", "fetch", "inference", "relationCap"]

/-- Reads a configuration; a missing setting has its default. -/
def ofSetting? (surplus : Surplus) (setting : Setting) : Option ExtractionConfig := do
  let given ← setting.given? surplus declared
  return {
    versionId := ← given.withDefault "versionId" standard.versionId Setting.optionalText?
    discovery :=
      ← given.withDefault "discovery" standard.discovery (DiscoveryLimits.ofSetting? surplus)
    fetch := ← given.withDefault "fetch" standard.fetch (FetchLimits.ofSetting? surplus)
    inference :=
      ← given.withDefault "inference" standard.inference (InferenceLimits.ofSetting? surplus)
    relationCap := ← given.withDefault "relationCap" standard.relationCap Setting.count? }

/-- Reads a configuration from a JSON document. -/
def ofJson? (json : Value) : Option ExtractionConfig :=
  ofSetting? .refused json.toSetting

def toJson (config : ExtractionConfig) : Value :=
  .object [("versionId", .ofText? config.versionId), ("discovery", config.discovery.toJson),
    ("fetch", config.fetch.toJson), ("inference", config.inference.toJson),
    ("relationCap", .ofNat config.relationCap)]

/-- The first fault of a configuration. -/
def fault? (config : ExtractionConfig) : Option ConfigError :=
  if config.fetch.pageSize = 0 then
    some (.invalid "fetch.pageSize must be greater than zero")
  else if config.fetch.maxConcurrent = 0 then
    some (.invalid "fetch.maxConcurrent must be greater than zero")
  else if config.discovery.listLimit = 0 ∨ config.discovery.sampleItems = 0 then
    some (.invalid "discovery limits must be greater than zero")
  else config.inference.fault?.map fun reason => .invalid ("inference." ++ reason)

/-- A faultless configuration from a TOML document. A list may have more elements than there are
settings. -/
def ofToml (text : String) : Except ConfigError ExtractionConfig :=
  match (Toml.read? text).bind (ofSetting? .ignored) with
  | none => .error (.parse "the text is no configuration")
  | some config =>
    match config.fault? with
    | some fault => .error fault
    | none => .ok config

/-- A faultless configuration from a file, given its text or the reason why there is none. -/
def load (path : String) (content : Except String String) : Except ConfigError ExtractionConfig :=
  match content with
  | .error reason => .error (.io path reason)
  | .ok text => ofToml text

/-- The pause before each request, in microseconds. -/
def pause (config : ExtractionConfig) : Nat :=
  config.fetch.requestDelayMs * 1000

end ExtractionConfig

/-! ### Changing settings -/

inductive ConfigChange where
  /-- Describe the version of an identifier. -/
  | version (id : String)
  /-- Pause before each request; of the microseconds, whole milliseconds are kept. -/
  | pause (microseconds : Nat)
  /-- Bound the queries that run at a time. -/
  | concurrency (bound : Nat)
  /-- Replace the limits of inference. -/
  | inference (limits : InferenceLimits)
  /-- List another number of relations. -/
  | relationCap (cap : Nat)
  deriving DecidableEq, Repr, Inhabited

def ExtractionConfig.change (config : ExtractionConfig) : ConfigChange → ExtractionConfig
  | .version id => { config with versionId := some id }
  | .pause microseconds =>
    { config with fetch := { config.fetch with requestDelayMs := microseconds / 1000 } }
  | .concurrency bound => { config with fetch := { config.fetch with maxConcurrent := bound } }
  | .inference limits => { config with inference := limits }
  | .relationCap cap => { config with relationCap := cap }

end RecordSchema
