import SimulatorBroker.State.Processes
import SimulatorBroker.Text.Properties

/-!
# Reading the registry file

`normalizeRegistry` on the value that `JSON.parse` built from the file: every field of every entry
has its own test, and what fails it is replaced by a default.
-/

namespace SimulatorBroker.Persistence

open SimulatorBroker.State
open SimulatorBroker.Text

/-! ## `Number(value)` -/

/-- The number of an integral double that is not negative. -/
def natural? : Double → Option Nat
  | .infinite _ => none
  | .finite negative mantissa exponent =>
      if mantissa = 0 then some 0
      else if negative then none
      else if 0 ≤ exponent then some (mantissa * 2 ^ exponent.toNat)
      else if mantissa % 2 ^ (-exponent).toNat = 0 then some (mantissa / 2 ^ (-exponent).toNat)
      else none

/-- The double of a count. -/
def ofNatural (count : Nat) : Double :=
  .finite false count 0

@[simp]
theorem natural?_ofNatural (count : Nat) : natural? (ofNatural count) = some count := by
  unfold natural? ofNatural
  by_cases hzero : count = 0
  · simp [hzero]
  · simp [hzero]

/-- The characters of a string; a surrogate is no character of a numeral. -/
def numeralChars (content : Units) : List Char :=
  content.map fun unit =>
    if 0xD800 ≤ unit.toNat ∧ unit.toNat < 0xE000 then '\x00' else Char.ofNat unit.toNat

def dropSign : List Char → List Char
  | '+' :: rest | '-' :: rest => rest
  | text => text

/-- `StrDecimalLiteral`, without the infinities. -/
def isDecimalLiteral (text : List Char) : Bool :=
  let whole := (dropSign text).takeWhile isDigit
  let afterWhole := (dropSign text).dropWhile isDigit
  let fraction := if afterWhole.head? = some '.' then afterWhole.tail.takeWhile isDigit else []
  let afterFraction :=
    if afterWhole.head? = some '.' then afterWhole.tail.dropWhile isDigit else afterWhole
  (!whole.isEmpty || !fraction.isEmpty) &&
    match afterFraction with
    | [] => true
    | c :: exponent =>
        (c == 'e' || c == 'E') && !(dropSign exponent).isEmpty && (dropSign exponent).all isDigit

/-- The value of a numeral with a radix prefix. -/
def radixValue (radix : Nat) (text : List Char) : Option Nat :=
  if text ≠ [] ∧ text.all fun c => isHexDigit c && decide (hexValue c < radix) then
    some (text.foldl (fun value c => radix * value + hexValue c) 0)
  else none

/-- `StringToNumber`; `NaN` is left out. -/
def numberOfText (content : Units) : Option Double :=
  match trimChars (numeralChars content) with
  | [] => some (ofNatural 0)
  | '0' :: 'x' :: digits | '0' :: 'X' :: digits =>
      (radixValue 16 digits).map fun value => roundRatio false value 1
  | '0' :: 'o' :: digits | '0' :: 'O' :: digits =>
      (radixValue 8 digits).map fun value => roundRatio false value 1
  | '0' :: 'b' :: digits | '0' :: 'B' :: digits =>
      (radixValue 2 digits).map fun value => roundRatio false value 1
  | text =>
      if dropSign text = "Infinity".toList then some (.infinite (decide (text.head? = some '-')))
      else if isDecimalLiteral text then some (numberOf text)
      else none

/-- `elements.join(",")` of the texts of the elements. -/
def joinTexts (texts : List Units) : Units :=
  (stringUnits ",").intercalate texts

def isNull : Value → Bool
  | .null => true
  | _ => false

mutual

/-- `String(value)`. -/
def textOfValue : Value → Units
  | .null => stringUnits "null"
  | .bool value => stringUnits (if value then "true" else "false")
  | .number (.infinite negative) => stringUnits (if negative then "-Infinity" else "Infinity")
  | .number (.finite negative mantissa exponent) =>
      (Double.finite negative mantissa exponent).text.flatMap charUnits
  | .string content => content
  | .array elements => joinTexts (elementTexts elements)
  | .object _ => stringUnits "[object Object]"

/-- What `Array.prototype.join` joins. -/
def elementTexts : List Value → List Units
  | [] => []
  | element :: rest => (if isNull element then [] else textOfValue element) :: elementTexts rest

end

/-- `Number(value)`; `NaN` is left out. -/
def numberOfValue : Value → Option Double
  | .null => some (ofNatural 0)
  | .bool value => some (ofNatural (if value then 1 else 0))
  | .number value => some value
  | .string content => numberOfText content
  | .array elements => numberOfText (joinTexts (elementTexts elements))
  | .object _ => none

/-- `typeof value === "string" ? value : null`. -/
def text? : Option Value → Option Units
  | some (.string content) => some content
  | _ => none

/-- `normalizeNonNegativeInteger(value)`; `Number(undefined)` is `NaN`. -/
def normalizeNonNegativeInteger : Option Value → Option Nat
  | none => none
  | some (.string content) =>
      if trimChars (numeralChars content) = [] then none
      else (numberOfText content).bind natural?
  | some value => (numberOfValue value).bind natural?

example : normalizeNonNegativeInteger (some (.array [.string (stringUnits "0x10")])) = some 16 := by
  decide +kernel

/-! ## Entries -/

/-- `ALLOWED_HEALTH_STATES`. -/
def allowedHealthStates : List String :=
  ["healthy", "state-drift", "repair-needed", "repairing"]

/-- `ALLOWED_POWER_STATES`. -/
def allowedPowerStates : List String :=
  ["shutdown", "booted"]

/-- `KNOWN_DRIFT_CAUSE_CODES`. -/
def knownDriftCauseTexts : List String :=
  ["boot-on-acquire-failed", "device-type-not-found", "idle-shutdown-failed",
    "repair-interrupted", "reset-on-acquire-failed", "runtime-not-found",
    "simulator-action-failed", "simulator-config-mismatch", "simulator-missing",
    "simulator-unavailable", "slot-reclaim-failed"]

/-- `set.has(value) ? value : null`, for a set of strings. -/
def among (allowed : List String) (value : Option Value) : Option Units :=
  (text? value).filter fun content => decide (content ∈ allowed.map stringUnits)

/-- The entry of an alias in a normalized registry. -/
structure PersistedEntry where
  activeLeaseId : Option Units
  aliasName : Units
  driftCauseCode : Option Units
  driftReason : Option Units
  health : Units
  lastBootedAt : Option Units
  lastErasedAt : Option Units
  lastLeaseReleasedAt : Option Units
  lastLeaseStartedAt : Option Units
  leasesSinceErase : Nat
  lastRepairedAt : Option Units
  lastShutdownAt : Option Units
  pinId : Option Units
  powerState : Units
  updatedAt : Units
  deriving DecidableEq

/-- The fifteen fields, from what the raw entry has under each name. -/
def entryOfFields (aliasName timestamp : Units) (field : String → Option Value) :
    PersistedEntry where
  activeLeaseId := text? (field "activeLeaseId")
  aliasName := aliasName
  driftCauseCode := among knownDriftCauseTexts (field "driftCauseCode")
  driftReason := text? (field "driftReason")
  health := (among allowedHealthStates (field "health")).getD (stringUnits "healthy")
  lastBootedAt := text? (field "lastBootedAt")
  lastErasedAt := text? (field "lastErasedAt")
  lastLeaseReleasedAt := text? (field "lastLeaseReleasedAt")
  lastLeaseStartedAt := text? (field "lastLeaseStartedAt")
  leasesSinceErase := (normalizeNonNegativeInteger (field "leasesSinceErase")).getD 0
  lastRepairedAt := text? (field "lastRepairedAt")
  lastShutdownAt := text? (field "lastShutdownAt")
  pinId := text? (field "pinId")
  powerState := (among allowedPowerStates (field "powerState")).getD (stringUnits "shutdown")
  updatedAt := (text? (field "updatedAt")).getD timestamp

/-- An entry that is `null` has no properties to read. -/
def normalizeEntry (aliasName timestamp : Units) (entry : Value) :
    Except BrokerError PersistedEntry :=
  match entry with
  | .null =>
      .error { text := "Cannot read properties of null (reading 'activeLeaseId')" }
  | entry => .ok (entryOfFields aliasName timestamp fun name => entry.property (stringUnits name))

/-! ## Results -/

/-- `registry.idle.lastCleanupResult`. -/
structure PersistedCleanup where
  completedAt : Units
  eligibleCount : Nat
  failureCount : Nat
  shutdownCount : Nat
  source : Value
  status : Units

/-- `registry.slotReclaim.lastReclaimResult`. -/
structure PersistedReclaim where
  completedAt : Units
  eligibleCount : Nat
  failureCount : Nat
  reclaimedCount : Nat
  skippedHeldCount : Nat
  source : Units
  status : Units
  deriving DecidableEq

/-- A string that is not empty. -/
def label? (value : Option Value) : Option Units :=
  (text? value).filter fun content => decide (content ≠ [])

/-- Only an object has the properties that are read. -/
def normalizeIdleCleanupResult (value : Option Value) : Option PersistedCleanup := do
  let field := fun name => value.bind (·.property (stringUnits name))
  let completedAt ← label? (field "completedAt")
  let source ← label? (field "source")
  let status ← label? (field "status")
  let eligibleCount ← normalizeNonNegativeInteger (field "eligibleCount")
  let shutdownCount ← normalizeNonNegativeInteger (field "shutdownCount")
  let failureCount ← normalizeNonNegativeInteger (field "failureCount")
  return {
    completedAt, eligibleCount, failureCount, shutdownCount, source := .string source, status }

def normalizeSlotReclaimResult (value : Option Value) : Option PersistedReclaim := do
  let field := fun name => value.bind (·.property (stringUnits name))
  let completedAt ← label? (field "completedAt")
  let source ← label? (field "source")
  let status ← label? (field "status")
  let eligibleCount ← normalizeNonNegativeInteger (field "eligibleCount")
  let reclaimedCount ← normalizeNonNegativeInteger (field "reclaimedCount")
  let skippedHeldCount ← normalizeNonNegativeInteger (field "skippedHeldCount")
  let failureCount ← normalizeNonNegativeInteger (field "failureCount")
  return {
    completedAt, eligibleCount, failureCount, reclaimedCount, skippedHeldCount, source, status }

/-! ## The registry -/

structure PersistedRegistry where
  aliases : List (Units × PersistedEntry)
  lastCleanupResult : Option PersistedCleanup
  lastReclaimResult : Option PersistedReclaim
  updatedAt : Units

/-- `REGISTRY_VERSION`. -/
def registryVersion : Nat := 1

/-- `validateVersion(value, expectedVersion, name)`. -/
def validateVersion (value : Option Value) (expectedVersion : Nat) (name : String) :
    Except BrokerError Unit :=
  match value with
  | some (.number version) =>
      if natural? version = some expectedVersion then .ok () else .error (refusal)
  | _ => .error refusal
where
  refusal : BrokerError :=
    .broker .invalidConfig (name ++ ".version must equal " ++ toString expectedVersion ++ ".")

/-- `requireObject(value, name)`: its members. -/
def requireObject (value : Option Value) (name : String) :
    Except BrokerError (List (Units × Value)) :=
  match value with
  | some (.object members) => .ok members
  | _ => .error (.broker .invalidConfig (name ++ " must be an object."))

/-- The value of a registry that is there; a file that is missing reads as `null`. -/
def registryObject (rawRegistry : Value) (timestamp : Units) : Value :=
  match rawRegistry with
  | .null =>
      objectOf [("aliases", .object []), ("updatedAt", .string timestamp),
        ("version", .number (ofNatural registryVersion))]
  | rawRegistry => rawRegistry

/-- `normalizeRegistry(rawRegistry, hostConfig, timestamp)`, for the alias names of the config in
their order. -/
def normalizeRegistry (rawRegistry : Value) (aliasNames : List Units) (timestamp : Units) :
    Except BrokerError PersistedRegistry := do
  let rawRegistry := registryObject rawRegistry timestamp
  validateVersion (rawRegistry.property (stringUnits "version")) registryVersion "registry"
  let rawAliases ← requireObject (rawRegistry.property (stringUnits "aliases")) "registry.aliases"
  let aliases ← aliasNames.mapM fun aliasName => do
    let entry ← normalizeEntry aliasName timestamp ((lookup rawAliases aliasName).getD (.object []))
    return (aliasName, entry)
  let result := fun group name =>
    (rawRegistry.property (stringUnits group)).bind (·.property (stringUnits name))
  return {
    aliases
    lastCleanupResult := normalizeIdleCleanupResult (result "idle" "lastCleanupResult")
    lastReclaimResult := normalizeSlotReclaimResult (result "slotReclaim" "lastReclaimResult")
    updatedAt := timestamp }

/-! ## The file -/

def textOrNull : Option Units → Value
  | none => .null
  | some content => .string content

def count (value : Nat) : Value :=
  .number (ofNatural value)

def PersistedEntry.fields (entry : PersistedEntry) : List (String × Value) := [
    ("activeLeaseId", textOrNull entry.activeLeaseId),
    ("alias", .string entry.aliasName),
    ("driftCauseCode", textOrNull entry.driftCauseCode),
    ("driftReason", textOrNull entry.driftReason),
    ("health", .string entry.health),
    ("lastBootedAt", textOrNull entry.lastBootedAt),
    ("lastErasedAt", textOrNull entry.lastErasedAt),
    ("lastLeaseReleasedAt", textOrNull entry.lastLeaseReleasedAt),
    ("lastLeaseStartedAt", textOrNull entry.lastLeaseStartedAt),
    ("leasesSinceErase", count entry.leasesSinceErase),
    ("lastRepairedAt", textOrNull entry.lastRepairedAt),
    ("lastShutdownAt", textOrNull entry.lastShutdownAt),
    ("pinId", textOrNull entry.pinId),
    ("powerState", .string entry.powerState),
    ("updatedAt", .string entry.updatedAt)]

def PersistedEntry.toValue (entry : PersistedEntry) : Value :=
  objectOf entry.fields

def PersistedCleanup.fields (result : PersistedCleanup) : List (String × Value) := [
    ("completedAt", .string result.completedAt),
    ("eligibleCount", count result.eligibleCount),
    ("failureCount", count result.failureCount),
    ("shutdownCount", count result.shutdownCount),
    ("source", result.source),
    ("status", .string result.status)]

def PersistedCleanup.toValue (result : PersistedCleanup) : Value :=
  objectOf result.fields

def PersistedReclaim.fields (result : PersistedReclaim) : List (String × Value) := [
    ("completedAt", .string result.completedAt),
    ("eligibleCount", count result.eligibleCount),
    ("failureCount", count result.failureCount),
    ("reclaimedCount", count result.reclaimedCount),
    ("skippedHeldCount", count result.skippedHeldCount),
    ("source", .string result.source),
    ("status", .string result.status)]

def PersistedReclaim.toValue (result : PersistedReclaim) : Value :=
  objectOf result.fields

def PersistedRegistry.fields (registry : PersistedRegistry) : List (String × Value) := [
    ("aliases", .object (registry.aliases.map fun entry => (entry.1, entry.2.toValue))),
    ("idle", objectOf [("lastCleanupResult",
      (registry.lastCleanupResult.map PersistedCleanup.toValue).getD .null)]),
    ("slotReclaim", objectOf [("lastReclaimResult",
      (registry.lastReclaimResult.map PersistedReclaim.toValue).getD .null)]),
    ("updatedAt", .string registry.updatedAt),
    ("version", count registryVersion)]

def PersistedRegistry.toValue (registry : PersistedRegistry) : Value :=
  objectOf registry.fields

end SimulatorBroker.Persistence
