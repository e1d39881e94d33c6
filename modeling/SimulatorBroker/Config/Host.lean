import SimulatorBroker.Config.Fields

/-!
# The host config file

`validateHostConfig` on a parsed file.  What it returns carries its own checks, so a config that
would be refused cannot be built.
-/

namespace SimulatorBroker.Config

open SimulatorBroker.State (DeviceFamily ResetPolicy)
open SimulatorBroker.Text
open SimulatorBroker.Persistence (ofNatural)

/-! ## Texts without repetition -/

theorem nodup_eraseDups (texts : List FieldText) : texts.eraseDups.Nodup := by
  induction hlength : texts.length using Nat.strong_induction_on generalizing texts with
  | _ length ih =>
      cases texts with
      | nil => simp
      | cons text rest =>
          rw [List.eraseDups_cons, List.nodup_cons]
          subst hlength
          constructor
          · simp
          · exact ih _ (Nat.lt_succ_of_le (List.length_filter_le _ _)) _ rfl

theorem eraseDups_of_nodup {texts : List FieldText} (hnodup : texts.Nodup) :
    texts.eraseDups = texts := by
  induction texts with
  | nil => rfl
  | cons text rest ih =>
      obtain ⟨hnew, hrest⟩ := List.nodup_cons.mp hnodup
      have hfilter : rest.filter (fun other => !other == text) = rest := by
        rw [List.filter_eq_self]
        rintro other hmem
        have hne : other ≠ text := fun heq => hnew (heq ▸ hmem)
        simpa using hne
      rw [List.eraseDups_cons, hfilter, ih hrest]

/-- `new Set(values)`. -/
def distinctTexts (texts : List FieldText) : { texts : List FieldText // texts.Nodup } :=
  ⟨texts.eraseDups, nodup_eraseDups texts⟩

/-- `values.map(requireString)`, each with its index. -/
def requireStrings (values : List Value) (field : String) : Checked (List FieldText) :=
  checkEach (fun value index => requireString value (field ++ s!"[{index}]")) 0 values

/-! ## Aliases -/

@[ext]
structure Capabilities where
  texts : List FieldText
  nonempty : texts ≠ []
  distinct : texts.Nodup
  deriving DecidableEq

def validateCapabilities (value : Option Value) (field : String) : Checked Capabilities := do
  let elements ← requireArray value field
  let texts ← requireStrings elements field
  if hempty : (distinctTexts texts).1 = [] then
    throw (complaint field " must include at least one capability.")
  else return ⟨(distinctTexts texts).1, hempty, (distinctTexts texts).2⟩

structure HostAlias where
  aliasName : FieldText
  capabilities : Capabilities
  deviceFamily : DeviceFamily
  displayName : FieldText
  iosVersion : IosVersion
  resetPolicy : ResetPolicy
  simulatorId : FieldText
  deriving DecidableEq

def validateHostAlias (rawAlias : Option Value) (index : Nat) : Checked HostAlias := do
  let hostAlias ← requireObject rawAlias s!"aliases[{index}]"
  let aliasName ← requireString (key hostAlias "alias") s!"aliases[{index}].alias"
  let capabilities ←
    validateCapabilities (key hostAlias "capabilities") s!"aliases[{index}].capabilities"
  let deviceFamily ←
    validateDeviceFamily (key hostAlias "deviceFamily") s!"aliases[{index}].deviceFamily"
  let displayName ← requireString (key hostAlias "displayName") s!"aliases[{index}].displayName"
  let iosVersion ← validateIosVersion (key hostAlias "iosVersion") s!"aliases[{index}].iosVersion"
  let resetPolicy ←
    normalizeResetPolicy (key hostAlias "resetPolicy") s!"aliases[{index}].resetPolicy"
  let simulatorId ← requireString (key hostAlias "simulatorId") s!"aliases[{index}].simulatorId"
  return { aliasName, capabilities, deviceFamily, displayName, iosVersion, resetPolicy, simulatorId }

/-- The first alias whose name or simulator an earlier one has. -/
def firstRepeated (names simulators : List FieldText) : List HostAlias → Option FieldError
  | [] => none
  | hostAlias :: rest =>
      if hostAlias.aliasName ∈ names then
        some {
          field := "host-config.aliases"
          message := stringUnits "Duplicate alias " ++ hostAlias.aliasName.units
            ++ stringUnits " in host config." }
      else if hostAlias.simulatorId ∈ simulators then
        some {
          field := "host-config.aliases"
          message := stringUnits "Duplicate simulatorId " ++ hostAlias.simulatorId.units
            ++ stringUnits " in host config." }
      else firstRepeated (hostAlias.aliasName :: names) (hostAlias.simulatorId :: simulators) rest

/-- The aliases of a host config: no name and no simulator comes twice. -/
@[ext]
structure HostAliases where
  list : List HostAlias
  names : (list.map (·.aliasName)).Nodup
  simulators : (list.map (·.simulatorId)).Nodup
  deriving DecidableEq

theorem firstRepeated_eq_none {names simulators : List FieldText} {aliases : List HostAlias} :
    firstRepeated names simulators aliases = none ↔
      ((aliases.map (·.aliasName)).Nodup ∧ ∀ name ∈ names, name ∉ aliases.map (·.aliasName)) ∧
        (aliases.map (·.simulatorId)).Nodup ∧
          ∀ simulator ∈ simulators, simulator ∉ aliases.map (·.simulatorId) := by
  induction aliases generalizing names simulators with
  | nil => simp [firstRepeated]
  | cons hostAlias rest ih =>
      unfold firstRepeated
      split
      · rename_i hname
        constructor
        · rintro ⟨⟩
        · rintro ⟨⟨-, hnew⟩, -⟩
          exact absurd List.mem_cons_self (hnew _ hname)
      · split
        · rename_i hsimulator
          constructor
          · rintro ⟨⟩
          · rintro ⟨-, -, hnew⟩
            exact absurd List.mem_cons_self (hnew _ hsimulator)
        · rename_i hname hsimulator
          rw [ih]
          simp only [List.map_cons, List.nodup_cons, List.mem_cons, forall_eq_or_imp, not_or]
          constructor
          · rintro ⟨⟨hnames, hfresh, hnew⟩, hsimulators, hfresh', hnew'⟩
            refine ⟨⟨⟨hfresh, hnames⟩, fun name hmem => ⟨?_, hnew name hmem⟩⟩,
              ⟨hfresh', hsimulators⟩, fun simulator hmem => ⟨?_, hnew' simulator hmem⟩⟩
            · rintro rfl
              exact hname hmem
            · rintro rfl
              exact hsimulator hmem
          · rintro ⟨⟨⟨hfresh, hnames⟩, hnew⟩, ⟨hfresh', hsimulators⟩, hnew'⟩
            exact ⟨⟨hnames, hfresh, fun name hmem => (hnew name hmem).2⟩, hsimulators, hfresh',
              fun simulator hmem => (hnew' simulator hmem).2⟩

def distinctAliases (aliases : List HostAlias) : Checked HostAliases :=
  match hrepeated : firstRepeated [] [] aliases with
  | some error => .error error
  | none =>
      have hdistinct := firstRepeated_eq_none.mp hrepeated
      .ok ⟨aliases, hdistinct.1.1, hdistinct.2.1⟩

/-! ## Slot reclaim -/

/-- The keys of an object that are not among the supported ones. -/
def extraFields (raw : Value) (supported : List String) : List Units :=
  match raw with
  | .object members =>
      (members.map (·.1)).filter fun name =>
        !supported.any fun field => decide (stringUnits field = name)
  | _ => []

def rejectExtraFields (raw : Value) (supported : List String) (field : String) : Checked Unit :=
  if extraFields raw supported = [] then .ok ()
  else .error {
    field
    message := stringUnits (field ++ " contains unsupported fields: ")
      ++ (stringUnits ", ").intercalate (extraFields raw supported) ++ stringUnits "." }

/-- `value === undefined ? fallback : check(value)`. -/
def unlessMissing {α : Type} (value : Option Value) (fallback : α)
    (check : Option Value → Checked α) : Checked α :=
  match value with
  | none => .ok fallback
  | some value => check (some value)

/-- `value === undefined || value === null ? fallback : check(value)`. -/
def unlessNull {α : Type} (value : Option Value) (fallback : α) (check : Value → Checked α) :
    Checked α :=
  match value with
  | none | some .null => .ok fallback
  | some raw => check raw

structure ClassPolicy where
  enabled : Bool
  maxAgeSeconds : BoundedInteger 60 31536000
  maxDiskBytes : BoundedInteger 1 maxSafeInteger
  maxLeasesSinceErase : BoundedInteger 1 10000
  deriving DecidableEq

structure SlotReclaimPolicy where
  build : ClassPolicy
  enabled : Bool
  manual : ClassPolicy
  deriving DecidableEq

/-- `DEFAULT_SLOT_RECLAIM_CLASS_POLICY`, enabled or not. -/
def defaultClassPolicy (enabled : Bool) : ClassPolicy where
  enabled := enabled
  maxAgeSeconds := ⟨86400, by decide, by decide, by decide⟩
  maxDiskBytes := ⟨8 * 1024 * 1024 * 1024, by decide, by decide, by decide⟩
  maxLeasesSinceErase := ⟨8, by decide, by decide, by decide⟩

/-- `DEFAULT_SLOT_RECLAIM_POLICY`. -/
def defaultSlotReclaimPolicy : SlotReclaimPolicy where
  build := defaultClassPolicy true
  enabled := true
  manual := defaultClassPolicy false

def classPolicyFields : List String :=
  ["enabled", "maxAgeSeconds", "maxDiskBytes", "maxLeasesSinceErase"]

def validateSlotReclaimClassPolicy (rawPolicy : Option Value) (field : String)
    (defaults : ClassPolicy) : Checked ClassPolicy :=
  unlessNull rawPolicy defaults fun rawPolicy => do
    let policy ← requireObject (some rawPolicy) field
    rejectExtraFields policy classPolicyFields field
    let enabled ← unlessMissing (key policy "enabled") defaults.enabled fun value =>
      requireBoolean value (field ++ ".enabled")
    let maxAgeSeconds ← unlessMissing (key policy "maxAgeSeconds") defaults.maxAgeSeconds
      fun value => requireConfigBoundedInteger value (field ++ ".maxAgeSeconds") 60 31536000
    let maxDiskBytes ← unlessMissing (key policy "maxDiskBytes") defaults.maxDiskBytes
      fun value => requireConfigBoundedInteger value (field ++ ".maxDiskBytes") 1 maxSafeInteger
    let maxLeasesSinceErase ← unlessMissing (key policy "maxLeasesSinceErase")
      defaults.maxLeasesSinceErase fun value =>
        requireConfigBoundedInteger value (field ++ ".maxLeasesSinceErase") 1 10000
    return { enabled, maxAgeSeconds, maxDiskBytes, maxLeasesSinceErase }

def validateSlotReclaimConfig (rawPolicy : Option Value) : Checked (Option SlotReclaimPolicy) :=
  unlessNull rawPolicy none fun rawPolicy => do
    let policy ← requireObject (some rawPolicy) "host-config.slotReclaim"
    rejectExtraFields policy ["enabled", "build", "manual"] "host-config.slotReclaim"
    let build ← validateSlotReclaimClassPolicy (key policy "build")
      "host-config.slotReclaim.build" defaultSlotReclaimPolicy.build
    let enabled ← unlessMissing (key policy "enabled") defaultSlotReclaimPolicy.enabled
      fun value => requireBoolean value "host-config.slotReclaim.enabled"
    let manual ← validateSlotReclaimClassPolicy (key policy "manual")
      "host-config.slotReclaim.manual" defaultSlotReclaimPolicy.manual
    return some { build, enabled, manual }

/-! ## The config -/

structure HostConfig where
  aliases : HostAliases
  hostId : FieldText
  pendingRetirements : { texts : List FieldText // texts.Nodup }
  slotReclaim : Option SlotReclaimPolicy
  deriving DecidableEq

/-- `HOST_CONFIG_VERSION`. -/
def hostConfigVersion : Nat := 1

def validatePendingRetirements (rawRetirements : Option Value) :
    Checked { texts : List FieldText // texts.Nodup } :=
  unlessNull rawRetirements ⟨[], List.nodup_nil⟩ fun rawRetirements => do
    let elements ← requireArray (some rawRetirements) "host-config.pendingRetirements"
    let texts ← requireStrings elements "host-config.pendingRetirements"
    return distinctTexts texts

def validateHostConfig (rawConfig : Value) : Checked HostConfig := do
  let config ← requireObject (some rawConfig) "host-config"
  validateVersion (key config "version") hostConfigVersion "host-config"
  let rawAliases ← requireArray (key config "aliases") "host-config.aliases"
  let list ← checkEach validateHostAlias 0 rawAliases
  let aliases ← distinctAliases list
  let slotReclaim ← validateSlotReclaimConfig (key config "slotReclaim")
  let hostId ← requireString (key config "hostId") "host-config.hostId"
  let pendingRetirements ← validatePendingRetirements (key config "pendingRetirements")
  return { aliases, hostId, pendingRetirements, slotReclaim }

end SimulatorBroker.Config
