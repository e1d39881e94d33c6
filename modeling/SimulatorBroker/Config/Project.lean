import SimulatorBroker.Config.HostFormat

/-!
# The project config file

`validateProjectConfig` on a parsed file: which files it accepts, what they say, and that a project
config in its normal form is read as it is.
-/

namespace SimulatorBroker.Config

open SimulatorBroker.State (DeviceFamily)
open SimulatorBroker.Text
open SimulatorBroker.Persistence (ofNatural)

/-! ## Purposes -/

/-- What a purpose asks of its simulators; asking for nothing is no requirement. -/
@[ext]
structure PurposeRequires where
  deviceFamily : Option DeviceFamily
  iosVersion : Option IosVersion
  nonempty : deviceFamily ≠ none ∨ iosVersion ≠ none
  deriving DecidableEq

/-- `Object.keys(normalized).length > 0 ? normalized : null`. -/
def PurposeRequires.of (deviceFamily : Option DeviceFamily) (iosVersion : Option IosVersion) :
    Option PurposeRequires :=
  if hnonempty : deviceFamily ≠ none ∨ iosVersion ≠ none then
    some ⟨deviceFamily, iosVersion, hnonempty⟩
  else none

def validatePurposeRequires (rawRequires : Option Value) (fieldPrefix : String) :
    Checked (Option PurposeRequires) :=
  unlessNull rawRequires none fun rawRequires => do
    let field := fieldPrefix ++ ".requires"
    let requires ← requireObject (some rawRequires) field
    rejectExtraFields requires ["deviceFamily", "iosVersion"] field
    let deviceFamily ← unlessMissing (key requires "deviceFamily") none fun value =>
      (validateDeviceFamily value (field ++ ".deviceFamily")).map some
    let iosVersion ← unlessMissing (key requires "iosVersion") none fun value =>
      (validateIosVersion value (field ++ ".iosVersion")).map some
    return PurposeRequires.of deviceFamily iosVersion

structure ProjectPurpose where
  capability : FieldText
  defaultActorType : Option FieldText
  displayName : FieldText
  id : FieldText
  requires : Option PurposeRequires
  deriving DecidableEq

def validateProjectPurpose (rawPurpose : Option Value) (fieldPrefix : String) :
    Checked ProjectPurpose := do
  let purpose ← requireObject rawPurpose fieldPrefix
  let capability ← requireString (key purpose "capability") (fieldPrefix ++ ".capability")
  let defaultActorType ←
    requireOptionalString (key purpose "defaultActorType") (fieldPrefix ++ ".defaultActorType")
  let displayName ← requireString (key purpose "displayName") (fieldPrefix ++ ".displayName")
  let id ← requireString (key purpose "id") (fieldPrefix ++ ".id")
  let requires ← validatePurposeRequires (key purpose "requires") fieldPrefix
  return { capability, defaultActorType, displayName, id, requires }

/-- The first purpose whose id an earlier one has. -/
def firstRepeatedPurpose (ids : List FieldText) : List ProjectPurpose → Option FieldError
  | [] => none
  | purpose :: rest =>
      if purpose.id ∈ ids then
        some {
          field := "project-config.purposes"
          message := stringUnits "Duplicate purpose " ++ purpose.id.units
            ++ stringUnits " in project config." }
      else firstRepeatedPurpose (purpose.id :: ids) rest

theorem firstRepeatedPurpose_eq_none {ids : List FieldText} {purposes : List ProjectPurpose} :
    firstRepeatedPurpose ids purposes = none ↔
      (purposes.map (·.id)).Nodup ∧ ∀ id ∈ ids, id ∉ purposes.map (·.id) := by
  induction purposes generalizing ids with
  | nil => simp [firstRepeatedPurpose]
  | cons purpose rest ih =>
      unfold firstRepeatedPurpose
      split
      · rename_i hid
        constructor
        · rintro ⟨⟩
        · rintro ⟨-, hnew⟩
          exact absurd List.mem_cons_self (hnew _ hid)
      · rename_i hid
        rw [ih]
        simp only [List.map_cons, List.nodup_cons, List.mem_cons, forall_eq_or_imp, not_or]
        constructor
        · rintro ⟨hids, hfresh, hnew⟩
          refine ⟨⟨hfresh, hids⟩, fun other hmem => ⟨?_, hnew other hmem⟩⟩
          rintro rfl
          exact hid hmem
        · rintro ⟨⟨hfresh, hids⟩, hnew⟩
          exact ⟨hids, hfresh, fun other hmem => (hnew other hmem).2⟩

/-- The purposes of a project: no id comes twice. -/
@[ext]
structure ProjectPurposes where
  list : List ProjectPurpose
  ids : (list.map (·.id)).Nodup
  deriving DecidableEq

def distinctPurposes (purposes : List ProjectPurpose) : Checked ProjectPurposes :=
  match hrepeated : firstRepeatedPurpose [] purposes with
  | some error => .error error
  | none => .ok ⟨purposes, (firstRepeatedPurpose_eq_none.mp hrepeated).1⟩

/-! ## The config -/

structure ProjectConfig where
  projectId : FieldText
  projectName : FieldText
  purposes : ProjectPurposes
  deriving DecidableEq

/-- `PROJECT_CONFIG_VERSION`. -/
def projectConfigVersion : Nat := 1

def validateProjectConfig (rawConfig : Value) : Checked ProjectConfig := do
  let config ← requireObject (some rawConfig) "project-config"
  validateVersion (key config "version") projectConfigVersion "project-config"
  let rawPurposes ← requireArray (key config "purposes") "project-config.purposes"
  let list ← checkEach (fun purpose index =>
    validateProjectPurpose purpose s!"project-config.purposes[{index}]") 0 rawPurposes
  let purposes ← distinctPurposes list
  let projectId ← requireString (key config "projectId") "project-config.projectId"
  let projectName ← requireString (key config "projectName") "project-config.projectName"
  return { projectId, projectName, purposes }

/-! ## What a file says -/

/-- The members of a requirement that is given. -/
structure ReadsRequires (raw : Value) (requires : Option PurposeRequires) : Prop where
  isObject : Value.isObject raw = true
  supported : extraFields raw ["deviceFamily", "iosVersion"] = []
  deviceFamily : ReadsOr (fun value family => ∃ found, family = some found ∧
    ReadsAmong allowedDeviceFamilies value found) (key raw "deviceFamily") none
      (requires.bind (·.deviceFamily))
  iosVersion : ReadsOr (fun value version => ∃ found, version = some found ∧
    ReadsVersion value found) (key raw "iosVersion") none (requires.bind (·.iosVersion))

structure ReadsPurpose (value : Option Value) (purpose : ProjectPurpose) : Prop where
  isObject : ∃ raw, value = some raw ∧ Value.isObject raw = true
  capability : ReadsText (value.bind (key · "capability")) purpose.capability
  defaultActorType : ReadsOptionalText (value.bind (key · "defaultActorType"))
    purpose.defaultActorType
  displayName : ReadsText (value.bind (key · "displayName")) purpose.displayName
  id : ReadsText (value.bind (key · "id")) purpose.id
  requires : ReadsUnlessNull ReadsRequires (value.bind (key · "requires")) none purpose.requires

/-- What a project config file says. -/
structure ReadsProjectConfig (raw : Value) (config : ProjectConfig) : Prop where
  isObject : Value.isObject raw = true
  version : ReadsNumber (key raw "version") projectConfigVersion
  purposes : ∃ elements, key raw "purposes" = some (.array elements) ∧
    List.Forall₂ (fun element purpose => ReadsPurpose (some element) purpose) elements
      config.purposes.list
  projectId : ReadsText (key raw "projectId") config.projectId
  projectName : ReadsText (key raw "projectName") config.projectName

/-! ## The validator reads what the file says -/

theorem map_some_eq_ok {α : Type} {check : Checked α} {result : Option α} :
    check.map some = .ok result ↔ ∃ found, result = some found ∧ check = .ok found := by
  cases check with
  | ok value => simp [Except.map, eq_comm]
  | error error => simp [Except.map]

theorem PurposeRequires.of_eq (requires : Option PurposeRequires) :
    PurposeRequires.of (requires.bind (·.deviceFamily)) (requires.bind (·.iosVersion)) =
      requires := by
  unfold PurposeRequires.of
  cases requires with
  | none => simp
  | some requires => simp [requires.nonempty]

theorem PurposeRequires.of_parts {deviceFamily : Option DeviceFamily}
    {iosVersion : Option IosVersion} :
    (PurposeRequires.of deviceFamily iosVersion).bind (·.deviceFamily) = deviceFamily ∧
      (PurposeRequires.of deviceFamily iosVersion).bind (·.iosVersion) = iosVersion := by
  unfold PurposeRequires.of
  split
  · exact ⟨rfl, rfl⟩
  · rename_i hnone
    simp only [ne_eq, not_or, not_not] at hnone
    simp [hnone.1, hnone.2]

theorem validatePurposeRequires_eq_ok {value : Option Value} {fieldPrefix : String}
    {requires : Option PurposeRequires} :
    validatePurposeRequires value fieldPrefix = .ok requires ↔
      ReadsUnlessNull ReadsRequires value none requires := by
  apply unlessNull_eq_ok
  intro raw requires
  have hfamily : ∀ (value : Option Value) field family,
      (validateDeviceFamily value field).map some = .ok family ↔
        ∃ found, family = some found ∧ ReadsAmong allowedDeviceFamilies value found := by
    intro value field family
    simp only [map_some_eq_ok, validateDeviceFamily_eq_ok]
  have hversion : ∀ (value : Option Value) field version,
      (validateIosVersion value field).map some = .ok version ↔
        ∃ found, version = some found ∧ ReadsVersion value found := by
    intro value field version
    simp only [map_some_eq_ok, validateIosVersion_eq_ok]
  simp only [bind_eq_ok, requireObject_eq_ok, rejectExtraFields_eq_ok,
    unlessMissing_eq_ok fun value => hfamily value _, unlessMissing_eq_ok fun value =>
      hversion value _]
  constructor
  · rintro ⟨raw, ⟨⟨⟩, hobject⟩, _, hsupported, family, hreadsFamily, version, hreadsVersion, hrest⟩
    cases hrest
    obtain ⟨hsame, hsame'⟩ := @PurposeRequires.of_parts family version
    exact ⟨hobject, hsupported, by rwa [hsame], by rwa [hsame']⟩
  · rintro ⟨hobject, hsupported, hreadsFamily, hreadsVersion⟩
    exact ⟨raw, ⟨rfl, hobject⟩, (), hsupported, _, hreadsFamily, _, hreadsVersion,
      congrArg Except.ok (PurposeRequires.of_eq requires)⟩

theorem validateProjectPurpose_eq_ok {value : Option Value} {fieldPrefix : String}
    {purpose : ProjectPurpose} :
    validateProjectPurpose value fieldPrefix = .ok purpose ↔ ReadsPurpose value purpose := by
  unfold validateProjectPurpose
  simp only [bind_eq_ok, requireObject_eq_ok, requireString_eq_ok, requireOptionalString_eq_ok,
    validatePurposeRequires_eq_ok]
  constructor
  · rintro ⟨raw, ⟨rfl, hobject⟩, capability, hcapability, actorType, hactorType, displayName,
      hdisplay, id, hid, requires, hrequires, hrest⟩
    cases hrest
    exact ⟨⟨raw, rfl, hobject⟩, hcapability, hactorType, hdisplay, hid, hrequires⟩
  · rintro ⟨⟨raw, rfl, hobject⟩, hcapability, hactorType, hdisplay, hid, hrequires⟩
    exact ⟨raw, ⟨rfl, hobject⟩, _, hcapability, _, hactorType, _, hdisplay, _, hid, _, hrequires,
      rfl⟩

theorem distinctPurposes_eq_ok {list : List ProjectPurpose} {purposes : ProjectPurposes} :
    distinctPurposes list = .ok purposes ↔ purposes.list = list := by
  unfold distinctPurposes
  split
  · rename_i error hrepeated
    constructor
    · rintro ⟨⟩
    · rintro rfl
      have hnone : firstRepeatedPurpose [] purposes.list = none :=
        firstRepeatedPurpose_eq_none.mpr ⟨purposes.ids, nofun⟩
      rw [hnone] at hrepeated
      cases hrepeated
  · constructor
    · rintro ⟨⟩
      rfl
    · intro hlist
      exact congrArg Except.ok (ProjectPurposes.ext hlist.symm)

/-- A project config file is accepted exactly if it says so, and it says one config. -/
theorem validateProjectConfig_eq_ok {raw : Value} {config : ProjectConfig} :
    validateProjectConfig raw = .ok config ↔ ReadsProjectConfig raw config := by
  have helements : ∀ value (index : Nat) purpose,
      validateProjectPurpose value s!"project-config.purposes[{index}]" = .ok purpose ↔
        ReadsPurpose value purpose :=
    fun _ _ _ => validateProjectPurpose_eq_ok
  unfold validateProjectConfig
  simp only [bind_eq_ok, requireObject_eq_ok, validateVersion_eq_ok, requireArray_eq_ok,
    checkEach_eq_ok helements, distinctPurposes_eq_ok, requireString_eq_ok]
  constructor
  · rintro ⟨raw, ⟨⟨⟩, hobject⟩, _, hversion, elements, harray, list, hlist, purposes, rfl, projectId,
      hprojectId, projectName, hprojectName, hrest⟩
    cases hrest
    exact ⟨hobject, hversion, ⟨elements, harray, hlist⟩, hprojectId, hprojectName⟩
  · rintro ⟨hobject, hversion, ⟨elements, harray, hlist⟩, hprojectId, hprojectName⟩
    exact ⟨raw, ⟨rfl, hobject⟩, (), hversion, elements, harray, _, hlist, _, rfl, _, hprojectId, _,
      hprojectName, rfl⟩

end SimulatorBroker.Config
