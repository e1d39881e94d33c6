import SimulatorBroker.Config.Host

/-!
# The format of host config files

Which files `validateHostConfig` accepts, and what it makes of them, said without its order of
checks.  A config that is written is read back as it was.
-/

namespace SimulatorBroker.Config

open SimulatorBroker.State (DeviceFamily ResetPolicy)
open SimulatorBroker.Text
open SimulatorBroker.Persistence (natural? ofNatural natural?_ofNatural)

/-! ## What a file says -/

/-- A missing value stands for the fallback. -/
def ReadsOr {α : Type} (Reads : Option Value → α → Prop) (value : Option Value) (fallback result : α) :
    Prop :=
  match value with
  | none => result = fallback
  | some value => Reads (some value) result

/-- A missing or null value stands for the fallback. -/
def ReadsUnlessNull {α : Type} (Reads : Value → α → Prop) (value : Option Value)
    (fallback result : α) : Prop :=
  match value with
  | none | some .null => result = fallback
  | some value => Reads value result

/-- An array of non-blank strings, each taken at its first occurrence. -/
def ReadsDistinct (value : Option Value) (texts : List FieldText) : Prop :=
  ∃ elements all, value = some (.array elements) ∧
    List.Forall₂ (fun element text => ReadsText (some element) text) elements all ∧
      texts = all.eraseDups

/-- The members of a class policy. -/
structure ReadsClassPolicy (defaults : ClassPolicy) (raw : Value) (policy : ClassPolicy) : Prop where
  isObject : Value.isObject raw = true
  supported : extraFields raw classPolicyFields = []
  enabled : ReadsOr (fun value enabled => value = some (.bool enabled)) (key raw "enabled")
    defaults.enabled policy.enabled
  maxAgeSeconds : ReadsOr (fun value (bounded : BoundedInteger 60 31536000) =>
    ReadsNumber value bounded.value) (key raw "maxAgeSeconds") defaults.maxAgeSeconds
      policy.maxAgeSeconds
  maxDiskBytes : ReadsOr (fun value (bounded : BoundedInteger 1 maxSafeInteger) =>
    ReadsNumber value bounded.value) (key raw "maxDiskBytes") defaults.maxDiskBytes
      policy.maxDiskBytes
  maxLeasesSinceErase : ReadsOr (fun value (bounded : BoundedInteger 1 10000) =>
    ReadsNumber value bounded.value) (key raw "maxLeasesSinceErase") defaults.maxLeasesSinceErase
      policy.maxLeasesSinceErase

structure ReadsSlotReclaim (raw : Value) (policy : SlotReclaimPolicy) : Prop where
  isObject : Value.isObject raw = true
  supported : extraFields raw ["enabled", "build", "manual"] = []
  build : ReadsUnlessNull (ReadsClassPolicy defaultSlotReclaimPolicy.build) (key raw "build")
    defaultSlotReclaimPolicy.build policy.build
  enabled : ReadsOr (fun value enabled => value = some (.bool enabled)) (key raw "enabled")
    defaultSlotReclaimPolicy.enabled policy.enabled
  manual : ReadsUnlessNull (ReadsClassPolicy defaultSlotReclaimPolicy.manual) (key raw "manual")
    defaultSlotReclaimPolicy.manual policy.manual

structure ReadsHostAlias (value : Option Value) (hostAlias : HostAlias) : Prop where
  isObject : ∃ raw, value = some raw ∧ Value.isObject raw = true
  aliasName : ReadsText (value.bind (key · "alias")) hostAlias.aliasName
  capabilities : ReadsDistinct (value.bind (key · "capabilities")) hostAlias.capabilities.texts
  deviceFamily : ReadsAmong allowedDeviceFamilies (value.bind (key · "deviceFamily"))
    hostAlias.deviceFamily
  displayName : ReadsText (value.bind (key · "displayName")) hostAlias.displayName
  iosVersion : ReadsVersion (value.bind (key · "iosVersion")) hostAlias.iosVersion
  resetPolicy : ReadsOr (ReadsAmong allowedResetPolicies) (value.bind (key · "resetPolicy")) .none
    hostAlias.resetPolicy
  simulatorId : ReadsText (value.bind (key · "simulatorId")) hostAlias.simulatorId

/-- What a host config file says. -/
structure ReadsHostConfig (raw : Value) (config : HostConfig) : Prop where
  isObject : Value.isObject raw = true
  version : ReadsNumber (key raw "version") hostConfigVersion
  aliases : ∃ elements, key raw "aliases" = some (.array elements) ∧
    List.Forall₂ (fun element hostAlias => ReadsHostAlias (some element) hostAlias) elements
      config.aliases.list
  slotReclaim : ReadsUnlessNull (fun value policy => ∃ found, policy = some found ∧
    ReadsSlotReclaim value found) (key raw "slotReclaim") none config.slotReclaim
  hostId : ReadsText (key raw "hostId") config.hostId
  pendingRetirements : ReadsUnlessNull (fun value texts => ReadsDistinct (some value) texts.1)
    (key raw "pendingRetirements") ⟨[], List.nodup_nil⟩ config.pendingRetirements

/-! ## The validators read what the file says -/

theorem unlessMissing_eq_ok {α : Type} {value : Option Value} {fallback result : α}
    {check : Option Value → Checked α} {Reads : Option Value → α → Prop}
    (hcheck : ∀ value result, check value = .ok result ↔ Reads value result) :
    unlessMissing value fallback check = .ok result ↔ ReadsOr Reads value fallback result := by
  cases value with
  | none => simp [unlessMissing, ReadsOr, eq_comm]
  | some value => exact hcheck (some value) result

theorem unlessMissing_boolean {value : Option Value} {fallback result : Bool} {field : String} :
    unlessMissing value fallback (fun value => requireBoolean value field) = .ok result ↔
      ReadsOr (fun value enabled => value = some (.bool enabled)) value fallback result :=
  unlessMissing_eq_ok fun _ _ => requireBoolean_eq_ok

theorem unlessMissing_integer {value : Option Value} {minimum maximum : Nat}
    {fallback result : BoundedInteger minimum maximum} {field : String} :
    unlessMissing value fallback
        (fun value => requireConfigBoundedInteger value field minimum maximum) = .ok result ↔
      ReadsOr (fun value (bounded : BoundedInteger minimum maximum) =>
        ReadsNumber value bounded.value) value fallback result :=
  unlessMissing_eq_ok fun _ _ => requireConfigBoundedInteger_eq_ok

theorem rejectExtraFields_eq_ok {raw : Value} {supported : List String} {field : String}
    {result : Unit} :
    rejectExtraFields raw supported field = .ok result ↔ extraFields raw supported = [] := by
  unfold rejectExtraFields
  split <;> simp_all

theorem requireStrings_eq_ok {values : List Value} {field : String} {texts : List FieldText} :
    requireStrings values field = .ok texts ↔
      List.Forall₂ (fun value text => ReadsText (some value) text) values texts := by
  have hcheck : ∀ value (index : Nat) text,
      requireString value (field ++ s!"[{index}]") = .ok text ↔ ReadsText value text :=
    fun _ _ _ => requireString_eq_ok
  exact checkEach_eq_ok hcheck

theorem validateDeviceFamily_eq_ok {value : Option Value} {field : String}
    {deviceFamily : DeviceFamily} :
    validateDeviceFamily value field = .ok deviceFamily ↔
      ReadsAmong allowedDeviceFamilies value deviceFamily :=
  requireAmong_eq_ok (by decide) (by decide)

theorem normalizeResetPolicy_eq_ok {value : Option Value} {field : String}
    {resetPolicy : ResetPolicy} :
    normalizeResetPolicy value field = .ok resetPolicy ↔
      ReadsOr (ReadsAmong allowedResetPolicies) value .none resetPolicy := by
  cases value with
  | none => simp [normalizeResetPolicy, ReadsOr, eq_comm]
  | some value =>
      show requireAmong allowedResetPolicies (some value) field = .ok resetPolicy ↔ _
      exact requireAmong_eq_ok (by decide) (by decide)

theorem validateCapabilities_eq_ok {value : Option Value} {field : String}
    {capabilities : Capabilities} :
    validateCapabilities value field = .ok capabilities ↔
      ReadsDistinct value capabilities.texts := by
  unfold validateCapabilities ReadsDistinct
  simp only [bind_eq_ok, requireArray_eq_ok, requireStrings_eq_ok]
  constructor
  · rintro ⟨elements, rfl, texts, htexts, hrest⟩
    split at hrest
    · cases hrest
    · cases hrest
      exact ⟨elements, texts, rfl, htexts, rfl⟩
  · rintro ⟨elements, texts, rfl, htexts, hdistinct⟩
    refine ⟨elements, rfl, texts, htexts, ?_⟩
    have hsame : (distinctTexts texts).1 = capabilities.texts := hdistinct.symm
    rw [dif_neg (by rw [hsame]; exact capabilities.nonempty)]
    exact congrArg Except.ok (Capabilities.ext hsame)

theorem distinctAliases_eq_ok {list : List HostAlias} {aliases : HostAliases} :
    distinctAliases list = .ok aliases ↔ aliases.list = list := by
  unfold distinctAliases
  split
  · rename_i error hrepeated
    constructor
    · rintro ⟨⟩
    · rintro rfl
      have hnone : firstRepeated [] [] aliases.list = none :=
        firstRepeated_eq_none.mpr ⟨⟨aliases.names, nofun⟩, aliases.simulators, nofun⟩
      rw [hnone] at hrepeated
      cases hrepeated
  · constructor
    · rintro ⟨⟩
      rfl
    · intro hlist
      exact congrArg Except.ok (HostAliases.ext hlist.symm)

theorem validateHostAlias_eq_ok {value : Option Value} {index : Nat} {hostAlias : HostAlias} :
    validateHostAlias value index = .ok hostAlias ↔ ReadsHostAlias value hostAlias := by
  unfold validateHostAlias
  simp only [bind_eq_ok, requireObject_eq_ok, requireString_eq_ok, validateCapabilities_eq_ok,
    validateDeviceFamily_eq_ok, validateIosVersion_eq_ok, normalizeResetPolicy_eq_ok]
  constructor
  · rintro ⟨raw, ⟨rfl, hobject⟩, aliasName, hname, capabilities, hcapabilities, deviceFamily, hfamily,
      displayName, hdisplay, iosVersion, hversion, resetPolicy, hpolicy, simulatorId, hsimulator,
      hrest⟩
    cases hrest
    exact ⟨⟨raw, rfl, hobject⟩, hname, hcapabilities, hfamily, hdisplay, hversion, hpolicy,
      hsimulator⟩
  · rintro ⟨⟨raw, rfl, hobject⟩, hname, hcapabilities, hfamily, hdisplay, hversion, hpolicy,
      hsimulator⟩
    exact ⟨raw, ⟨rfl, hobject⟩, _, hname, _, hcapabilities, _, hfamily, _, hdisplay, _, hversion, _,
      hpolicy, _, hsimulator, rfl⟩

theorem unlessNull_eq_ok {α : Type} {value : Option Value} {fallback result : α}
    {check : Value → Checked α} {Reads : Value → α → Prop}
    (hcheck : ∀ raw result, check raw = .ok result ↔ Reads raw result) :
    unlessNull value fallback check = .ok result ↔ ReadsUnlessNull Reads value fallback result := by
  cases value with
  | none => simp [unlessNull, ReadsUnlessNull, eq_comm]
  | some raw =>
      cases raw with
      | null => simp [unlessNull, ReadsUnlessNull, eq_comm]
      | _ => exact hcheck _ _

theorem validateSlotReclaimClassPolicy_eq_ok {value : Option Value} {field : String}
    {defaults policy : ClassPolicy} :
    validateSlotReclaimClassPolicy value field defaults = .ok policy ↔
      ReadsUnlessNull (ReadsClassPolicy defaults) value defaults policy := by
  apply unlessNull_eq_ok
  intro raw policy
  simp only [bind_eq_ok, requireObject_eq_ok, rejectExtraFields_eq_ok, unlessMissing_boolean,
    unlessMissing_integer]
  constructor
  · rintro ⟨raw, ⟨⟨⟩, hobject⟩, _, hsupported, enabled, henabled, maxAge, hmaxAge, maxDisk,
      hmaxDisk, maxLeases, hmaxLeases, hrest⟩
    cases hrest
    exact ⟨hobject, hsupported, henabled, hmaxAge, hmaxDisk, hmaxLeases⟩
  · rintro ⟨hobject, hsupported, henabled, hmaxAge, hmaxDisk, hmaxLeases⟩
    exact ⟨raw, ⟨rfl, hobject⟩, (), hsupported, _, henabled, _, hmaxAge, _, hmaxDisk, _,
      hmaxLeases, rfl⟩

theorem validateSlotReclaimConfig_eq_ok {value : Option Value}
    {policy : Option SlotReclaimPolicy} :
    validateSlotReclaimConfig value = .ok policy ↔
      ReadsUnlessNull (fun raw policy => ∃ found, policy = some found ∧ ReadsSlotReclaim raw found)
        value none policy := by
  apply unlessNull_eq_ok
  intro raw policy
  simp only [bind_eq_ok, requireObject_eq_ok, rejectExtraFields_eq_ok, unlessMissing_boolean,
    validateSlotReclaimClassPolicy_eq_ok]
  constructor
  · rintro ⟨raw, ⟨⟨⟩, hobject⟩, _, hsupported, build, hbuild, enabled, henabled, manual, hmanual,
      hrest⟩
    cases hrest
    exact ⟨_, rfl, hobject, hsupported, hbuild, henabled, hmanual⟩
  · rintro ⟨found, rfl, hobject, hsupported, hbuild, henabled, hmanual⟩
    exact ⟨raw, ⟨rfl, hobject⟩, (), hsupported, _, hbuild, _, henabled, _, hmanual, rfl⟩

theorem validatePendingRetirements_eq_ok {value : Option Value}
    {retirements : { texts : List FieldText // texts.Nodup }} :
    validatePendingRetirements value = .ok retirements ↔
      ReadsUnlessNull (fun value texts => ReadsDistinct (some value) texts.1) value
        ⟨[], List.nodup_nil⟩ retirements := by
  apply unlessNull_eq_ok
  intro raw retirements
  simp only [bind_eq_ok, requireArray_eq_ok, requireStrings_eq_ok]
  constructor
  · rintro ⟨elements, ⟨⟩, texts, htexts, hrest⟩
    cases hrest
    exact ⟨elements, texts, rfl, htexts, rfl⟩
  · rintro ⟨elements, texts, ⟨⟩, htexts, hdistinct⟩
    exact ⟨elements, rfl, texts, htexts, congrArg Except.ok (Subtype.ext hdistinct.symm)⟩

theorem checkEach_validateHostAlias {index : Nat} {elements : List Value} {list : List HostAlias} :
    checkEach validateHostAlias index elements = .ok list ↔
      List.Forall₂ (fun element hostAlias => ReadsHostAlias (some element) hostAlias) elements
        list := by
  have helements : ∀ value index hostAlias,
      validateHostAlias value index = .ok hostAlias ↔ ReadsHostAlias value hostAlias :=
    fun _ _ _ => validateHostAlias_eq_ok
  exact checkEach_eq_ok helements

theorem validateHostConfig_of_reads {raw : Value} {config : HostConfig}
    (hreads : ReadsHostConfig raw config) : validateHostConfig raw = .ok config := by
  obtain ⟨hobject, hversion, ⟨elements, harray, hlist⟩, hslotReclaim, hhostId, hretirements⟩ :=
    hreads
  have hcurrent : validateVersion (key raw "version") hostConfigVersion "host-config" = .ok () :=
    validateVersion_eq_ok.mpr hversion
  unfold validateHostConfig
  rw [bind_ok (requireObject_eq_ok.mpr ⟨rfl, hobject⟩), bind_ok hcurrent,
    bind_ok (requireArray_eq_ok.mpr harray), bind_ok (checkEach_validateHostAlias.mpr hlist),
    bind_ok (distinctAliases_eq_ok.mpr rfl),
    bind_ok (validateSlotReclaimConfig_eq_ok.mpr hslotReclaim),
    bind_ok (requireString_eq_ok.mpr hhostId),
    bind_ok (validatePendingRetirements_eq_ok.mpr hretirements)]
  rfl

/-- A host config file is accepted exactly if it says so, and it says one config. -/
theorem validateHostConfig_eq_ok {raw : Value} {config : HostConfig} :
    validateHostConfig raw = .ok config ↔ ReadsHostConfig raw config := by
  refine ⟨fun hvalid => ?_, validateHostConfig_of_reads⟩
  unfold validateHostConfig at hvalid
  simp only [bind_eq_ok, requireObject_eq_ok, validateVersion_eq_ok, requireArray_eq_ok,
    checkEach_validateHostAlias, distinctAliases_eq_ok, validateSlotReclaimConfig_eq_ok,
    requireString_eq_ok, validatePendingRetirements_eq_ok] at hvalid
  obtain ⟨raw, ⟨⟨⟩, hobject⟩, _, hversion, elements, harray, list, hlist, aliases, rfl, slotReclaim,
    hslotReclaim, hostId, hhostId, retirements, hretirements, hrest⟩ := hvalid
  cases hrest
  exact ⟨hobject, hversion, ⟨elements, harray, hlist⟩, hslotReclaim, hhostId, hretirements⟩

/-! ## Writing -/

def FieldText.value (text : FieldText) : Value :=
  .string text.units

def DeviceFamily.value (deviceFamily : DeviceFamily) : Value :=
  .string (stringUnits (match deviceFamily with
    | .iPhone => "iPhone"
    | .iPad => "iPad"))

def ResetPolicy.value (resetPolicy : ResetPolicy) : Value :=
  .string (stringUnits (match resetPolicy with
    | .none => "none"
    | .eraseOnAcquire => "erase-on-acquire"))

def HostAlias.fields (hostAlias : HostAlias) : List (String × Value) :=
  [("alias", hostAlias.aliasName.value),
    ("capabilities", .array (hostAlias.capabilities.texts.map FieldText.value)),
    ("deviceFamily", DeviceFamily.value hostAlias.deviceFamily),
    ("displayName", hostAlias.displayName.value),
    ("iosVersion", hostAlias.iosVersion.value),
    ("resetPolicy", ResetPolicy.value hostAlias.resetPolicy),
    ("simulatorId", hostAlias.simulatorId.value)]

def HostAlias.value (hostAlias : HostAlias) : Value :=
  objectOf hostAlias.fields

def BoundedInteger.number {minimum maximum : Nat} (bounded : BoundedInteger minimum maximum) :
    Value :=
  .number (ofNatural bounded.value)

def ClassPolicy.fields (policy : ClassPolicy) : List (String × Value) :=
  [("enabled", .bool policy.enabled),
    ("maxAgeSeconds", policy.maxAgeSeconds.number),
    ("maxDiskBytes", policy.maxDiskBytes.number),
    ("maxLeasesSinceErase", policy.maxLeasesSinceErase.number)]

def ClassPolicy.value (policy : ClassPolicy) : Value :=
  objectOf policy.fields

def SlotReclaimPolicy.fields (policy : SlotReclaimPolicy) : List (String × Value) :=
  [("build", policy.build.value),
    ("enabled", .bool policy.enabled),
    ("manual", policy.manual.value)]

def SlotReclaimPolicy.value (policy : SlotReclaimPolicy) : Value :=
  objectOf policy.fields

/-- The retirements as they are written; some writers leave out an empty list. -/
def retirementFields (leaveOutEmpty : Bool) (retirements : List FieldText) : List (String × Value) :=
  if leaveOutEmpty = true ∧ retirements = [] then []
  else [("pendingRetirements", .array (retirements.map FieldText.value))]

def slotReclaimFields (slotReclaim : Option SlotReclaimPolicy) : List (String × Value) :=
  match slotReclaim with
  | none => []
  | some policy => [("slotReclaim", policy.value)]

def HostConfig.fields (leaveOutEmpty : Bool) (config : HostConfig) : List (String × Value) :=
  [("aliases", .array (config.aliases.list.map HostAlias.value)), ("hostId", config.hostId.value),
    ("version", .number (ofNatural hostConfigVersion))]
    ++ retirementFields leaveOutEmpty config.pendingRetirements.1
    ++ slotReclaimFields config.slotReclaim

/-- The host config as it is written. -/
def HostConfig.value (leaveOutEmpty : Bool) (config : HostConfig) : Value :=
  objectOf (config.fields leaveOutEmpty)

/-! ## Reading back -/

theorem readsText_value {text : FieldText} : ReadsText (some (reparse text.value)) text :=
  ⟨text.units, by simp [FieldText.value, reparse], text.trimmed⟩

theorem readsNumber_ofNatural {count : Nat} :
    ReadsNumber (some (reparse (.number (ofNatural count)))) count :=
  ⟨ofNatural count, by simp [reparse, ofNatural], natural?_ofNatural count⟩

theorem readsNumber_number {minimum maximum : Nat} (bounded : BoundedInteger minimum maximum) :
    ReadsNumber (some (reparse bounded.number)) bounded.value :=
  readsNumber_ofNatural

theorem reparseElements_map {α : Type} (values : List α) (value : α → Value) :
    reparseElements (values.map value) = values.map fun element => reparse (value element) := by
  induction values with
  | nil => rfl
  | cons first rest ih => rw [List.map_cons, reparseElements, ih, List.map_cons]

theorem reparse_array {α : Type} (values : List α) (value : α → Value) :
    reparse (.array (values.map value)) = .array (values.map fun element => reparse (value element)) := by
  rw [reparse, reparseElements_map]

theorem forall₂_map_left {α β : Type} {Reads : β → α → Prop} {value : α → β} (values : List α)
    (hreads : ∀ element ∈ values, Reads (value element) element) :
    List.Forall₂ Reads (values.map value) values := by
  induction values with
  | nil => exact .nil
  | cons first rest ih =>
      exact .cons (hreads first List.mem_cons_self)
        (ih fun element hmem => hreads element (List.mem_cons_of_mem _ hmem))

theorem readsDistinct_value {texts : List FieldText} (hnodup : texts.Nodup) :
    ReadsDistinct (some (reparse (.array (texts.map FieldText.value)))) texts := by
  refine ⟨texts.map fun text => reparse text.value, texts, ?_, ?_, ?_⟩
  · rw [reparse_array]
  · exact forall₂_map_left texts fun _ _ => readsText_value
  · exact (eraseDups_of_nodup hnodup).symm

theorem isObject_objectOf (fields : List (String × Value)) :
    Value.isObject (reparse (objectOf fields)) = true := by
  simp [objectOf, reparse, Value.isObject]

/-- What a key of a written object says. -/
theorem key_objectOf {fields : List (String × Value)} (hnodup : (fields.map (·.1)).Nodup)
    (name : String) : key (reparse (objectOf fields)) name = (fields.lookup name).map reparse :=
  property_reparse_objectOf hnodup name

theorem extraFields_objectOf {fields : List (String × Value)} {supported : List String}
    (hsupported : ∀ field ∈ fields, field.1 ∈ supported) :
    extraFields (reparse (objectOf fields)) supported = [] := by
  unfold objectOf
  simp only [reparse, extraFields, List.filter_eq_nil_iff]
  rintro name hname
  obtain ⟨member, hmember, rfl⟩ := List.mem_map.mp hname
  have hwritten := (ownKeyOrder_perm _).mem_iff.mp hmember
  rw [reparseMembers_eq, List.map_map] at hwritten
  obtain ⟨field, hfield, rfl⟩ := List.mem_map.mp hwritten
  simpa using ⟨field.1, hsupported field hfield, rfl⟩

theorem readsAmong_value {α : Type} {allowed : List (String × α)} {name : String} {choice : α}
    (hmem : (name, choice) ∈ allowed) (htrimmed : trimUnits (stringUnits name) = stringUnits name) :
    ReadsAmong allowed (some (reparse (.string (stringUnits name)))) choice :=
  ⟨name, hmem, stringUnits name, by simp [reparse], htrimmed⟩

theorem readsDeviceFamily_value (deviceFamily : DeviceFamily) :
    ReadsAmong allowedDeviceFamilies (some (reparse (DeviceFamily.value deviceFamily)))
      deviceFamily := by
  cases deviceFamily with
  | iPhone => exact readsAmong_value (by decide) (by decide)
  | iPad => exact readsAmong_value (by decide) (by decide)

theorem readsResetPolicy_value (resetPolicy : ResetPolicy) :
    ReadsAmong allowedResetPolicies (some (reparse (ResetPolicy.value resetPolicy)))
      resetPolicy := by
  cases resetPolicy with
  | none => exact readsAmong_value (by decide) (by decide)
  | eraseOnAcquire => exact readsAmong_value (by decide) (by decide)

theorem readsUnlessNull_object {α : Type} {Reads : Value → α → Prop}
    {fields : List (String × Value)} {fallback result : α}
    (hreads : Reads (reparse (objectOf fields)) result) :
    ReadsUnlessNull Reads (some (reparse (objectOf fields))) fallback result := by
  simpa only [objectOf, reparse, ReadsUnlessNull] using hreads

theorem readsClassPolicy_value (defaults policy : ClassPolicy) :
    ReadsClassPolicy defaults (reparse policy.value) policy := by
  have hkey : ∀ name, key (reparse policy.value) name = (policy.fields.lookup name).map reparse :=
    key_objectOf (by simp [ClassPolicy.fields])
  constructor
  · exact isObject_objectOf _
  · exact extraFields_objectOf (by simp [ClassPolicy.fields, classPolicyFields])
  · rw [hkey]
    simp [ClassPolicy.fields, ReadsOr, reparse]
  · rw [hkey]
    simpa [ClassPolicy.fields, List.lookup_cons, ReadsOr] using readsNumber_number _
  · rw [hkey]
    simpa [ClassPolicy.fields, List.lookup_cons, ReadsOr] using readsNumber_number _
  · rw [hkey]
    simpa [ClassPolicy.fields, List.lookup_cons, ReadsOr] using readsNumber_number _

theorem readsSlotReclaim_value (policy : SlotReclaimPolicy) :
    ReadsSlotReclaim (reparse policy.value) policy := by
  have hkey : ∀ name, key (reparse policy.value) name = (policy.fields.lookup name).map reparse :=
    key_objectOf (by simp [SlotReclaimPolicy.fields])
  constructor
  · exact isObject_objectOf _
  · exact extraFields_objectOf (by simp [SlotReclaimPolicy.fields])
  · rw [hkey]
    apply readsUnlessNull_object
    exact readsClassPolicy_value _ policy.build
  · rw [hkey]
    simp [SlotReclaimPolicy.fields, List.lookup_cons, ReadsOr, reparse]
  · rw [hkey]
    apply readsUnlessNull_object
    exact readsClassPolicy_value _ policy.manual

theorem readsHostAlias_value (hostAlias : HostAlias) :
    ReadsHostAlias (some (reparse hostAlias.value)) hostAlias := by
  have hkey : ∀ name, (some (reparse hostAlias.value)).bind (key · name) =
      (hostAlias.fields.lookup name).map reparse :=
    key_objectOf (by simp [HostAlias.fields])
  constructor
  · exact ⟨_, rfl, isObject_objectOf _⟩
  · rw [hkey]
    simpa [HostAlias.fields, List.lookup_cons] using readsText_value
  · rw [hkey]
    simpa [HostAlias.fields, List.lookup_cons] using
      readsDistinct_value hostAlias.capabilities.distinct
  · rw [hkey]
    simpa [HostAlias.fields, List.lookup_cons] using readsDeviceFamily_value hostAlias.deviceFamily
  · rw [hkey]
    simpa [HostAlias.fields, List.lookup_cons] using readsText_value
  · rw [hkey]
    simpa [HostAlias.fields, List.lookup_cons, ReadsVersion] using readsText_value
  · rw [hkey]
    simpa [HostAlias.fields, List.lookup_cons, ReadsOr] using
      readsResetPolicy_value hostAlias.resetPolicy
  · rw [hkey]
    simpa [HostAlias.fields, List.lookup_cons] using readsText_value

theorem fields_nodup (leaveOutEmpty : Bool) (config : HostConfig) :
    ((config.fields leaveOutEmpty).map (·.1)).Nodup := by
  unfold HostConfig.fields retirementFields slotReclaimFields
  cases config.slotReclaim with
  | none => split <;> simp
  | some policy => split <;> simp

theorem lookup_slotReclaim (leaveOutEmpty : Bool) (config : HostConfig) :
    (config.fields leaveOutEmpty).lookup "slotReclaim" =
      config.slotReclaim.map SlotReclaimPolicy.value := by
  unfold HostConfig.fields retirementFields slotReclaimFields
  cases config.slotReclaim with
  | none => split <;> simp [List.lookup_cons]
  | some policy => split <;> simp [List.lookup_cons]

theorem lookup_pendingRetirements (leaveOutEmpty : Bool) (config : HostConfig) :
    (config.fields leaveOutEmpty).lookup "pendingRetirements" =
      if leaveOutEmpty = true ∧ config.pendingRetirements.1 = [] then none
      else some (.array (config.pendingRetirements.1.map FieldText.value)) := by
  unfold HostConfig.fields retirementFields slotReclaimFields
  cases config.slotReclaim with
  | none => split <;> simp [List.lookup_cons]
  | some policy => split <;> simp [List.lookup_cons]

theorem readsHostConfig_value (leaveOutEmpty : Bool) (config : HostConfig) :
    ReadsHostConfig (reparse (config.value leaveOutEmpty)) config := by
  have hkey : ∀ name, key (reparse (config.value leaveOutEmpty)) name =
      ((config.fields leaveOutEmpty).lookup name).map reparse :=
    key_objectOf (fields_nodup leaveOutEmpty config)
  constructor
  · exact isObject_objectOf _
  · rw [hkey]
    simpa [HostConfig.fields, List.lookup_cons] using readsNumber_ofNatural
  · refine ⟨_, ?_, forall₂_map_left config.aliases.list fun hostAlias _ =>
      readsHostAlias_value hostAlias⟩
    rw [hkey]
    simp [HostConfig.fields, reparse_array]
  · rw [hkey, lookup_slotReclaim]
    cases hslotReclaim : config.slotReclaim with
    | none => rfl
    | some policy =>
        apply readsUnlessNull_object
        exact ⟨policy, rfl, readsSlotReclaim_value policy⟩
  · rw [hkey]
    simpa [HostConfig.fields, List.lookup_cons] using readsText_value
  · rw [hkey, lookup_pendingRetirements]
    split
    · rename_i hempty
      exact Subtype.ext hempty.2
    · rw [Option.map_some]
      have hreads := readsDistinct_value config.pendingRetirements.2
      rw [reparse_array] at hreads ⊢
      exact hreads

/-- A host config that is written is read back as it was. -/
theorem validateHostConfig_value (leaveOutEmpty : Bool) (config : HostConfig) :
    validateHostConfig (reparse (config.value leaveOutEmpty)) = .ok config :=
  validateHostConfig_of_reads (readsHostConfig_value leaveOutEmpty config)

end SimulatorBroker.Config
