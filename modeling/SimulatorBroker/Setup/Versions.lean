import SimulatorBroker.Setup.Runtimes
import SimulatorBroker.State.Truthful

/-!
# Two matchers of versions

A runtime is selected by the numbers of its version, an alias satisfies a requirement
by the text of its version.
-/

namespace SimulatorBroker.Setup

open Effects State Broker Capacity

/-! ## Prefixes -/

/-- A prefix of the images is one of the values, where values that meet have one image only. -/
theorem isPrefix_of_map {α β : Type} {image : α → β} {xs ys : List α}
    (hleading : xs.map image <+: ys.map image)
    (hinjective : ∀ (index : Nat) (left right : α), xs[index]? = some left → ys[index]? = some right →
      image left = image right → left = right) : xs <+: ys := by
  induction xs generalizing ys with
  | nil => exact List.nil_prefix
  | cons left xs ih =>
      cases ys with
      | nil => simp at hleading
      | cons right ys =>
          obtain ⟨hsame, hrest⟩ := List.cons_prefix_cons.mp hleading
          refine List.cons_prefix_cons.mpr ⟨hinjective 0 left right rfl rfl hsame, ih hrest ?_⟩
          intro index left right hleft hright
          exact hinjective (index + 1) left right hleft hright

/-! ## The matchers -/

/-- The numbers of a version. -/
def versionNumbers (version : String) : List Nat :=
  (versionComponents version).map digitsNumber

/-- A component of the request is the number of the runtime's, in another spelling. -/
def Respelled (version requested : String) : Prop :=
  ∃ (index : Nat) (part other : List Char), (versionComponents requested)[index]? = some part ∧
    (versionComponents version)[index]? = some other ∧
      digitsNumber part = digitsNumber other ∧ part ≠ other

/-- The request asks, in another spelling, for what the runtime has. -/
def MatchesRespelled (version requested : String) : Prop :=
  versionNumbers requested <+: versionNumbers version ∧ Respelled version requested

variable {version requested : String} {runtime : Runtime}

theorem iosVersionComponents_of_schema (hschema : isHostSchemaIosVersion version = true) :
    iosVersionComponents version = some (versionNumbers version) ∧
      (versionNumbers version).length ≤ 3 := by
  unfold isHostSchemaIosVersion at hschema
  unfold iosVersionComponents at hschema ⊢
  dsimp only at hschema ⊢
  split at hschema
  · rename_i hparts
    rw [if_pos hparts]
    exact ⟨rfl, by simpa [versionNumbers] using hparts.1⟩
  · cases hschema

theorem schema_empty : isHostSchemaIosVersion "" = false := by decide +kernel

/-- A runtime matches by the numbers of the request. -/
theorem runtimeMatches_iff (hversion : runtime.version = some version)
    (hschema : isHostSchemaIosVersion version = true)
    (hrequested : isHostSchemaIosVersion requested = true) :
    runtimeMatchesRequestedVersion runtime requested = true ↔
      versionNumbers requested <+: versionNumbers version := by
  obtain ⟨hparts, hlength⟩ := iosVersionComponents_of_schema hschema
  obtain ⟨hrequestedParts, -⟩ := iosVersionComponents_of_schema hrequested
  have hne : requested ≠ "" := by
    rintro rfl
    rw [schema_empty] at hrequested
    cases hrequested
  unfold runtimeMatchesRequestedVersion
  simp only [hversion, Option.bind_some, hparts, hrequestedParts, if_neg hne]
  split
  · rename_i hthree
    rw [decide_eq_true_eq]
    constructor
    · intro heq
      rw [heq]
    · intro hleading
      exact (hleading.eq_of_length_le (by omega)).symm
  · exact List.isPrefixOf_iff_prefix

theorem iosVersionSatisfies_iff :
    iosVersionSatisfies version requested = true ↔
      versionComponents requested <+: versionComponents version :=
  List.isPrefixOf_iff_prefix

/-- The text of a request that begins the version also begins its numbers. -/
theorem versionNumbers_prefix (hsatisfies : iosVersionSatisfies version requested = true) :
    versionNumbers requested <+: versionNumbers version :=
  (iosVersionSatisfies_iff.mp hsatisfies).map digitsNumber

/-- Where the numbers match, the texts do unless one component is spelled otherwise. -/
theorem satisfies_iff_of_numbers (hnumbers : versionNumbers requested <+: versionNumbers version) :
    iosVersionSatisfies version requested = true ↔ ¬ MatchesRespelled version requested := by
  constructor
  · rintro hsatisfies ⟨-, index, part, other, hpart, hother, -, hne⟩
    obtain ⟨rest, hrest⟩ := iosVersionSatisfies_iff.mp hsatisfies
    rw [← hrest, List.getElem?_append_left (List.getElem?_eq_some_iff.mp hpart).1, hpart] at hother
    exact hne (Option.some_inj.mp hother)
  · intro hspelled
    refine iosVersionSatisfies_iff.mpr (isPrefix_of_map hnumbers ?_)
    intro index part other hpart hother hsame
    by_contra hne
    exact hspelled ⟨hnumbers, index, part, other, hpart, hother, hsame, hne⟩

theorem agree_iff (hversion : runtime.version = some version)
    (hschema : isHostSchemaIosVersion version = true)
    (hrequested : isHostSchemaIosVersion requested = true) :
    (runtimeMatchesRequestedVersion runtime requested = true ↔
        iosVersionSatisfies version requested = true) ↔
      ¬ MatchesRespelled version requested := by
  rw [runtimeMatches_iff hversion hschema hrequested]
  constructor
  · rintro hagree ⟨hnumbers, hrespelled⟩
    exact (satisfies_iff_of_numbers hnumbers).mp (hagree.mp hnumbers) ⟨hnumbers, hrespelled⟩
  · intro hspelled
    exact ⟨fun hnumbers => (satisfies_iff_of_numbers hnumbers).mpr hspelled,
      versionNumbers_prefix⟩

/-! ## What a selection picks -/

/-- One of the three selections picks the runtime for the request. -/
inductive Picks (inventory : SimctlInventory) (requested : String) (runtime : Runtime) : Prop where
  | forAlias {surroundings : Surroundings} {world after : World}
      (listed : inventory.runtimes = world.outside.runtimes)
      (steps : Steps (brokerHandler surroundings) (selectRuntimeForAlias requested) world
        (.done runtime) after)
  | forSetup {locale : Collation}
      (selected : selectRuntimeForSetup locale inventory requested = .ok runtime)
  | fromInventory {locale : Collation} {deviceFamily : DeviceFamily}
      (selected : selectRuntimeFromInventory locale inventory (some requested) deviceFamily = .ok runtime)

theorem wp_selectRuntimeForAlias {surroundings : Surroundings} {world : World} :
    wp (brokerHandler surroundings) (fun _ _ => True) (selectRuntimeForAlias requested)
      (fun runtime _ => runtime ∈ world.outside.runtimes ∧
        runtimeMatchesRequestedVersion runtime requested = true) (fun _ _ => True) world := by
  have hlist : wp (brokerHandler surroundings) (fun _ _ => True) (perform .listRuntimes)
      (fun (runtimes : List Runtime) _ => runtimes = world.outside.runtimes) (fun _ _ => True)
      world :=
    wp_perform trivial (fun _ _ hanswered _ => hanswered) fun _ _ _ _ _ => trivial
  unfold selectRuntimeForAlias
  refine hlist.seq (fun _ _ _ => trivial) ?_
  rintro runtimes listed rfl
  split
  · exact trivial
  · rename_i runtime rest hsorted
    have hmem : runtime ∈ sortRuntimes (world.outside.runtimes.filter fun runtime =>
        isAvailableIosRuntime runtime && runtimeMatchesRequestedVersion runtime requested) := by
      rw [hsorted]
      exact List.mem_cons_self
    obtain ⟨hlisted, hmatches⟩ := List.mem_filter.mp ((List.mem_insertionSort _).mp hmem)
    exact ⟨hlisted, (Bool.and_eq_true_iff.mp hmatches).2⟩

theorem Picks.matches {inventory : SimctlInventory} (hpicks : Picks inventory requested runtime) :
    runtime ∈ inventory.runtimes ∧ runtimeMatchesRequestedVersion runtime requested = true := by
  cases hpicks with
  | forAlias hlisted hsteps =>
      rw [hlisted]
      exact wp_selectRuntimeForAlias.returned hsteps
  | forSetup hselected =>
      obtain ⟨hlisted, hserves⟩ := List.mem_filter.mp (selectRuntimeForSetup_mem hselected)
      exact ⟨hlisted, (Bool.and_eq_true_iff.mp (Bool.and_eq_true_iff.mp hserves).1).2⟩
  | fromInventory hselected =>
      obtain ⟨hmatching, -⟩ := selectRuntimeFromInventory_mem hselected
      obtain ⟨havailable, hmatches⟩ := List.mem_filter.mp hmatching
      exact ⟨(List.mem_filter.mp havailable).1, hmatches⟩

/-- A runtime that matches has a version that a host config may store. -/
theorem schema_of_matches (hmatches : runtimeMatchesRequestedVersion runtime requested = true) :
    ∃ version, runtime.version = some version ∧ isHostSchemaIosVersion version = true := by
  unfold runtimeMatchesRequestedVersion at hmatches
  cases hversion : runtime.version with
  | none => simp [hversion] at hmatches
  | some version =>
      refine ⟨version, rfl, ?_⟩
      cases hparts : iosVersionComponents version with
      | none => simp [hversion, hparts] at hmatches
      | some parts => simp [isHostSchemaIosVersion, hparts]

/-- The last record of the runtime's identifier has its version, or one that continues it. -/
def ListedLast (inventory : SimctlInventory) (runtime : Runtime) (version : String) : Prop :=
  ∃ listed, inventory.runtime? runtime.identifier = some listed ∧
    iosVersionSatisfies (listed.version.getD "") version = true

theorem runtime?_congr {left right : SimctlInventory} (hsame : left.runtimes = right.runtimes)
    (identifier : String) : left.runtime? identifier = right.runtime? identifier := by
  unfold SimctlInventory.runtime?
  rw [hsame]

/-- What a synchronization says of an available device of the alias's family. -/
theorem syncVerdict_not_mismatched_iff {inventory : SimctlInventory} {hostAlias : HostAlias}
    {indexed : IndexedDevice} (hindexed : inventory.device? hostAlias.simulatorId = some indexed)
    (havailable : indexed.isAvailable = true)
    (hfamily : indexed.deviceFamily = some hostAlias.deviceFamily) :
    (∀ powerState, syncVerdict inventory hostAlias ≠ .mismatched powerState) ↔
      iosVersionSatisfies (indexed.runtimeVersion.getD "") hostAlias.iosVersion = true := by
  unfold syncVerdict
  simp only [hindexed, havailable, hfamily, ne_eq, not_true_eq_false, false_or]
  cases hsatisfies : iosVersionSatisfies (indexed.runtimeVersion.getD "") hostAlias.iosVersion with
  | true => simp
  | false => simp

theorem device?_runtimeVersion {inventory : SimctlInventory} {simulatorId : SimulatorId}
    {indexed : IndexedDevice} (hindexed : inventory.device? simulatorId = some indexed) :
    indexed.runtimeVersion = (inventory.runtime? indexed.runtimeIdentifier).bind (·.version) := by
  obtain ⟨device, -, rfl⟩ := Option.map_eq_some_iff.mp hindexed
  rfl

theorem listedLast_iff {inventory : SimctlInventory} (hlisted : runtime ∈ inventory.runtimes) :
    ListedLast inventory runtime version ↔
      iosVersionSatisfies (((inventory.runtime? runtime.identifier).bind (·.version)).getD "")
        version = true := by
  cases hlast : inventory.runtime? runtime.identifier with
  | none =>
      have habsent := List.find?_eq_none.mp hlast runtime (List.mem_reverse.mpr hlisted)
      simp at habsent
  | some listed => simp [ListedLast, hlast]

/-- The matchers agree, and what is selected is stored and found again, exactly where no
component is matched in another spelling and the runtime is the last one listed as such. -/
theorem versionMatchers_iff (requested : String)
    (hrequested : isHostSchemaIosVersion requested = true) :
    (∀ (runtime : Runtime) (version : String), runtime.version = some version →
      isHostSchemaIosVersion version = true →
      ((runtimeMatchesRequestedVersion runtime requested = true ↔
          iosVersionSatisfies version requested = true) ↔
        ¬ MatchesRespelled version requested)) ∧
    ∀ (inventory : SimctlInventory) (runtime : Runtime), Picks inventory requested runtime →
      ∃ version, runtime.version = some version ∧
        (iosVersionSatisfies version requested = true ↔ ¬ MatchesRespelled version requested) ∧
        ∀ (later : SimctlInventory) (hostAlias : HostAlias) (indexed : IndexedDevice),
          later.runtimes = inventory.runtimes → hostAlias.iosVersion = version →
          later.device? hostAlias.simulatorId = some indexed → indexed.isAvailable = true →
          indexed.runtimeIdentifier = runtime.identifier →
          indexed.deviceFamily = some hostAlias.deviceFamily →
          ((∀ powerState, syncVerdict later hostAlias ≠ .mismatched powerState) ↔
            ListedLast inventory runtime version) := by
  refine ⟨fun _ _ hversion hschema => agree_iff hversion hschema hrequested, ?_⟩
  intro inventory runtime hpicks
  obtain ⟨hlisted, hmatches⟩ := hpicks.matches
  obtain ⟨version, hversion, hschema⟩ := schema_of_matches hmatches
  refine ⟨version, hversion,
    satisfies_iff_of_numbers ((runtimeMatches_iff hversion hschema hrequested).mp hmatches), ?_⟩
  rintro later hostAlias indexed hruntimes rfl hindexed havailable hidentifier hfamily
  rw [syncVerdict_not_mismatched_iff hindexed havailable hfamily, device?_runtimeVersion hindexed,
    hidentifier, runtime?_congr hruntimes, listedLast_iff hlisted]

def phone : DeviceType where
  identifier := "iPhone-17"
  name := "iPhone 17"
  productFamily := some .iPhone

def patchRuntime : Runtime where
  identifier := "com.apple.CoreSimulator.SimRuntime.iOS-26-4"
  supportedDeviceTypes := [phone]
  version := some "26.4.1"

def patchInventory : SimctlInventory where
  deviceTypes := [phone]
  devices := []
  runtimes := [patchRuntime]

/-- The alias that was set up with the runtime. -/
def patchAlias : HostAlias where
  aliasName := "build-1"
  capabilities := []
  deviceFamily := .iPhone
  displayName := "Build 1"
  iosVersion := "26.4.1"
  resetPolicy := .none
  simulatorId := 0

/-- The simulator of the alias has been created. -/
def patchedInventory : SimctlInventory :=
  { patchInventory with
    devices := [{ udid := 0, deviceTypeIdentifier := phone.identifier, name := "Build 1",
                  runtimeIdentifier := patchRuntime.identifier }] }

/-- A patch is selected for its line, and satisfies it, now and when the alias is synchronized. -/
theorem versionMatchers_patch :
    ¬ MatchesRespelled "26.4.1" "26.4" ∧
      (runtimeMatchesRequestedVersion patchRuntime "26.4" = true ↔
        iosVersionSatisfies "26.4.1" "26.4" = true) ∧
      ∀ powerState, syncVerdict patchedInventory patchAlias ≠ .mismatched powerState := by
  have hselected : selectRuntimeFromInventory .root patchInventory (some "26.4") .iPhone =
      .ok patchRuntime := rfl
  have hpicks : Picks patchInventory "26.4" patchRuntime := .fromInventory hselected
  have hschema : isHostSchemaIosVersion "26.4" = true := by decide +kernel
  have hlast : ListedLast patchInventory patchRuntime "26.4.1" :=
    ⟨patchRuntime, rfl, by decide +kernel⟩
  obtain ⟨hagree, hpicked⟩ := versionMatchers_iff "26.4" hschema
  obtain ⟨version, hversion, hsatisfies, hsynced⟩ := hpicked patchInventory patchRuntime hpicks
  cases hversion
  have hspelled := hsatisfies.mp (by decide +kernel)
  refine ⟨hspelled, (hagree patchRuntime "26.4.1" rfl (by decide +kernel)).mpr hspelled, ?_⟩
  exact (hsynced patchedInventory patchAlias _ rfl rfl rfl rfl rfl rfl).mpr hlast

/-! ## A leading zero -/

/-- A request with a leading zero matches a runtime that does not satisfy it. -/
theorem not_versionMatchers_agree : ¬ ∀ (runtime : Runtime) (version requested : String),
    runtime.version = some version → isHostSchemaIosVersion version = true →
    isHostSchemaIosVersion requested = true →
    (runtimeMatchesRequestedVersion runtime requested = true ↔
      iosVersionSatisfies version requested = true) := by
  intro hagree
  have hsatisfies := (hagree patchRuntime "26.4.1" "26.04" rfl (by decide +kernel)
    (by decide +kernel)).mp (by decide +kernel)
  have hnot : iosVersionSatisfies "26.4.1" "26.04" = false := by decide +kernel
  rw [hsatisfies] at hnot
  cases hnot

end SimulatorBroker.Setup
