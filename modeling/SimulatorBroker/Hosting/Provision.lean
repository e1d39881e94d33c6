import SimulatorBroker.Hosting.Rules

/-!
# Choosing the simulator of an alias

What `ensureAliasSimulator` comes to: the simulator the alias has, one of the
right name that is there already, or a new one.
-/

namespace SimulatorBroker.Hosting

open SimulatorBroker.Effects
open SimulatorBroker.State
open SimulatorBroker.Broker

variable {surroundings : Surroundings} {distinct : Prop} {world first after : World}
  {template : AliasTemplate} {currentSimulatorId : Option SimulatorId} {defer : Bool}
  {runtime : Runtime} {deviceType : DeviceType} {inventory : SimctlInventory}

/-! ## The choice -/

/-- The simulator of the alias, if it is listed. -/
def currentDevice (inventory : SimctlInventory) (currentSimulatorId : Option SimulatorId) :
    Option (SimulatorId × IndexedDevice) :=
  currentSimulatorId.bind fun simulatorId =>
    (inventory.device? simulatorId).map fun device => (simulatorId, device)

/-- `ensureAliasSimulator` once everything is read. -/
def chooseSimulator (template : AliasTemplate) (currentSimulatorId : Option SimulatorId)
    (deferCurrentDeviceDeletion : Bool) (runtime : Runtime) (deviceType : DeviceType)
    (inventory : SimctlInventory) : Broker ProvisionedSimulator := do
  let iosVersion := runtime.version.getD ""
  let current := currentDevice inventory currentSimulatorId
  match current.filter fun (_, device) => isCurrentDevice device runtime deviceType with
  | some (simulatorId, device) =>
      if device.name ≠ template.simulatorName then
        perform (.renameDevice simulatorId template.simulatorName)
      return { created := false, iosVersion, simulatorId }
  | none =>
      match inventory.findDevice (isReusableDevice template runtime deviceType) with
      | some reusable =>
          return {
            created := false, iosVersion, simulatorId := reusable
            replacedSimulatorId :=
              (current.map (·.1)).filter fun simulatorId => decide (simulatorId ≠ reusable) }
      | none =>
          match current, deferCurrentDeviceDeletion with
          | some (simulatorId, _), false => deleteAliasSimulator simulatorId .replacement
          | _, _ => pure ()
          let simulatorId ← perform
            (.createDevice template.simulatorName deviceType.identifier runtime.identifier)
          return {
            created := true, iosVersion, replacedSimulatorId := current.map (·.1), simulatorId }

theorem ensureAliasSimulator_eq :
    ensureAliasSimulator locale template currentSimulatorId defer = (do
      let runtime ← selectRuntimeForAlias template.iosVersion
      let deviceType ← selectPreferredDeviceType locale runtime template.deviceFamily
      let inventory ← readSimctlInventory
      chooseSimulator template currentSimulatorId defer runtime deviceType inventory) :=
  rfl

/-! ## What is read -/

/-- The version of the runtime is one a host config may have. -/
def SchemaRuntime (runtime : Runtime) : Prop :=
  isHostSchemaIosVersion (runtime.version.getD "") = true

theorem schemaRuntime_of_matches {requestedVersion : String}
    (hmatches : runtimeMatchesRequestedVersion runtime requestedVersion = true) :
    SchemaRuntime runtime := by
  unfold runtimeMatchesRequestedVersion at hmatches
  unfold SchemaRuntime isHostSchemaIosVersion
  cases hversion : runtime.version with
  | none => simp [hversion] at hmatches
  | some version =>
      cases hparts : iosVersionComponents version with
      | none => simp [hversion, hparts] at hmatches
      | some parts => simp [hparts]

theorem hosts_selectRuntimeForAlias {iosVersion : String} :
    Hosts surroundings distinct (selectRuntimeForAlias iosVersion)
      (fun runtime after => SchemaRuntime runtime ∧ Onward surroundings world after)
      (fun _ after => Onward surroundings world after) world := by
  unfold selectRuntimeForAlias
  refine .seq (Hosts.frame (hostless_perform rfl)) (fun _ _ h => h) fun runtimes first hfirst => ?_
  split
  · exact .throw hfirst
  · next runtime rest hsorted =>
      have hmem : runtime ∈ sortRuntimes (runtimes.filter fun runtime =>
          isAvailableIosRuntime runtime && runtimeMatchesRequestedVersion runtime iosVersion) := by
        rw [hsorted]
        exact List.mem_cons_self
      have hmatches := (List.mem_filter.mp ((List.mem_insertionSort _).mp hmem)).2
      rw [Bool.and_eq_true] at hmatches
      exact .pure ⟨schemaRuntime_of_matches hmatches.2, hfirst⟩

theorem hosts_selectPreferredDeviceType {deviceFamily : DeviceFamily} :
    Hosts surroundings distinct (selectPreferredDeviceType locale runtime deviceFamily)
      (fun _ after => after = world) (fun _ after => after = world) world := by
  unfold selectPreferredDeviceType
  split
  · exact .throw rfl
  · exact .pure rfl

/-! ## What is chosen -/

theorem mem_of_findDevice {select : IndexedDevice → Bool} {simulatorId : SimulatorId}
    (hfound : inventory.findDevice select = some simulatorId) :
    simulatorId ∈ inventory.deviceIds :=
  List.mem_of_find?_eq_some hfound

theorem device?_of_findDevice {select : IndexedDevice → Bool} {simulatorId : SimulatorId}
    (hfound : inventory.findDevice select = some simulatorId) :
    ∃ device, inventory.device? simulatorId = some device ∧ select device = true := by
  have hselected := List.find?_some hfound
  rw [Option.any_eq_true] at hselected
  exact hselected

/-- The simulator of an alias: the one it has, one that bore its name, or a new one; it bears the
name from now on, and the one the alias had before is not forgotten. -/
structure Chosen (surroundings : Surroundings) (before after : World) (simulatorName : String)
    (currentSimulatorId : Option SimulatorId) (provisioned : ProvisionedSimulator) : Prop where
  moved : Moved surroundings (currentSimulatorId.map fun simulatorId => (simulatorId, simulatorName))
    before after
  drawn : provisioned.simulatorId < after.outside.nextDevice
  origin : currentSimulatorId = some provisioned.simulatorId ∨
    (KeepsNames surroundings → provisioned.simulatorId < before.outside.nextDevice →
      nameOf before.outside provisioned.simulatorId = some simulatorName) ∨
      before.outside.nextDevice ≤ provisioned.simulatorId
  named : KeepsNames surroundings →
    ∀ name, nameOf after.outside provisioned.simulatorId = some name → name = simulatorName
  replaced : ∀ simulatorId, provisioned.replacedSimulatorId = some simulatorId →
    currentSimulatorId = some simulatorId
  kept : NeverReturns surroundings → ∀ simulatorId, currentSimulatorId = some simulatorId →
    simulatorId < before.outside.nextDevice → simulatorId = provisioned.simulatorId ∨
      provisioned.replacedSimulatorId = some simulatorId ∨ Absent after.outside simulatorId

theorem device?_of_currentDevice {current : SimulatorId × IndexedDevice}
    (hcurrent : currentDevice inventory currentSimulatorId = some current) :
    currentSimulatorId = some current.1 ∧ inventory.device? current.1 = some current.2 := by
  unfold currentDevice at hcurrent
  obtain ⟨simulatorId, hid, hmap⟩ := Option.bind_eq_some_iff.mp hcurrent
  obtain ⟨device, hdevice, rfl⟩ := Option.map_eq_some_iff.mp hmap
  exact ⟨hid, hdevice⟩

theorem fst_currentDevice {current : SimulatorId × IndexedDevice}
    (hcurrent : currentDevice inventory currentSimulatorId = some current) :
    currentSimulatorId = some current.1 ∧ current.1 ∈ inventory.deviceIds := by
  obtain ⟨hid, hdevice⟩ := device?_of_currentDevice hcurrent
  exact ⟨hid, mem_of_device? hdevice⟩

theorem not_listed_of_currentDevice {simulatorId : SimulatorId}
    (hcurrent : currentDevice inventory (some simulatorId) = none) :
    simulatorId ∉ inventory.deviceIds := by
  simpa [currentDevice, device?_eq_none] using hcurrent

/-- The current simulator takes the name of the alias. -/
theorem hosts_renameCurrent {current : SimulatorId × IndexedDevice}
    (hlisted : Listed surroundings world first inventory)
    (hcurrent : currentDevice inventory currentSimulatorId = some current)
    (hcurrentDrawn : ∀ simulatorId ∈ currentSimulatorId, simulatorId < world.outside.nextDevice)
    (hallows : KeepsNames surroundings → distinct → ∀ disk, world.store.hostConfig = some disk →
      Allows disk (currentSimulatorId.map fun simulatorId => (simulatorId, template.simulatorName))) :
    Hosts surroundings distinct
      (do
        if current.2.name ≠ template.simulatorName then
          perform (.renameDevice current.1 template.simulatorName)
        return { created := false, iosVersion := runtime.version.getD "", simulatorId := current.1 })
      (fun provisioned after =>
        Chosen surroundings world after template.simulatorName currentSimulatorId provisioned ∧
          provisioned.iosVersion = runtime.version.getD "")
      (fun _ after =>
        Moved surroundings
          (currentSimulatorId.map fun simulatorId => (simulatorId, template.simulatorName))
          world after) first := by
  obtain ⟨hid, hdevice⟩ := device?_of_currentDevice hcurrent
  have hdrawn : current.1 < world.outside.nextDevice := hcurrentDrawn _ hid
  have hrenamed : (currentSimulatorId.map fun simulatorId => (simulatorId, template.simulatorName)) =
      some (current.1, template.simulatorName) := by
    rw [hid]
    rfl
  have hchosen : ∀ {last : World},
      Moved surroundings (some (current.1, template.simulatorName)) first last →
      (KeepsNames surroundings →
        ∀ name, nameOf last.outside current.1 = some name → name = template.simulatorName) →
      Chosen surroundings world last template.simulatorName currentSimulatorId
        { created := false, iosVersion := runtime.version.getD "", simulatorId := current.1 } := by
    intro last hmoved hnamed
    have hrest := hlisted.onward.of_onward.trans hmoved
    refine ⟨by rwa [hrenamed], hdrawn.trans_le hrest.later.nextDevice, .inl hid, hnamed, ?_, ?_⟩
    · rintro simulatorId ⟨⟩
    · intro _ simulatorId hsome _
      rw [hid] at hsome
      cases hsome
      exact .inl rfl
  split
  · have hfits : KeepsNames surroundings → distinct → ∀ disk, first.store.hostConfig = some disk →
        Allows disk (some (current.1, template.simulatorName)) := by
      intro hkeeps hdistinct disk hdisk
      rw [hlisted.onward.hostConfig] at hdisk
      rw [← hrenamed]
      exact hallows hkeeps hdistinct disk hdisk
    refine (Hosts.renameDevice hfits).seq (fun _ last h => ?_) fun _ last h => .pure ⟨hchosen h.1 ?_, rfl⟩
    · rw [hrenamed]
      exact hlisted.onward.of_onward.trans h
    · exact fun hkeeps name hname =>
        h.2 hkeeps (hdrawn.trans_le hlisted.onward.later.nextDevice) name hname
  · next hsame =>
      refine .pure ⟨hchosen (.refl _) fun hkeeps name hname => ?_, rfl⟩
      rw [hlisted.since hkeeps _ _ hdevice name hname]
      exact not_not.mp hsame

theorem hosts_chooseSimulator (hbegun : Drawn surroundings distinct world)
    (hlisted : Listed surroundings world first inventory)
    (hcurrentDrawn : ∀ simulatorId ∈ currentSimulatorId, simulatorId < world.outside.nextDevice)
    (hallows : KeepsNames surroundings → distinct → ∀ disk, world.store.hostConfig = some disk →
      Allows disk (currentSimulatorId.map fun simulatorId => (simulatorId, template.simulatorName))) :
    Hosts surroundings distinct
      (chooseSimulator template currentSimulatorId defer runtime deviceType inventory)
      (fun provisioned after =>
        Chosen surroundings world after template.simulatorName currentSimulatorId provisioned ∧
          provisioned.iosVersion = runtime.version.getD "")
      (fun _ after =>
        Moved surroundings
          (currentSimulatorId.map fun simulatorId => (simulatorId, template.simulatorName))
          world after) first := by
  unfold chooseSimulator
  simp only
  have hgone : ∀ {last : World}, Onward surroundings first last →
      currentDevice inventory currentSimulatorId = none → NeverReturns surroundings →
        ∀ simulatorId, currentSimulatorId = some simulatorId →
          simulatorId < world.outside.nextDevice → Absent last.outside simulatorId := by
    rintro last honward hnone hnever simulatorId rfl hid
    exact (hlisted.later honward).gone hnever simulatorId hid (not_listed_of_currentDevice hnone)
  cases hfilter : (currentDevice inventory currentSimulatorId).filter fun current =>
      isCurrentDevice current.2 runtime deviceType with
  | some current =>
      obtain ⟨hcurrent, -⟩ := Option.filter_eq_some_iff.mp hfilter
      exact hosts_renameCurrent hlisted hcurrent hcurrentDrawn hallows
  | none =>
      simp only
      cases hreusable : inventory.findDevice (isReusableDevice template runtime deviceType) with
      | some reusable =>
          obtain ⟨device, hdevice, hselected⟩ := device?_of_findDevice hreusable
          have hname : device.name = template.simulatorName := by
            simp only [isReusableDevice, Bool.and_eq_true, decide_eq_true_eq] at hselected
            exact hselected.1.1.2
          refine .pure ⟨⟨hlisted.onward.of_onward, hlisted.drawn _ (mem_of_findDevice hreusable),
            .inr (.inl ?_), ?_, ?_, ?_⟩, rfl⟩
          · intro hkeeps hid
            rw [hlisted.before hkeeps _ _ hdevice hid, hname]
          · intro hkeeps name hlast
            rw [hlisted.since hkeeps _ _ hdevice name hlast, hname]
          · intro simulatorId hreplaced
            obtain ⟨hmap, -⟩ := Option.filter_eq_some_iff.mp hreplaced
            obtain ⟨current, hcurrent, rfl⟩ := Option.map_eq_some_iff.mp hmap
            exact (fst_currentDevice hcurrent).1
          · rintro hnever simulatorId hsome hid
            cases hcurrent : currentDevice inventory currentSimulatorId with
            | none => exact .inr (.inr (hgone (.refl _) hcurrent hnever simulatorId hsome hid))
            | some current =>
                have hsame := (fst_currentDevice hcurrent).1
                rw [hsome] at hsame
                cases hsame
                by_cases heq : current.1 = reusable
                · exact .inl heq
                · refine .inr (.inl ?_)
                  simp [heq]
      | none =>
          have hcreate : ∀ {middle : World}, Onward surroundings first middle →
              Hosts surroundings distinct
                (do
                  let simulatorId ← perform
                    (.createDevice template.simulatorName deviceType.identifier runtime.identifier)
                  return {
                    created := true, iosVersion := runtime.version.getD ""
                    replacedSimulatorId :=
                      (currentDevice inventory currentSimulatorId).map (·.1)
                    simulatorId })
                (fun provisioned after =>
                  Chosen surroundings world after template.simulatorName currentSimulatorId
                      provisioned ∧
                    provisioned.iosVersion = runtime.version.getD "")
                (fun _ after => Onward surroundings world after) middle := by
            intro middle hmiddle
            have hbefore := hlisted.onward.trans hmiddle
            have hdevices := (hbegun.onward hbefore).devices
            refine .seq (hosts_createDevice hdevices) (fun _ _ h => hbefore.trans h) ?_
            rintro simulatorId last ⟨hcreated, hfresh, hdrawn, hnamed⟩
            refine .pure ⟨⟨(hbefore.trans hcreated).of_onward, hdrawn,
              .inr (.inr (hbefore.later.nextDevice.trans hfresh)), hnamed, ?_, ?_⟩, rfl⟩
            · intro replaced hreplaced
              obtain ⟨current, hcurrent, rfl⟩ := Option.map_eq_some_iff.mp hreplaced
              exact (fst_currentDevice hcurrent).1
            · intro hnever replaced hsome hid
              cases hcurrent : currentDevice inventory currentSimulatorId with
              | none =>
                  exact .inr (.inr
                    (hgone (hmiddle.trans hcreated) hcurrent hnever replaced hsome hid))
              | some current =>
                  have hsame := (fst_currentDevice hcurrent).1
                  rw [hsome] at hsame
                  cases hsame
                  exact .inr (.inl rfl)
          cases hcurrent : currentDevice inventory currentSimulatorId with
          | none =>
              simp only
              have hrest := hcreate (.refl first)
              rw [hcurrent] at hrest
              exact hrest.weaken (fun _ _ h => h) fun _ _ h => h.of_onward
          | some current =>
              rw [hcurrent] at hcreate
              cases defer with
              | true => exact (hcreate (.refl first)).weaken (fun _ _ h => h) fun _ _ h => h.of_onward
              | false =>
                  refine .seq hosts_deleteAliasSimulator
                    (fun _ _ h => (hlisted.onward.trans h).of_onward) ?_
                  exact fun _ middle hmiddle =>
                    (hcreate hmiddle.1).weaken (fun _ _ h => h) fun _ _ h => h.of_onward

theorem hosts_ensureAliasSimulator (hdrawn : Drawn surroundings distinct world)
    (hcurrentDrawn : ∀ simulatorId ∈ currentSimulatorId, simulatorId < world.outside.nextDevice)
    (hallows : KeepsNames surroundings → distinct → ∀ disk, world.store.hostConfig = some disk →
      Allows disk (currentSimulatorId.map fun simulatorId => (simulatorId, template.simulatorName))) :
    Hosts surroundings distinct (ensureAliasSimulator locale template currentSimulatorId defer)
      (fun provisioned after =>
        Chosen surroundings world after template.simulatorName currentSimulatorId provisioned ∧
          isHostSchemaIosVersion provisioned.iosVersion = true)
      (fun _ after =>
        Moved surroundings
          (currentSimulatorId.map fun simulatorId => (simulatorId, template.simulatorName))
          world after) world := by
  rw [ensureAliasSimulator_eq]
  refine .seq hosts_selectRuntimeForAlias (fun _ _ h => h.of_onward) ?_
  rintro runtime chosen ⟨hruntime, hchosen⟩
  refine .seq hosts_selectPreferredDeviceType ?_ ?_
  · rintro _ _ rfl
    exact hchosen.of_onward
  rintro deviceType _ rfl
  refine .seq (hosts_readSimctlInventory (hdrawn.onward hchosen))
    (fun _ _ h => (hchosen.trans h).of_onward) fun inventory listed hlisted => ?_
  refine (hosts_chooseSimulator hdrawn (hlisted.begun hchosen) hcurrentDrawn hallows).weaken ?_
    fun _ _ h => h
  rintro provisioned after ⟨hprovisioned, hversion⟩
  refine ⟨hprovisioned, ?_⟩
  rw [hversion]
  exact hruntime

end SimulatorBroker.Hosting
