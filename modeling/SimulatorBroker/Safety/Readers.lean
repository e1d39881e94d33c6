import SimulatorBroker.Safety.Tracking

/-!
# Reading

What the readers return, that they change nothing, and that where they fail no
end of a lease is waiting to be written.
-/

namespace SimulatorBroker.Safety

open SimulatorBroker.Effects
open SimulatorBroker.State
open SimulatorBroker.Broker

variable {context : Context} {world after : World}

/-! ## Pending ends -/

/-- Where ends of leases are recorded, none is waiting to be written. -/
def Unpending (context : Context) (world : World) : Prop :=
  RecordsEnds context.surroundings → world.ledger.unwritten = false

theorem Unpending.of_mayFail {op : BrokerOp} (hmayFail : context.surroundings.mayFail op world)
    (hop : ∀ event, op ≠ .appendEvent event) : Unpending context world := by
  intro hrecords
  by_contra hunwritten
  obtain ⟨event, hevent⟩ := hrecords.pending op world hmayFail (by simpa using hunwritten)
  exact hop event hevent

theorem Unpending.of_fails (hfails : ¬ RecordsEnds context.surroundings) :
    Unpending context world :=
  fun hrecords => absurd hrecords hfails

theorem Unpending.of_kept (hkept : Kept world after) (hunpending : Unpending context after) :
    Unpending context world := by
  intro hrecords
  rw [← hkept.ledger]
  exact hunpending hrecords

/-! ## Single reads -/

/-- One read: its value, and its failure. -/
theorem safe_read {op : BrokerOp} (hquiet : quiet op = true)
    (hop : ∀ event, op ≠ .appendEvent event) :
    Safe context (perform op)
      (fun value after => Answered context.surroundings op world value ∧ Still world after)
      (fun _ after => Still world after ∧ Unpending context world) world :=
  .opStill (quiet_keepsFiles hquiet) (quiet_stepOk hquiet)
    (fun _ _ hanswered hstill => ⟨hanswered, hstill⟩)
    fun _ _ hmayFail _ hstill => ⟨hstill, .of_mayFail hmayFail hop⟩

theorem safe_ensureStatePaths :
    Safe context ensureStatePaths (fun _ after => Still world after)
      (fun _ after => Still world after ∧ Unpending context world) world :=
  (safe_fsCall (.refl world)).weaken (fun _ _ _ h => h) fun _ _ _ h => ⟨h.2, .of_fails h.1⟩

/-! ## The host config -/

/-- The host config on disk, as `readHostConfigOrThrow` returns it. -/
def ReadConfig (world : World) (config : HostConfig) : Prop :=
  ∃ disk, world.store.hostConfig = some disk ∧ disk.Valid ∧
    config = { disk with pendingRetirements := disk.pendingRetirements.dedup }

theorem ReadConfig.configuredAliases {config : HostConfig} (hread : ReadConfig world config) :
    world.store.configuredAliases = config.aliasNames := by
  obtain ⟨disk, hdisk, -, rfl⟩ := hread
  simp [Store.configuredAliases, hdisk, HostConfig.aliasNames]

theorem ReadConfig.of_hostConfig {config : HostConfig} (hread : ReadConfig world config)
    (hsame : after.store.hostConfig = world.store.hostConfig) : ReadConfig after config := by
  obtain ⟨disk, hdisk, hrest⟩ := hread
  exact ⟨disk, by rw [hsame, hdisk], hrest⟩

theorem ReadConfig.kept {config : HostConfig} (hkept : Kept world after)
    (hread : ReadConfig world config) : ReadConfig after config :=
  hread.of_hostConfig hkept.hostConfig

theorem ReadConfig.valid {config : HostConfig} (hread : ReadConfig world config) :
    config.Valid := by
  obtain ⟨disk, -, hvalid, rfl⟩ := hread
  exact hvalid

theorem safe_readHostConfigOrThrow :
    Safe context readHostConfigOrThrow
      (fun config after => ReadConfig world config ∧ Still world after)
      (fun _ after => Still world after) world := by
  unfold readHostConfigOrThrow
  refine .seq (safe_read rfl (by simp)) (fun _ _ _ h => h.1) fun value read hread => ?_
  obtain ⟨hvalue, hstill⟩ := hread
  cases value with
  | none => exact .throw hstill
  | some disk =>
      by_cases hvalid : disk.Valid
      · simp only [validateHostConfig, if_pos hvalid]
        exact .pure ⟨⟨disk, hvalue.symm, hvalid, rfl⟩, hstill⟩
      · simp only [validateHostConfig, if_neg hvalid]
        exact .throw hstill

/-! ## The inventory -/

theorem quiet_readSimctlInventory : readSimctlInventory.All fun op => quiet op = true := by
  unfold readSimctlInventory
  exact .bind (.request rfl) fun _ => .bind (.request rfl) fun _ => .bind (.request rfl)
    fun _ => .pure _

/-- Every device of the inventory carries an identifier drawn by then. -/
def Inventoried (world : World) (inventory : SimctlInventory) : Prop :=
  ∀ simulatorId ∈ inventory.deviceIds, simulatorId < world.outside.nextDevice

theorem Inventoried.kept {inventory : SimctlInventory} (hkept : Kept world after)
    (hinventoried : Inventoried world inventory) : Inventoried after inventory :=
  fun simulatorId hmem => (hinventoried simulatorId hmem).trans_le hkept.later.nextDevice

theorem inventoried_of_devices {inventory : SimctlInventory}
    (hdevices : inventory.devices = world.outside.devices) (hdrawn : world.outside.DevicesDrawn) :
    Inventoried world inventory := by
  intro simulatorId hmem
  rw [SimctlInventory.deviceIds, List.mem_eraseDups, hdevices] at hmem
  obtain ⟨device, hdevice, rfl⟩ := List.mem_map.mp hmem
  exact hdrawn device hdevice

theorem safe_readSimctlInventory :
    Safe context readSimctlInventory
      (fun inventory after => Still world after ∧ Inventoried after inventory)
      (fun _ after => Still world after ∧ Unpending context world) world := by
  unfold readSimctlInventory
  refine .seq (safe_read rfl (by simp)) (fun _ _ _ h => h) fun deviceTypes first hfirst => ?_
  refine .assume fun hinvariant => ?_
  refine .seq (safe_read rfl (by simp))
    (fun _ _ _ h => ⟨hfirst.2.trans h.1, .of_kept hfirst.2.toKept h.2⟩)
    fun devices second hsecond => ?_
  have hstill := hfirst.2.trans hsecond.2
  refine .seq (safe_read rfl (by simp))
    (fun _ _ _ h => ⟨hstill.trans h.1, .of_kept hstill.toKept h.2⟩) fun runtimes third hthird => ?_
  refine .pure ⟨hstill.trans hthird.2, ?_⟩
  have hinventoried : Inventoried first { deviceTypes, devices, runtimes } :=
    inventoried_of_devices hsecond.1 hinvariant.devicesDrawn
  exact hinventoried.kept (hsecond.2.trans hthird.2).toKept

end SimulatorBroker.Safety
