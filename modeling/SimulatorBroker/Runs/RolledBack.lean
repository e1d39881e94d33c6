import SimulatorBroker.Runs.System

/-!
# A rolled-back acquire

The rollback of a failed acquire may leave the lease file behind.  The registry marks
it, and later commands neither adopt it nor count it, as long as none of them overwrites
the mark or names the lease.
-/

namespace SimulatorBroker.Runs

open SimulatorBroker.Effects
open SimulatorBroker.State
open SimulatorBroker.Broker
open SimulatorBroker.Safety

/-- While the file of the lease is there, no idle cleanup is applied, and no command that
skips the examination of a lease names it. -/
def LeavesMark (leaseId : LeaseId) (world : World) : Command → Prop
  | .register options =>
      ∀ lease ∈ world.store.leases, lease.leaseId = leaseId →
        ¬ LeaseReference.Names options.reference world leaseId
  | .contain reference _ | .release reference =>
      ∀ lease ∈ world.store.leases, lease.leaseId = leaseId →
        ¬ LeaseReference.Names reference world leaseId
  | .applyIdleCleanup _ _ _ => ∀ lease ∈ world.store.leases, lease.leaseId ≠ leaseId
  | _ => True

/-- The registry does not name the lease, and no load and no snapshot counts it. -/
structure StaysRolledBack (paths : BrokerPaths) (leaseId : LeaseId) (world : World) : Prop where
  inactive : ∀ name entry, world.store.entry name = some entry →
    entry.activeLeaseId ≠ some leaseId
  uncounted : ∀ (surroundings : Surroundings) (options : LoadOptions) (state : BrokerState)
    (after : World), options.timestamp ≤ world.outside.clock → leaseId ∉ options.skipLeaseIds →
    Steps (brokerHandler surroundings) (loadBrokerState paths options) world (.done state) after →
    ∀ lease ∈ state.leases, lease.leaseId ≠ leaseId
  unlisted : ∀ (surroundings : Surroundings) (timestamp : Timestamp)
    (inventory : Option SimctlInventory) (skipLeaseIds : List LeaseId) (state : BrokerState)
    (after : World), timestamp ≤ world.outside.clock → leaseId ∉ skipLeaseIds →
    Steps (brokerHandler surroundings) (readBrokerStateSnapshot timestamp inventory skipLeaseIds)
      world (.done state) after →
    ∀ lease ∈ state.leases, lease.leaseId ≠ leaseId

section Context

variable {α : Type} {paths : BrokerPaths} {leaseId : LeaseId} {world : World}

/-- The context of a command after the acquire of that lease was rolled back. -/
def rolledBackContext (paths : BrokerPaths) (surroundings : Surroundings) (leaseId : LeaseId)
    (command : Command) (timestamp : Timestamp) : Context :=
  { Command.context command paths surroundings timestamp {} with
    rolledBack := fun other => other = leaseId, drawnFrom := 0 }

/-- What is kept from one command to the next. -/
structure Marked (paths : BrokerPaths) (leaseId : LeaseId) (world : World) : Prop where
  consistent : Consistent paths world
  drawn : leaseId < world.outside.nextId
  rolledBack : RolledBack world leaseId

theorem Marked.moment {surroundings : Surroundings} {command : Command} {timestamp : Timestamp}
    (hmarked : Marked paths leaseId world) :
    Moment (rolledBackContext paths surroundings leaseId command timestamp) world where
  toConsistent := hmarked.consistent
  spared leaseId hspared := hspared.elim
  rolledBack other hother := by
    obtain rfl : other = leaseId := hother
    exact ⟨hmarked.drawn, hmarked.rolledBack⟩
  assumed := trivial

theorem marked_of_invariant {surroundings : Surroundings} {command : Command}
    {timestamp : Timestamp}
    (hinvariant : Invariant (rolledBackContext paths surroundings leaseId command timestamp) world) :
    Marked paths leaseId world :=
  ⟨hinvariant.toConsistent, (hinvariant.rolledBack leaseId rfl).1,
    (hinvariant.rolledBack leaseId rfl).2⟩

theorem commandOk_of_leavesMark {surroundings : Surroundings} {command : Command}
    {timestamp : Timestamp} (hleaves : LeavesMark leaseId world command) :
    CommandOk (rolledBackContext paths surroundings leaseId command timestamp) timestamp world
      command := by
  cases command with
  | register options =>
      refine ⟨le_rfl, fun lease hlease hnames hid => ?_⟩
      obtain rfl : lease.leaseId = leaseId := hid
      exact hleaves lease hlease rfl hnames
  | contain reference reason =>
      refine fun lease hlease hnames => ⟨fun hid => ?_, id⟩
      obtain rfl : lease.leaseId = leaseId := hid
      exact hleaves lease hlease rfl hnames
  | release reference =>
      refine fun lease hlease hnames => ⟨fun hid => ?_, id⟩
      obtain rfl : lease.leaseId = leaseId := hid
      exact hleaves lease hlease rfl hnames
  | lifecycle action options => exact ⟨rfl, fun _ _ => id⟩
  | repairPurpose options => rfl
  | deleteSimulator name => rfl
  | applyIdleCleanup actor confirmPlanId persistNoChanges => exact hleaves
  | _ => trivial

/-- A state load finds the mark and drops the file. -/
theorem Marked.staysRolledBack (hmarked : Marked paths leaseId world) :
    StaysRolledBack paths leaseId world where
  inactive := hmarked.rolledBack.inactive
  uncounted surroundings options state after hpast hskip hsteps := by
    have hmoment : Moment (rolledBackContext paths surroundings leaseId .hostStatus 0) world :=
      hmarked.moment
    have hok : LoadOk (rolledBackContext paths surroundings leaseId .hostStatus 0)
        options.timestamp options.skipLeaseIds world :=
      ⟨Nat.zero_le _, hpast, fun other hother hsame => hskip (hsame ▸ hother)⟩
    have hloaded := (wp_of_safe rfl (fun _ => trivial) hmoment
      (safe_loadBrokerState (counted_failing rfl) hok)).returned hsteps
    intro lease hlease
    exact hloaded.1.loaded.tracks.gone lease (hloaded.1.loaded.leases.mem_iff.mp hlease)
  unlisted surroundings timestamp inventory skipLeaseIds state after hpast hskip hsteps := by
    have hmoment : Moment (rolledBackContext paths surroundings leaseId .hostStatus 0) world :=
      hmarked.moment
    have hlisted := (wp_of_safe rfl (fun _ => trivial) hmoment
      (safe_readBrokerStateSnapshot hpast)).returned hsteps
    intro lease hlease hid
    obtain ⟨hdisk, hskipped | hunmarked⟩ := hlisted.1.2.counted lease hlease
    · exact hskip (hid ▸ hskipped)
    · exact hunmarked ((marked_of_invariant hlisted.2).rolledBack.leftover lease hdisk hid)

end Context

variable {paths : BrokerPaths} {leaseId : LeaseId} {first world : World}

theorem Marked.runFrom (hmarked : Marked paths leaseId first)
    (hrun : RunFrom paths .arbitrary (fun world _ => LeavesMark leaseId world) first world) : Marked paths leaseId world := by
  induction hrun with
  | refl => exact hmarked
  | @command world after command timestamp rest _ hadmitted hpast hsteps ih =>
      have hsound := sound_command (rolledBackContext paths .arbitrary leaseId command timestamp)
        command rfl ih.moment (fun _ => trivial) le_rfl hpast (Nat.zero_le _)
        (commandOk_of_leavesMark hadmitted)
      exact marked_of_invariant ((hsound.mono (fun _ _ h => h.2) (fun _ _ h => h)
        fun _ _ h => h).stopped hsteps)
  | time _ hsettles ih =>
      have hkept := Settles.kept hsettles
      exact ⟨hkept.consistent ih.consistent, ih.drawn.trans_le hkept.later.nextId,
        hkept.rolledBack ih.rolledBack⟩

/-- The lease never comes back, in every run whose commands leave the mark alone. -/
theorem staysRolledBack_of_run (hfirst : Run paths .arbitrary first)
    (hrolledBack : RolledBack first leaseId)
    (hlease : ∃ lease ∈ first.store.leases, lease.leaseId = leaseId)
    (hrun : RunFrom paths .arbitrary (fun world _ => LeavesMark leaseId world) first world) :
    StaysRolledBack paths leaseId world := by
  obtain ⟨lease, hdisk, rfl⟩ := hlease
  have hmarked : Marked paths lease.leaseId first :=
    ⟨hfirst.consistent, hfirst.consistent.leaseDrawn lease hdisk, hrolledBack⟩
  exact (hmarked.runFrom hrun).staysRolledBack

/-! ## A boot that fails -/

/-- The owner lives; the boot fails, and then the removal of the lease file. -/
def failingBoot : Script where
  project := buildProject
  samples := [{ pid := 100, pgid := some 100, elapsed := some "01:00", command := "node" }]
  fault position := if position = 42 ∨ position = 48 then some .thrown else none

/-- The lease file that the rollback could not remove. -/
def leftWorld : World :=
  (((Command.acquire { purposeId := "tests", ownerPid := 100 }).body {} 0).run
    failingBoot.respond 0 singleHost).2

theorem run_leftWorld : Run {} .arbitrary leftWorld :=
  (Run.fresh fresh_singleHost).script failingBoot _ (Nat.zero_le _)

/-- The registry that the acquire loaded. -/
def leftConfig : HostConfig := singleHost.store.hostConfig.getD { hostId := "", aliases := [] }

def loadedRegistry : Registry :=
  syncRegistry leftConfig
    { deviceTypes := singleHost.outside.deviceTypes, devices := singleHost.outside.devices
      runtimes := singleHost.outside.runtimes }
    (adoptHolders (indexLeases []) (indexPins []) leftConfig 0
      (normalizeRegistry none leftConfig 0))

/-- The registry that its rollback wrote. -/
def leftRegistry : Registry :=
  ((((loadedRegistry.touch 0).modify "build-1" (leasedEntry 0 0)).touch 0).modify "build-1"
    (rolledBackEntry "boot-on-acquire-failed" 0)).touch 0

theorem registry_leftWorld : leftWorld.store.registry = some leftRegistry := rfl

theorem leftRegistry_of_ne {name : AliasName} (hne : name ≠ "build-1") :
    leftRegistry.aliases name = none := by
  have hconfig : leftConfig.aliasNames = ["build-1"] := rfl
  have hfind : leftConfig.find name = none := by
    simp [HostConfig.find, leftConfig, singleHost, Ne.symm hne]
  simp [leftRegistry, loadedRegistry, syncRegistry, adoptHolders, normalizeRegistry,
    Registry.modify_aliases_of_ne, hconfig, hfind, hne]

theorem rolledBack_leftWorld : RolledBack leftWorld 0 where
  inactive name entry hentry := by
    have hentry : leftRegistry.aliases name = some entry := by
      simpa [Store.entry, registry_leftWorld] using hentry
    by_cases hname : name = "build-1"
    · subst hname
      have hinactive : (leftRegistry.aliases "build-1").bind (·.activeLeaseId) = none := by
        decide +kernel
      rw [hentry] at hinactive
      intro hactive
      rw [Option.bind_some, hactive] at hinactive
      cases hinactive
    · rw [leftRegistry_of_ne hname] at hentry
      cases hentry
  leftover lease hlease _ := by
    have hleftover : leftWorld.store.leases.all
        (fun lease => isLeftoverAcquireRollbackLease lease leftRegistry) = true := by decide +kernel
    exact ⟨leftRegistry, registry_leftWorld, List.all_eq_true.mp hleftover lease hlease⟩

theorem mem_leftWorld : ∃ lease ∈ leftWorld.store.leases, lease.leaseId = 0 := by
  have hany : leftWorld.store.leases.any (fun lease => decide (lease.leaseId = 0)) = true := by
    decide +kernel
  simpa using hany

/-- A status load drops the file. -/
def droppedWorld : World :=
  ((Command.hostStatus.body {} 0).run ({} : Script).respond 0 leftWorld).2

theorem staysRolledBack_droppedWorld :
    droppedWorld.store.leases = [] ∧ StaysRolledBack {} 0 droppedWorld := by
  refine ⟨by decide +kernel, ?_⟩
  have hleaves : LeavesMark 0 leftWorld .hostStatus := trivial
  have hsteps := ({} : Script).sound_respond.run_steps (Command.hostStatus.body {} 0) 0 leftWorld
  exact staysRolledBack_of_run run_leftWorld rolledBack_leftWorld mem_leftWorld
    (.command .refl hleaves (Nat.zero_le _) hsteps)

/-! ## A register that names the lease -/

/-- The load of a register skips the lease that it names, and adopts it. -/
def adoptedWorld : World :=
  (((Command.register { reference := { leaseId := some 0 }, commandPid := 100 }).body {} 0).run
    failingBoot.respond 100 leftWorld).2

/-- Not every run leaves the lease out. -/
theorem not_staysRolledBack : ¬ ∀ (first world : World) (leaseId : LeaseId),
    Run {} .arbitrary first → RolledBack first leaseId →
    (∃ lease ∈ first.store.leases, lease.leaseId = leaseId) →
    RunFrom {} .arbitrary (fun _ _ _ => True) first world → StaysRolledBack {} leaseId world := by
  intro hstays
  have hsteps := failingBoot.sound_respond.run_steps
    ((Command.register { reference := { leaseId := some 0 }, commandPid := 100 }).body {} 0) 100
    leftWorld
  have hadopted := hstays leftWorld adoptedWorld 0 run_leftWorld rolledBack_leftWorld mem_leftWorld
    (.command .refl trivial (Nat.zero_le _) hsteps)
  have hactive : (adoptedWorld.store.entry "build-1").bind (·.activeLeaseId) = some 0 := by
    decide +kernel
  obtain ⟨entry, hentry, hnamed⟩ := Option.bind_eq_some_iff.mp hactive
  exact hadopted.inactive "build-1" entry hentry hnamed

end SimulatorBroker.Runs
