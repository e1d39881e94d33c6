import SimulatorBroker.Hosting.Provision
import SimulatorBroker.Safety.Queries

/-!
# Provisioning and retiring

Choosing, creating and deleting simulators changes no file.  A simulator that no alias is
bound to may be deleted at any call site.
-/

namespace SimulatorBroker.Safety

open SimulatorBroker.Effects
open SimulatorBroker.State
open SimulatorBroker.Broker

variable {α : Type} {context : Context} {first world after : World} {registry : Registry}
  {note : RegistryNote} {config : HostConfig}

/-! ## Unbound simulators -/

/-- No alias of the host config on disk is bound to the simulator. -/
def Unbound (world : World) (simulatorId : SimulatorId) : Prop :=
  ∀ config, world.store.hostConfig = some config → simulatorId ∉ config.simulatorIds

theorem Unbound.of_hostConfig {simulatorId : SimulatorId} (hunbound : Unbound world simulatorId)
    (hsame : after.store.hostConfig = world.store.hostConfig) : Unbound after simulatorId :=
  fun config hconfig => hunbound config (hsame ▸ hconfig)

theorem Unbound.destructiveOk {simulatorId : SimulatorId} (hunbound : Unbound world simulatorId)
    {site : DeviceSite} : DestructiveOk context world simulatorId site := by
  intro config hconfig hostAlias hmem hbound
  exact absurd (List.mem_map.mpr ⟨hostAlias, hmem, hbound⟩) (hunbound config hconfig)

/-- A simulator that was created since is bound to no alias. -/
theorem unbound_of_fresh {paths : BrokerPaths} (hconsistent : Consistent paths world)
    {simulatorId : SimulatorId} (hfresh : world.outside.nextDevice ≤ simulatorId) :
    Unbound world simulatorId :=
  fun config hconfig hmem =>
    absurd (hconsistent.boundDrawn config hconfig simulatorId hmem) (Nat.not_lt.mpr hfresh)

theorem unbound_of_none {simulatorId : SimulatorId} (hnone : world.store.hostConfig = none) :
    Unbound world simulatorId := by
  intro config hconfig
  rw [hnone] at hconfig
  cases hconfig

theorem safe_deleteDevice {simulatorId : SimulatorId} {site : DeviceSite}
    (hok : DestructiveOk context world simulatorId site) :
    Safe context (perform (.deleteDevice simulatorId site)) (fun _ after => Still world after)
      (fun _ after => Still world after) world :=
  .opStill rfl hok (fun _ _ _ hstill => hstill) fun _ _ _ _ hstill => hstill

theorem safe_shutdownDevice {simulatorId : SimulatorId} {site : DeviceSite}
    (hok : DestructiveOk context world simulatorId site) :
    Safe context (perform (.shutdownDevice simulatorId site)) (fun _ after => Still world after)
      (fun _ after => Still world after) world :=
  .opStill rfl hok (fun _ _ _ hstill => hstill) fun _ _ _ _ hstill => hstill

theorem safe_deleteAliasSimulator {simulatorId : SimulatorId} {site : DeviceSite}
    (hok : DestructiveOk context world simulatorId site) :
    Safe context (deleteAliasSimulator simulatorId site) (fun _ after => Still world after)
      (fun _ after => Still world after) world := by
  unfold deleteAliasSimulator
  refine .seq (safe_shutdownDevice hok) (fun _ _ _ h => h) fun _ shut hshut => ?_
  exact (safe_deleteDevice (hshut.destructiveOk hok)).weaken (fun _ _ _ h => hshut.trans h)
    fun _ _ _ h => hshut.trans h

/-! ## The simulator of an alias -/

theorem safe_selectRuntimeForAlias {iosVersion : String} :
    Safe context (selectRuntimeForAlias iosVersion) (fun _ after => Still world after)
      (fun _ after => Still world after) world := by
  unfold selectRuntimeForAlias
  refine .seq (safe_read rfl (by simp)) (fun _ _ _ h => h.1) fun runtimes read hread => ?_
  split
  · exact .throw hread.2
  · exact .pure hread.2

theorem safe_selectPreferredDeviceType {runtime : Runtime} {deviceFamily : DeviceFamily} :
    Safe context (selectPreferredDeviceType locale runtime deviceFamily) (fun _ after => Still world after)
      (fun _ after => Still world after) world := by
  unfold selectPreferredDeviceType
  split
  · exact .throw (.refl world)
  · exact .pure (.refl world)

theorem safe_createDevice {name deviceType runtime : String} :
    Safe context (perform (.createDevice name deviceType runtime))
      (fun simulatorId after => Still world after ∧ world.outside.nextDevice ≤ simulatorId ∧
        simulatorId < after.outside.nextDevice)
      (fun _ after => Still world after) world := by
  have heffect := still_effect (.createDevice name deviceType runtime) rfl world
  refine .op trivial (fun simulatorId after hanswered hstill => ?_) ?_
  · have hid : simulatorId = world.outside.nextDevice := hanswered
    subst hid
    exact ⟨heffect.trans hstill, Nat.le_refl _,
      (Nat.lt_succ_self _).trans_le hstill.later.nextDevice⟩
  · rintro error failed - - (hstill | ⟨-, hstill⟩)
    · exact hstill
    · exact heffect.trans hstill

/-- The simulator of the alias exists; one that was created is new. -/
structure Provisioned (first : World) (provisioned : ProvisionedSimulator) (after : World) :
    Prop where
  still : Still first after
  drawn : provisioned.simulatorId < after.outside.nextDevice
  fresh : provisioned.created = true → first.outside.nextDevice ≤ provisioned.simulatorId

/-- Without a current simulator to delete at once. -/
theorem safe_ensureAliasSimulator {template : AliasTemplate}
    {currentSimulatorId : Option SimulatorId} {defer : Bool}
    (hdefer : currentSimulatorId = none ∨ defer = true) :
    Safe context (ensureAliasSimulator locale template currentSimulatorId defer)
      (fun provisioned after => Provisioned world provisioned after)
      (fun _ after => Still world after) world := by
  rw [Hosting.ensureAliasSimulator_eq]
  refine .seq safe_selectRuntimeForAlias (fun _ _ _ h => h) fun runtime chosen hchosen => ?_
  refine .seq safe_selectPreferredDeviceType (fun _ _ _ h => hchosen.trans h)
    fun deviceType preferred hpreferred => ?_
  refine .seq safe_readSimctlInventory (fun _ _ _ h => (hchosen.trans hpreferred).trans h.1)
    fun inventory listed hlisted => ?_
  have hstill := (hchosen.trans hpreferred).trans hlisted.1
  unfold Hosting.chooseSimulator
  dsimp only
  cases hfilter : (Hosting.currentDevice inventory currentSimulatorId).filter fun current =>
      isCurrentDevice current.2 runtime deviceType with
  | some current =>
      obtain ⟨hcurrent, -⟩ := Option.filter_eq_some_iff.mp hfilter
      have hdrawn := hlisted.2 current.1 (Hosting.fst_currentDevice hcurrent).2
      dsimp only
      split
      · refine .seq (safe_read rfl (by simp)) (fun _ _ _ h => hstill.trans h.1)
          fun _ renamed hrenamed => ?_
        exact .pure ⟨hstill.trans hrenamed.2, hdrawn.trans_le hrenamed.2.later.nextDevice,
          by simp⟩
      · exact .pure ⟨hstill, hdrawn, by simp⟩
  | none =>
      dsimp only
      cases hreusable : inventory.findDevice (isReusableDevice template runtime deviceType) with
      | some reusable =>
          exact .pure ⟨hstill, hlisted.2 _ (Hosting.mem_of_findDevice hreusable), by simp⟩
      | none =>
          have hcreate : Safe context
              (do
                let simulatorId ← perform
                  (.createDevice template.simulatorName deviceType.identifier runtime.identifier)
                return {
                  created := true, iosVersion := runtime.version.getD ""
                  replacedSimulatorId :=
                    (Hosting.currentDevice inventory currentSimulatorId).map (·.1)
                  simulatorId })
              (fun provisioned after => Provisioned world provisioned after)
              (fun _ after => Still world after) listed := by
            refine .seq safe_createDevice (fun _ _ _ h => hstill.trans h)
              fun simulatorId created hcreated => ?_
            exact .pure ⟨hstill.trans hcreated.1, hcreated.2.2,
              fun _ => hstill.later.nextDevice.trans hcreated.2.1⟩
          cases hcurrent : Hosting.currentDevice inventory currentSimulatorId with
          | none =>
              rw [hcurrent] at hcreate
              exact hcreate
          | some current =>
              rw [hcurrent] at hcreate
              rcases hdefer with rfl | rfl
              · cases hcurrent
              · exact hcreate

theorem safe_rollbackCreatedAliasSimulator {simulatorId : SimulatorId}
    (hunbound : Unbound world simulatorId) {raise : BrokerError → World → Prop} :
    Safe context (rollbackCreatedAliasSimulator simulatorId) (fun _ after => Still world after)
      raise world :=
  safe_ignoringErrors (safe_deleteAliasSimulator hunbound.destructiveOk)

/-! ## Rolling back -/

theorem safe_rollbackDelete {failures : List RollbackFailure} {simulatorId : SimulatorId}
    (hok : DestructiveOk context world simulatorId .rollback)
    {raise : BrokerError → World → Prop} :
    Safe context (rollbackDelete failures simulatorId) (fun _ after => Still world after) raise
      world := by
  unfold rollbackDelete
  refine .catch (E := fun _ after => Still world after) ?_ fun _ failed hfailed => .pure hfailed
  exact .seq (safe_deleteDevice hok) (fun _ _ _ h => h) fun _ _ hdeleted => .pure hdeleted

/-- What is rolled back may be deleted; what is attributed to the attempt is found by name. -/
theorem safe_rollbackCreatedSimulators {createdSimulatorIds : List SimulatorId}
    {attribution : Option (List SimulatorId × List String)}
    (hcreated : ∀ simulatorId ∈ createdSimulatorIds,
      DestructiveOk context world simulatorId .rollback)
    (hnamed : attribution.isSome = true →
      ∀ simulatorId, DestructiveOk context world simulatorId .rollback)
    {raise : BrokerError → World → Prop} :
    Safe context (rollbackCreatedSimulators createdSimulatorIds attribution)
      (fun _ after => Still world after) raise world := by
  unfold rollbackCreatedSimulators
  have hloop : ∀ (found : List SimulatorId × List RollbackFailure) (listed : World),
      Still world listed → (∀ simulatorId ∈ createdSimulatorIds ++ found.1,
        DestructiveOk context world simulatorId .rollback) →
      Safe context
        ((createdSimulatorIds ++ found.1).eraseDups.reverse.foldlM rollbackDelete found.2)
        (fun _ after => Still world after) raise listed := by
    intro found listed hlisted hok
    refine .foldlM (fun rest _ after => Still world after ∧ ∀ simulatorId ∈ rest,
      DestructiveOk context world simulatorId .rollback) ?_ (fun _ _ _ h => h.1) _ _ ⟨hlisted, ?_⟩
    · rintro simulatorId rest failures before ⟨hbefore, hrest⟩
      refine (safe_rollbackDelete
        (hbefore.destructiveOk (hrest simulatorId List.mem_cons_self))).weaken ?_ fun _ _ _ h => h
      exact fun _ _ _ h => ⟨hbefore.trans h, fun other hother =>
        hrest other (List.mem_cons_of_mem _ hother)⟩
    · intro simulatorId hmem
      rw [List.mem_reverse, List.mem_eraseDups] at hmem
      exact hok simulatorId hmem
  cases attribution with
  | none => exact hloop ([], []) world (.refl world) (by simpa using hcreated)
  | some attribution =>
      refine .seq (M := fun (found : List SimulatorId × List RollbackFailure) listed =>
          Still world listed ∧ ∀ simulatorId ∈ createdSimulatorIds ++ found.1,
            DestructiveOk context world simulatorId .rollback)
        (E := fun _ _ => False) ?_ (fun _ _ _ h => h.elim)
        fun found listed hlisted => hloop found listed hlisted.1 hlisted.2
      refine .catch (E := fun _ after => Still world after) ?_ fun error failed hfailed => ?_
      · refine .seq safe_readSimctlInventory (fun _ _ _ h => h.1) fun inventory listed hlisted => ?_
        exact .pure ⟨hlisted.1, fun simulatorId _ => hnamed rfl simulatorId⟩
      · exact .pure ⟨hfailed, by simpa using hcreated⟩

/-! ## Retiring -/

/-- Only what the new host config does not bind is deleted. -/
theorem safe_retirePendingHostSimulators {pendingRetirementIds : List SimulatorId}
    {disk : HostConfig} (hdisk : world.store.hostConfig = some disk)
    (hbound : disk.simulatorIds = config.simulatorIds) :
    Safe context (retirePendingHostSimulators pendingRetirementIds config)
      (fun _ after => Still world after) (fun _ after => Still world after) world := by
  unfold retirePendingHostSimulators
  split
  · exact .pure (.refl world)
  · refine .seq safe_readSimctlInventory (fun _ _ _ h => h.1) fun inventory listed hlisted => ?_
    refine .foldlM (fun _ _ after => Still world after) ?_ (fun _ _ _ h => h) _ _ hlisted.1
    intro simulatorId rest failures before hbefore
    unfold retireSimulator
    split
    · exact .pure hbefore
    · rename_i hunbound
      have hfree : Unbound before simulatorId := by
        intro other hother
        rw [hbefore.hostConfig, hdisk, Option.some_inj] at hother
        rw [← hother, hbound]
        exact fun hmem => hunbound (.inl hmem)
      refine .catch (E := fun _ after => Still before after) ?_
        fun _ failed hfailed => .pure (hbefore.trans hfailed)
      exact .seq (safe_deleteAliasSimulator hfree.destructiveOk) (fun _ _ _ h => h)
        fun _ _ hdeleted => .pure (hbefore.trans hdeleted)

/-! ## A new host config -/

/-- The host config may have been replaced; the ledger of the counts is as it was. -/
structure HostChanged (before after : World) : Prop where
  registry : after.store.registry = before.store.registry
  leases : after.store.leases = before.store.leases
  pins : after.store.pins = before.store.pins
  artifacts : after.store.artifacts = before.store.artifacts
  ended : after.ledger.endedSinceErase = before.ledger.endedSinceErase
  lastEnded : after.ledger.lastReleasedAt = before.ledger.lastReleasedAt
  unwritten : after.ledger.unwritten = before.ledger.unwritten
  cause : after.ledger.cause = before.ledger.cause
  latched : ∀ name, after.ledger.latched name = true → before.ledger.latched name = true
  later : before.outside.Later after.outside

theorem Still.hostChanged (hstill : Still world after) : HostChanged world after where
  registry := hstill.registry
  leases := hstill.leases
  pins := hstill.pins
  artifacts := hstill.artifacts
  ended := by rw [hstill.ledger]
  lastEnded := by rw [hstill.ledger]
  unwritten := by rw [hstill.ledger]
  cause := by rw [hstill.ledger]
  latched _ hlatched := hstill.ledger ▸ hlatched
  later := hstill.later

theorem HostChanged.trans {last : World} (hfirst : HostChanged world after)
    (hlast : HostChanged after last) : HostChanged world last where
  registry := hlast.registry.trans hfirst.registry
  leases := hlast.leases.trans hfirst.leases
  pins := hlast.pins.trans hfirst.pins
  artifacts := hlast.artifacts.trans hfirst.artifacts
  ended := hlast.ended.trans hfirst.ended
  lastEnded := hlast.lastEnded.trans hfirst.lastEnded
  unwritten := hlast.unwritten.trans hfirst.unwritten
  cause := hlast.cause.trans hfirst.cause
  latched name hlatched := hfirst.latched name (hlast.latched name hlatched)
  later := hfirst.later.trans hlast.later

theorem Written.hostChanged (hwritten : Written (.hostConfig config) world after) :
    HostChanged world after where
  registry := hwritten.registry
  leases := hwritten.leases
  pins := hwritten.pins
  artifacts := hwritten.artifacts
  ended := by rw [hwritten.ledger]; rfl
  lastEnded := by rw [hwritten.ledger]; rfl
  unwritten := by rw [hwritten.ledger]; rfl
  cause := by rw [hwritten.ledger]; rfl
  latched name hlatched := by
    rw [hwritten.ledger] at hlatched
    simp only [BrokerOp.effect, Ledger.hostConfigWritten, Bool.and_eq_true] at hlatched
    exact hlatched.1
  later := hwritten.later

theorem HostChanged.entry (hchanged : HostChanged world after) :
    after.store.entry = world.store.entry := by
  funext name
  simp [Store.entry, hchanged.registry]

theorem HostChanged.holder (hchanged : HostChanged world after) : holder after = holder world := by
  funext name
  simp [Safety.holder, hchanged.leases]

theorem HostChanged.exact (hchanged : HostChanged world after) (hexact : Exact world) :
    Exact after where
  counted := by
    rw [hchanged.entry, hchanged.ended, hchanged.lastEnded]
    exact hexact.counted
  absent := by
    rw [hchanged.entry, hchanged.ended, hchanged.lastEnded]
    exact hexact.absent
  written := hchanged.unwritten.trans hexact.written

theorem HostChanged.counted (hchanged : HostChanged world after)
    (hcounted : Counted context world) : Counted context after :=
  fun hrecords => hchanged.exact (hcounted hrecords)

/-- The host config may have been replaced by one with no other aliases. -/
structure Rehosted (before after : World) : Prop extends HostChanged before after where
  configured : ∀ name ∈ after.store.configuredAliases, name ∈ before.store.configuredAliases

theorem Still.rehosted (hstill : Still world after) : Rehosted world after :=
  ⟨hstill.hostChanged, fun _ hname => hstill.configuredAliases ▸ hname⟩

theorem Rehosted.trans {last : World} (hfirst : Rehosted world after)
    (hlast : Rehosted after last) : Rehosted world last :=
  ⟨hfirst.toHostChanged.trans hlast.toHostChanged,
    fun name hname => hfirst.configured name (hlast.configured name hname)⟩

/-- The host config has been written with aliases that were there before. -/
theorem rehosted_of_written (hwritten : Written (.hostConfig config) world after)
    (hnames : ∀ name ∈ config.aliasNames, name ∈ world.store.configuredAliases) :
    Rehosted world after := by
  have hhost : after.store.hostConfig = some config := hwritten.hostConfig
  refine ⟨hwritten.hostChanged, fun name hname => ?_⟩
  rw [Store.configuredAliases, hhost] at hname
  exact hnames name hname

theorem Rehosted.agree (hrehosted : Rehosted world after) (hagree : Agree world) :
    Agree after := by
  intro name hname
  rw [hrehosted.entry, hrehosted.holder]
  exact hagree name (hrehosted.configured name hname)

theorem Rehosted.tracks {registry : Registry} {note : RegistryNote}
    (hrehosted : Rehosted world after) (htracks : Tracks context world registry note) :
    Tracks context after registry note where
  latched name hname hlatched :=
    htracks.latched name (hrehosted.configured name hname) (hrehosted.latched name hlatched)
  cause := by
    rw [hrehosted.cause]
    exact htracks.cause
  present name hname := htracks.present name (hrehosted.configured name hname)
  active := by
    rw [hrehosted.holder]
    exact htracks.active
  gone := by
    rw [hrehosted.leases]
    exact htracks.gone
  tallied := by
    unfold Tallied
    rw [hrehosted.ended, hrehosted.lastEnded]
    exact htracks.tallied

end SimulatorBroker.Safety
