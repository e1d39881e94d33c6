import SimulatorBroker.Safety.Guards

/-!
# Guarded operations keep the invariant

One lemma for each kind of write, then one for every operation of the signature.
-/

namespace SimulatorBroker.Safety

open SimulatorBroker.Effects
open SimulatorBroker.State
open SimulatorBroker.Broker

variable {context : Context} {world : World}

/-! ## What a leftover depends on -/

theorem isLeftover_congr {left right : Lease} {registry : Registry}
    (halias : left.aliasName = right.aliasName) (hid : left.leaseId = right.leaseId) :
    isLeftoverAcquireRollbackLease left registry =
      isLeftoverAcquireRollbackLease right registry := by
  simp [isLeftoverAcquireRollbackLease, halias, hid]

theorem leftover_congr {left right : Lease} (halias : left.aliasName = right.aliasName)
    (hid : left.leaseId = right.leaseId) : Leftover world left ↔ Leftover world right := by
  simp [Leftover, isLeftover_congr halias hid]

/-! ## Lookups in lists without duplicates -/

theorem eq_of_nodup_map {α β : Type} {key : α → β} {records : List α}
    (hnodup : (records.map key).Nodup) {left right : α} (hleft : left ∈ records)
    (hright : right ∈ records) (heq : key left = key right) : left = right :=
  List.inj_on_of_nodup_map hnodup hleft hright heq

theorem nodup_map_filter {α β : Type} {key : α → β} {records : List α} {select : α → Bool}
    (hnodup : (records.map key).Nodup) : ((records.filter select).map key).Nodup :=
  hnodup.sublist (List.filter_sublist.map key)

/-! ## Registry -/

theorem Invariant.registryWritten (hinvariant : Invariant context world)
    {content : Registry} {note : RegistryNote}
    (hok : RegistryWriteOk context world content note) :
    Invariant context
      (BrokerOp.effect (.rename (.registry content note)) world) where
  devicesDrawn := hinvariant.devicesDrawn
  boundDrawn := hinvariant.boundDrawn
  leaseIds := hinvariant.leaseIds
  leaseAliases := hinvariant.leaseAliases
  leaseDrawn := hinvariant.leaseDrawn
  leaseConfigured := hinvariant.leaseConfigured
  leaseArtifacts := hinvariant.leaseArtifacts
  leaseApart := hinvariant.leaseApart
  pinAliases := hinvariant.pinAliases
  pinConfigured := hinvariant.pinConfigured
  compatible := hinvariant.compatible
  ownerSince := hinvariant.ownerSince
  owned := hinvariant.owned
  latched name hlatched := by
    simp only [BrokerOp.effect, Ledger.registryWritten, Bool.and_eq_true, Bool.or_eq_true,
      decide_eq_true_eq, Option.any_eq_true] at hlatched
    obtain ⟨hconfigured, ⟨entry, hentry, hhealth⟩ | ⟨hlatched, hrepaired⟩⟩ := hlatched
    · exact ⟨entry, by simpa [BrokerOp.effect, FileWrite.commit, Store.entry] using hentry, hhealth⟩
    · obtain hnote | ⟨entry, hentry, hhealth⟩ := hok.latched name hconfigured hlatched
      · exact absurd hnote hrepaired
      · exact ⟨entry, by simpa [BrokerOp.effect, FileWrite.commit, Store.entry] using hentry,
          hhealth⟩
  cause name entry code hentry hcode := by
    have hcontent : content.aliases name = some entry := by
      simpa [BrokerOp.effect, FileWrite.commit, Store.entry] using hentry
    obtain ⟨hhealth, hcause⟩ := hok.cause name entry code hcontent hcode
    refine ⟨?_, hhealth⟩
    simp only [BrokerOp.effect, Ledger.registryWritten]
    by_cases hfailed : name ∈ note.failed
    · simp [hfailed, hcontent, hcode]
    · obtain hnote | hcause := hcause
      · exact absurd hnote hfailed
      · simp [hfailed, hcontent, hhealth, hcause]
  spared leaseId hspared := by
    obtain ⟨lease, hid, hlease⟩ := hinvariant.spared leaseId hspared
    obtain ⟨hnot, hadopted⟩ := hok.spared lease (hid ▸ hspared) hlease
    refine ⟨lease, hid, ⟨⟨hlease.onDisk, ?_, ?_⟩, hlease.alive, hlease.since⟩⟩
    · rintro ⟨registry, hregistry, hleftover⟩
      obtain rfl : content = registry := by
        simpa [BrokerOp.effect, FileWrite.commit] using hregistry
      simp [hnot] at hleftover
    · intro entry hentry
      exact hadopted entry (by
        simpa [BrokerOp.effect, FileWrite.commit, Store.entry] using hentry)
  rolledBack leaseId hrolledBack := by
    refine ⟨(hinvariant.rolledBack leaseId hrolledBack).1, ⟨?_, ?_⟩⟩
    · intro name entry hentry
      exact hok.inactive leaseId hrolledBack name entry (by
        simpa [BrokerOp.effect, FileWrite.commit, Store.entry] using hentry)
    · rintro lease hlease rfl
      exact ⟨content, rfl, hok.leftover lease hlease hrolledBack⟩

/-! ## Host config -/

theorem Invariant.hostConfigWritten (hinvariant : Invariant context world)
    {config : HostConfig} (hok : HostWriteOk context world config) :
    Invariant context (BrokerOp.effect (.rename (.hostConfig config)) world) where
  devicesDrawn := hinvariant.devicesDrawn
  boundDrawn written hwritten simulatorId hbound := by
    obtain rfl : config = written := by
      simpa [BrokerOp.effect, FileWrite.commit] using hwritten
    exact hok.drawn simulatorId hbound
  leaseIds := hinvariant.leaseIds
  leaseAliases := hinvariant.leaseAliases
  leaseDrawn := hinvariant.leaseDrawn
  leaseConfigured lease hlease := by
    simpa [BrokerOp.effect, FileWrite.commit, Store.configuredAliases] using
      hok.leases lease hlease
  leaseArtifacts := hinvariant.leaseArtifacts
  leaseApart := hinvariant.leaseApart
  pinAliases := hinvariant.pinAliases
  pinConfigured pin hpin := by
    simpa [BrokerOp.effect, FileWrite.commit, Store.configuredAliases] using hok.pins pin hpin
  compatible := hinvariant.compatible
  ownerSince := hinvariant.ownerSince
  owned := hinvariant.owned
  latched name hlatched := by
    simp only [BrokerOp.effect, Ledger.hostConfigWritten, Bool.and_eq_true] at hlatched
    exact hinvariant.latched name hlatched.1
  cause := hinvariant.cause
  spared leaseId hspared := by
    obtain ⟨lease, hid, hlease⟩ := hinvariant.spared leaseId hspared
    exact ⟨lease, hid, ⟨⟨hlease.onDisk, hlease.notLeftover, hlease.adopted⟩, hlease.alive,
      hlease.since⟩⟩
  rolledBack leaseId hrolledBack := by
    obtain ⟨hdrawn, hinactive, hleftover⟩ := hinvariant.rolledBack leaseId hrolledBack
    exact ⟨hdrawn, ⟨hinactive, hleftover⟩⟩

/-! ## Lease files -/

theorem mem_setLease {store : Store} {record lease : Lease} :
    lease ∈ (store.setLease record).leases ↔
      lease = record ∨ lease ∈ store.leases ∧ lease.leaseId ≠ record.leaseId := by
  simp [Store.setLease]

theorem mem_dropLease {store : Store} {leaseId : LeaseId} {lease : Lease} :
    lease ∈ (store.dropLease leaseId).leases ↔
      lease ∈ store.leases ∧ lease.leaseId ≠ leaseId := by
  simp [Store.dropLease]

theorem LeaseWriteOk.fresh {record : Lease} (hinvariant : Invariant context world)
    (hok : LeaseWriteOk context world record) :
    ∀ other ∈ world.store.leases, other.leaseId ≠ record.leaseId →
      other.aliasName ≠ record.aliasName := by
  intro other hother hne
  obtain ⟨old, hold, hrewrites⟩ | hplaces := hok.placed
  · intro heq
    have hsame := eq_of_nodup_map hinvariant.leaseAliases hother hold
      (heq.trans hrewrites.aliasName.symm)
    exact hne (hsame ▸ hrewrites.leaseId)
  · exact (hplaces.free other hother).1

theorem LeaseWriteOk.configured {record : Lease} (hinvariant : Invariant context world)
    (hok : LeaseWriteOk context world record) :
    record.aliasName ∈ world.store.configuredAliases ∧
      record.leaseId < world.outside.nextId := by
  obtain ⟨old, hold, hrewrites⟩ | hplaces := hok.placed
  · exact ⟨hrewrites.aliasName ▸ hinvariant.leaseConfigured old hold,
      hrewrites.leaseId ▸ hinvariant.leaseDrawn old hold⟩
  · exact ⟨hplaces.configured, hplaces.drawn⟩

theorem LeaseWriteOk.apart {record : Lease} (hinvariant : Invariant context world)
    (hok : LeaseWriteOk context world record) :
    ∀ other ∈ world.store.leases, other.leaseId ≠ record.leaseId →
      Apart context.paths record other := by
  intro other hother hne
  obtain ⟨old, hold, hrewrites⟩ | hplaces := hok.placed
  · exact hrewrites.apart (hinvariant.leaseApart old hold other hother fun hid =>
      hne (hid.symm.trans hrewrites.leaseId))
  · exact hplaces.apart other hother

theorem LeaseWriteOk.compatible {record : Lease} (hinvariant : Invariant context world)
    (hok : LeaseWriteOk context world record) :
    ∀ pin ∈ world.store.pins, Compatible record pin := by
  intro pin hpin
  obtain ⟨old, hold, hrewrites⟩ | hplaces := hok.placed
  · exact hrewrites.compatible (hinvariant.compatible old hold pin hpin)
  · exact hplaces.compatible pin hpin

theorem Invariant.leaseWritten (hinvariant : Invariant context world) {record : Lease}
    (hok : LeaseWriteOk context world record) :
    Invariant context (BrokerOp.effect (.rename (.lease record)) world) where
  devicesDrawn := hinvariant.devicesDrawn
  boundDrawn := hinvariant.boundDrawn
  leaseIds := by
    simp only [BrokerOp.effect, FileWrite.commit, Store.setLease, List.map_cons, List.nodup_cons]
    refine ⟨?_, nodup_map_filter hinvariant.leaseIds⟩
    simp
  leaseAliases := by
    simp only [BrokerOp.effect, FileWrite.commit, Store.setLease, List.map_cons, List.nodup_cons]
    refine ⟨?_, nodup_map_filter hinvariant.leaseAliases⟩
    simp only [List.mem_map, List.mem_filter, decide_eq_true_eq, not_exists, not_and]
    rintro other ⟨hother, hne⟩ halias
    exact hok.fresh hinvariant other hother hne halias
  leaseDrawn lease hlease := by
    obtain rfl | ⟨hlease, -⟩ := mem_setLease.mp hlease
    · exact (hok.configured hinvariant).2
    · exact hinvariant.leaseDrawn lease hlease
  leaseConfigured lease hlease := by
    obtain rfl | ⟨hlease, -⟩ := mem_setLease.mp hlease
    · exact (hok.configured hinvariant).1
    · exact hinvariant.leaseConfigured lease hlease
  leaseArtifacts lease hlease := by
    obtain rfl | ⟨hlease, -⟩ := mem_setLease.mp hlease
    · exact hok.artifact
    · exact hinvariant.leaseArtifacts lease hlease
  leaseApart lease hlease other hother hne := by
    obtain rfl | ⟨hbefore, hleaseId⟩ := mem_setLease.mp hlease
    · obtain rfl | ⟨hother, hotherId⟩ := mem_setLease.mp hother
      · exact absurd rfl hne
      · exact hok.apart hinvariant other hother hotherId
    · obtain rfl | ⟨hother, -⟩ := mem_setLease.mp hother
      · exact (hok.apart hinvariant lease hbefore hleaseId).symm
      · exact hinvariant.leaseApart lease hbefore other hother hne
  pinAliases := hinvariant.pinAliases
  pinConfigured := hinvariant.pinConfigured
  compatible lease hlease pin hpin := by
    obtain rfl | ⟨hbefore, -⟩ := mem_setLease.mp hlease
    · exact hok.compatible hinvariant pin hpin
    · exact hinvariant.compatible lease hbefore pin hpin
  ownerSince lease hlease := by
    obtain rfl | ⟨hlease, -⟩ := mem_setLease.mp hlease
    · exact hok.since
    · exact hinvariant.ownerSince lease hlease
  owned lease hlease := by
    obtain rfl | ⟨hlease, -⟩ := mem_setLease.mp hlease
    · exact hok.owned
    · exact hinvariant.owned lease hlease
  latched := hinvariant.latched
  cause := hinvariant.cause
  spared leaseId hspared := by
    obtain ⟨lease, hid, hlease⟩ := hinvariant.spared leaseId hspared
    by_cases hsame : lease.leaseId = record.leaseId
    · obtain ⟨old, hold, hrewrites⟩ | hplaces := hok.placed
      · obtain rfl : lease = old := eq_of_nodup_map hinvariant.leaseIds hlease.onDisk hold
          (hsame.trans hrewrites.leaseId.symm)
        refine ⟨record, hsame ▸ hid, ⟨⟨mem_setLease.mpr (.inl rfl), ?_, ?_⟩, ?_, ?_⟩⟩
        · exact (leftover_congr hrewrites.aliasName hsame).not.mp hlease.notLeftover
        · exact hrewrites.aliasName ▸ hsame ▸ hlease.adopted
        · exact hsame ▸ hlease.alive
        · exact hok.spared (hsame ▸ hid ▸ hspared)
      · exact absurd hsame (hplaces.free lease hlease.onDisk).2
    · exact ⟨lease, hid, ⟨⟨mem_setLease.mpr (.inr ⟨hlease.onDisk, hsame⟩), hlease.notLeftover,
        hlease.adopted⟩, hlease.alive, hlease.since⟩⟩
  rolledBack leaseId hrolledBack := by
    obtain ⟨hdrawn, hinactive, hleftover⟩ := hinvariant.rolledBack leaseId hrolledBack
    refine ⟨hdrawn, ⟨hinactive, ?_⟩⟩
    rintro lease hlease rfl
    obtain rfl | ⟨hlease, -⟩ := mem_setLease.mp hlease
    · exact absurd hrolledBack hok.rolledBack
    · exact hleftover lease hlease rfl

theorem Invariant.leaseUnlinked (hinvariant : Invariant context world) {leaseId : LeaseId}
    {site : UnlinkSite} (hok : ¬ context.spared leaseId) :
    Invariant context (BrokerOp.effect (.unlinkLease leaseId site) world) where
  devicesDrawn := hinvariant.devicesDrawn
  boundDrawn := hinvariant.boundDrawn
  leaseIds := nodup_map_filter hinvariant.leaseIds
  leaseAliases := nodup_map_filter hinvariant.leaseAliases
  leaseDrawn lease hlease := hinvariant.leaseDrawn lease (mem_dropLease.mp hlease).1
  leaseConfigured lease hlease := hinvariant.leaseConfigured lease (mem_dropLease.mp hlease).1
  leaseArtifacts lease hlease := hinvariant.leaseArtifacts lease (mem_dropLease.mp hlease).1
  leaseApart lease hlease other hother :=
    hinvariant.leaseApart lease (mem_dropLease.mp hlease).1 other (mem_dropLease.mp hother).1
  pinAliases := hinvariant.pinAliases
  pinConfigured := hinvariant.pinConfigured
  compatible lease hlease := hinvariant.compatible lease (mem_dropLease.mp hlease).1
  ownerSince lease hlease := hinvariant.ownerSince lease (mem_dropLease.mp hlease).1
  owned lease hlease := hinvariant.owned lease (mem_dropLease.mp hlease).1
  latched name hlatched := by
    refine hinvariant.latched name ?_
    rw [← hlatched]
    simp only [BrokerOp.effect]
    split <;> rfl
  cause name entry code hentry hcode := by
    obtain ⟨hcause, hhealth⟩ := hinvariant.cause name entry code hentry hcode
    refine ⟨?_, hhealth⟩
    rw [← hcause]
    simp only [BrokerOp.effect]
    split <;> rfl
  spared other hspared := by
    obtain ⟨lease, hid, hlease⟩ := hinvariant.spared other hspared
    have hne : lease.leaseId ≠ leaseId := by
      rintro rfl
      exact hok (hid ▸ hspared)
    exact ⟨lease, hid, ⟨⟨mem_dropLease.mpr ⟨hlease.onDisk, hne⟩, hlease.notLeftover,
      hlease.adopted⟩, hlease.alive, hlease.since⟩⟩
  rolledBack other hrolledBack := by
    obtain ⟨hdrawn, hinactive, hleftover⟩ := hinvariant.rolledBack other hrolledBack
    exact ⟨hdrawn, ⟨hinactive, fun lease hlease hid =>
      hleftover lease (mem_dropLease.mp hlease).1 hid⟩⟩

/-! ## The other operations -/

/-- The operations that leave host config, registry, lease files, pins and
ledger as they are. -/
def keepsHolders : BrokerOp → Bool
  | .rename (.registry _ _) | .rename (.hostConfig _) | .rename (.lease _) | .rename (.pin _)
  | .unlinkLease _ _ | .unlinkPin _ => false
  | _ => true

theorem devicesDrawn_update {outside : Outside} {simulatorId : SimulatorId}
    {update : Device → Device} (hudid : ∀ device, (update device).udid = device.udid)
    (hdrawn : outside.DevicesDrawn) : (outside.updateDevice simulatorId update).DevicesDrawn := by
  intro device hdevice
  obtain ⟨old, hold, rfl⟩ := List.mem_map.mp hdevice
  have hsame : (if old.udid = simulatorId then update old else old).udid = old.udid := by
    split <;> simp [hudid]
  rw [hsame]
  exact hdrawn old hold

theorem devicesDrawn_create {outside : Outside} {name deviceType runtime : String}
    (hdrawn : outside.DevicesDrawn) :
    (outside.createDevice name deviceType runtime).DevicesDrawn := by
  intro device hdevice
  obtain rfl | hdevice := List.mem_cons.mp hdevice
  · exact Nat.lt_succ_self _
  · exact (hdrawn device hdevice).trans (Nat.lt_succ_self _)

theorem devicesDrawn_delete {outside : Outside} {simulatorId : SimulatorId}
    (hdrawn : outside.DevicesDrawn) : (outside.deleteDevice simulatorId).DevicesDrawn :=
  fun device hdevice => hdrawn device (List.mem_of_mem_filter hdevice)

/-- What an operation does to the devices and the counters is a later outside. -/
theorem later_effect (op : BrokerOp) (world : World) :
    world.outside.Later (op.effect world).outside := by
  have hrefl := Outside.Later.refl world.outside
  cases op with
  | randomUuid => exact ⟨le_rfl, Nat.le_succ _, le_rfl, id⟩
  | rename file => cases file <;> exact hrefl
  | createDevice name deviceType runtime =>
      exact ⟨le_rfl, le_rfl, Nat.le_succ _, devicesDrawn_create⟩
  | renameDevice simulatorId name =>
      exact ⟨le_rfl, le_rfl, le_rfl, devicesDrawn_update fun _ => rfl⟩
  | shutdownDevice simulatorId site =>
      exact ⟨le_rfl, le_rfl, le_rfl, devicesDrawn_update fun _ => rfl⟩
  | bootDevice simulatorId =>
      exact ⟨le_rfl, le_rfl, le_rfl, devicesDrawn_update fun _ => rfl⟩
  | deleteDevice simulatorId site => exact ⟨le_rfl, le_rfl, le_rfl, devicesDrawn_delete⟩
  | _ => exact hrefl

theorem kept_effect (op : BrokerOp) (hkeeps : keepsHolders op = true) (world : World) :
    Kept world (op.effect world) := by
  refine ⟨?_, ?_, ?_, ?_, ?_, later_effect op world⟩ <;>
    cases op with
    | rename file => cases file <;> first | rfl | simp [keepsHolders] at hkeeps
    | _ => first | rfl | simp [keepsHolders] at hkeeps

theorem Settles.kept {surroundings : Surroundings} {before after : World}
    (hsettles : Settles surroundings before after) : Kept before after :=
  ⟨by rw [hsettles.store], by rw [hsettles.store], by rw [hsettles.store], by rw [hsettles.store],
    hsettles.ledger, surroundings.later hsettles.drift⟩

/-! ## Pins -/

theorem mem_setPin {store : Store} {record pin : Pin} :
    pin ∈ (store.setPin record).pins ↔
      pin = record ∨ pin ∈ store.pins ∧ pin.pinId ≠ record.pinId := by
  simp [Store.setPin]

/-- The pins may change to ones that are one for an alias, configured and compatible. -/
theorem Invariant.pinsChanged (hinvariant : Invariant context world) {pins : List Pin}
    (haliases : (pins.map (·.aliasName)).Nodup)
    (hconfigured : ∀ pin ∈ pins, pin.aliasName ∈ world.store.configuredAliases)
    (hcompatible : ∀ lease ∈ world.store.leases, ∀ pin ∈ pins, Compatible lease pin) :
    Invariant context { world with store := { world.store with pins } } where
  toConsistent := { hinvariant.toConsistent with
    pinAliases := haliases, pinConfigured := hconfigured, compatible := hcompatible }
  spared leaseId hleaseId := by
    obtain ⟨lease, hid, hlease⟩ := hinvariant.spared leaseId hleaseId
    exact ⟨lease, hid, ⟨⟨hlease.onDisk, hlease.notLeftover, hlease.adopted⟩, hlease.alive,
      hlease.since⟩⟩
  rolledBack leaseId hleaseId := by
    obtain ⟨hdrawn, hinactive, hleftover⟩ := hinvariant.rolledBack leaseId hleaseId
    exact ⟨hdrawn, ⟨hinactive, hleftover⟩⟩

theorem Invariant.pinWritten (hinvariant : Invariant context world) {record : Pin}
    (hok : PinWriteOk world record) :
    Invariant context (BrokerOp.effect (.rename (.pin record)) world) := by
  refine hinvariant.pinsChanged ?_ ?_ ?_
  · simp only [List.map_cons, List.nodup_cons]
    refine ⟨?_, nodup_map_filter hinvariant.pinAliases⟩
    simp only [List.mem_map, List.mem_filter, not_exists, not_and]
    rintro other ⟨hother, -⟩
    exact hok.unpinned other hother
  · intro pin hpin
    obtain rfl | ⟨hpin, -⟩ := mem_setPin.mp hpin
    · exact hok.configured
    · exact hinvariant.pinConfigured pin hpin
  · intro lease hlease pin hpin
    obtain rfl | ⟨hpin, -⟩ := mem_setPin.mp hpin
    · exact hok.compatible lease hlease
    · exact hinvariant.compatible lease hlease pin hpin

theorem Invariant.pinUnlinked (hinvariant : Invariant context world) (pinId : PinId) :
    Invariant context (BrokerOp.effect (.unlinkPin pinId) world) :=
  hinvariant.pinsChanged (nodup_map_filter hinvariant.pinAliases)
    (fun pin hpin => hinvariant.pinConfigured pin (List.mem_of_mem_filter hpin))
    fun lease hlease pin hpin => hinvariant.compatible lease hlease pin (List.mem_of_mem_filter hpin)

/-- The effect of an operation within its guard keeps the invariant. -/
theorem Invariant.effect (hinvariant : Invariant context world) {op : BrokerOp}
    (hok : StepOk context op world) : Invariant context (op.effect world) := by
  by_cases hkeeps : keepsHolders op = true
  · exact (kept_effect op hkeeps world).invariant hinvariant
  · cases op with
    | rename file =>
        cases file with
        | registry content note => exact hinvariant.registryWritten hok
        | hostConfig config => exact hinvariant.hostConfigWritten hok
        | lease record => exact hinvariant.leaseWritten hok
        | pin record => exact hinvariant.pinWritten hok
        | _ => exact absurd rfl hkeeps
    | unlinkLease leaseId site => exact hinvariant.leaseUnlinked hok
    | unlinkPin pinId => exact hinvariant.pinUnlinked pinId
    | _ => exact absurd rfl hkeeps

/-- Every answer to an operation within its guard keeps the invariant. -/
theorem Invariant.step {surroundings : Surroundings} {op : BrokerOp} {after : World}
    {answer : Except BrokerError op.Ret} (hinvariant : Invariant context world)
    (hok : StepOk context op world) (hstep : Answers surroundings op world answer after) :
    Invariant context after := by
  obtain ⟨-, hsettles⟩ | ⟨-, -, hsettles⟩ | ⟨-, -, -, hsettles⟩ := hstep
  · exact (Settles.kept hsettles).invariant (hinvariant.effect hok)
  · exact (Settles.kept hsettles).invariant hinvariant
  · exact (Settles.kept hsettles).invariant (hinvariant.effect hok)

end SimulatorBroker.Safety
