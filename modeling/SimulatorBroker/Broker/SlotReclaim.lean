import SimulatorBroker.Broker.Load

/-!
# Slot reclaim

`slot-reclaim.mjs` and `performSlotReclaim`: erasing free slots that are over a
limit of their class.
-/

namespace SimulatorBroker.Broker

open SimulatorBroker.Effects
open SimulatorBroker.State

/-! ## Locks -/

def withLock {α : Type} (name : LockName) (work : Broker α) : Broker α := do
  ensureStatePaths
  perform (.lock name)
  Program.ensuring work (perform (.unlock name))

/-! ## Policy -/

inductive ReclaimClass where
  | build
  | manual
  deriving DecidableEq, Repr

inductive ReclaimReason where
  | disk
  | leases
  | age
  deriving DecidableEq, Repr

def defaultReclaimClassPolicy (enabled : Bool) : ReclaimClassPolicy where
  enabled
  maxAgeSeconds := 86400
  maxDiskBytes := 8 * 1024 * 1024 * 1024
  maxLeasesSinceErase := 8

def defaultSlotReclaimPolicy : SlotReclaimPolicy where
  enabled := true
  build := defaultReclaimClassPolicy true
  manual := defaultReclaimClassPolicy false

def resolveSlotReclaimPolicy (policy : Option SlotReclaimPolicy) : SlotReclaimPolicy :=
  policy.getD defaultSlotReclaimPolicy

def reclaimClassPolicy (policy : SlotReclaimPolicy) : ReclaimClass → ReclaimClassPolicy
  | .build => policy.build
  | .manual => policy.manual

def classifyReclaimSlot (hostAlias : HostAlias) : Option ReclaimClass :=
  if hostAlias.resetPolicy = .eraseOnAcquire then none
  else if "manual-persistent" ∈ hostAlias.capabilities then some .manual
  else if "build-fast" ∈ hostAlias.capabilities then some .build
  else none

def isSlotHeldForReclaim (acquiring : Bool) (activeLease : Option Lease) (activePin : Option Pin)
    (entry : RegistryEntry) : Bool :=
  acquiring || activeLease.isSome || entry.activeLeaseId.isSome || activePin.isSome

def lastUsedAtForSlot (entry : RegistryEntry) : Option Timestamp :=
  [entry.lastLeaseReleasedAt, entry.lastLeaseStartedAt, entry.lastBootedAt].foldl
    (fun newest value =>
      match newest, value with
      | some newest, some value => some (max newest value)
      | newest, value => value.or newest) none

def evaluateSlotReclaim (className : Option ReclaimClass) (diskBytes : Option Nat)
    (entry : RegistryEntry) (now : Timestamp) (policy : SlotReclaimPolicy) :
    Option ReclaimReason :=
  match className with
  | none => none
  | some className =>
      let classPolicy := reclaimClassPolicy policy className
      if policy.enabled = false ∨ classPolicy.enabled = false then none
      else if diskBytes.any fun bytes => decide (classPolicy.maxDiskBytes ≤ bytes) then some .disk
      else if classPolicy.maxLeasesSinceErase ≤ entry.leasesSinceErase then some .leases
      else if (entry.lastErasedAt.or (lastUsedAtForSlot entry)).any
          fun anchor => decide (anchor + classPolicy.maxAgeSeconds * 1000 ≤ now) then some .age
      else none

def slotReclaimBlockedByRepair (entry : RegistryEntry) : Bool :=
  decide (entry.health = .repairNeeded) || decide (entry.health = .repairing)
    || decide (entry.driftReason = some "slot-reclaim-failed")

def slotReclaimBusyError (error : BrokerError) : Bool :=
  error.isBrokerError &&
    (decide (error.reasonCode = some .aliasBusy)
      || decide (error.reasonCode = some .resetLockTimeout))

/-! ## Reclaiming -/

/-- What the loop over the aliases carries; `listed` says that the shared device
listing was tried, `erased` are the aliases reclaimed so far. -/
structure ReclaimScan where
  registry : Registry
  eligibleCount : Nat := 0
  reclaimedCount : Nat := 0
  skippedHeldCount : Nat := 0
  failureCount : Nat := 0
  listed : Bool := false
  erased : List AliasName := []

structure ReclaimOptions where
  aliases : Option (List AliasName) := none
  acquiringAlias : Option AliasName := none
  persistNoChanges : Bool := false
  source : String

def slotReclaimStatus (reclaimedCount failureCount : Nat) : String :=
  if 0 < failureCount ∧ 0 < reclaimedCount then "partial"
  else if 0 < failureCount then "failed"
  else if 0 < reclaimedCount then "reclaimed"
  else "no_changes"

/-- A failed listing counts as an empty one. -/
def sharedDeviceListing (listed : Bool) : Broker Unit :=
  if listed then pure ()
  else ignoringErrors do let _ ← perform .listDevices

def measureAliasDiskBytes (simulatorId : SimulatorId) : Broker (Option Nat) :=
  tryCatch (perform (.measureDeviceDiskBytes simulatorId)) fun _ => pure none

/-- The entry after a successful reclaim. -/
def reclaimedEntry (timestamp : Timestamp) (entry : RegistryEntry) : RegistryEntry :=
  let settled :=
    if slotReclaimBlockedByRepair entry then entry
    else { entry with health := .healthy, driftReason := none }
  { resetLeasesSinceErase
      { settled with
        lastErasedAt := some timestamp, lastShutdownAt := some timestamp, powerState := .shutdown }
    with updatedAt := timestamp }

def reclaimFailedEntry (timestamp : Timestamp) (entry : RegistryEntry) : RegistryEntry :=
  { entry with
    health := .repairNeeded, driftReason := some "slot-reclaim-failed", updatedAt := timestamp }

def eraseSlot (hostAlias : HostAlias) (held : Bool) : Broker Unit :=
  withLock .reset do
    if held then throw (.broker .aliasBusy)
    perform (.shutdownDevice hostAlias.simulatorId .slotReclaim)
    perform (.eraseDevice hostAlias.simulatorId .slotReclaim)

/-- The erase of one eligible slot, and what it leaves in the registry. -/
def reclaimSlot (hostAlias : HostAlias) (held : Bool) (timestamp : Timestamp)
    (scan : ReclaimScan) : Broker ReclaimScan := do
  match ← (eraseSlot hostAlias held).attempt with
  | .ok () =>
      let _ ← appendEventRecord
        { type := .slotReclaimed, aliasName := hostAlias.aliasName, timestamp }
      return {
        scan with
        registry := scan.registry.modify hostAlias.aliasName (reclaimedEntry timestamp)
        reclaimedCount := scan.reclaimedCount + 1
        erased := hostAlias.aliasName :: scan.erased }
  | .error error =>
      if slotReclaimBusyError error then
        return {
          scan with
          skippedHeldCount := scan.skippedHeldCount + 1
          eligibleCount := scan.eligibleCount - 1 }
      else
        let _ ← appendEventRecord
          { type := .slotReclaimFailed, aliasName := hostAlias.aliasName, timestamp }
        return {
          scan with
          registry := scan.registry.modify hostAlias.aliasName (reclaimFailedEntry timestamp)
          failureCount := scan.failureCount + 1 }

/-- One turn of the loop of `performSlotReclaim`, for a configured alias. -/
def reclaimAlias (state : BrokerState) (policy : SlotReclaimPolicy)
    (acquiringAlias : Option AliasName) (timestamp : Timestamp) (scan : ReclaimScan)
    (hostAlias : HostAlias) : Broker ReclaimScan := do
  match scan.registry.aliases hostAlias.aliasName with
  | none => return scan
  | some entry =>
      let held := isSlotHeldForReclaim (decide (acquiringAlias = some hostAlias.aliasName))
        (state.leasesByAlias hostAlias.aliasName) (state.pinsByAlias hostAlias.aliasName) entry
      if held then
        return { scan with skippedHeldCount := scan.skippedHeldCount + 1 }
      else if slotReclaimBlockedByRepair entry then
        return scan
      else
        let className := classifyReclaimSlot hostAlias
        if className.any fun className => (reclaimClassPolicy policy className).enabled then
          sharedDeviceListing scan.listed
          let diskBytes ← measureAliasDiskBytes hostAlias.simulatorId
          let listed := { scan with listed := true }
          match evaluateSlotReclaim className diskBytes entry timestamp policy with
          | none => return listed
          | some _ =>
              reclaimSlot hostAlias held timestamp
                { listed with eligibleCount := scan.eligibleCount + 1 }
        else
          return scan

/-- The loop over the targets of the reclaim, if the policy is enabled. -/
def reclaimAliases (state : BrokerState) (timestamp : Timestamp) (options : ReclaimOptions) :
    Broker ReclaimScan :=
  let policy := resolveSlotReclaimPolicy state.hostConfig.slotReclaim
  let targetAliases := options.aliases.getD state.hostConfig.aliasNames
  if policy.enabled then
    (targetAliases.filterMap state.hostConfig.find).foldlM
      (reclaimAlias state policy options.acquiringAlias timestamp) { registry := state.registry }
  else pure { registry := state.registry }

/-- `lastReclaimResult`. -/
def ReclaimScan.result (scan : ReclaimScan) (timestamp : Timestamp) (source : String) :
    ReclaimResult where
  completedAt := timestamp
  eligibleCount := scan.eligibleCount
  failureCount := scan.failureCount
  reclaimedCount := scan.reclaimedCount
  skippedHeldCount := scan.skippedHeldCount
  source
  status := slotReclaimStatus scan.reclaimedCount scan.failureCount

/-- The state after the reclaim and what it reports. -/
def performSlotReclaim (state : BrokerState) (timestamp : Timestamp) (options : ReclaimOptions) :
    Broker (BrokerState × ReclaimResult) := do
  let scan ← reclaimAliases state timestamp options
  let lastReclaimResult := scan.result timestamp options.source
  if 0 < scan.reclaimedCount ∨ 0 < scan.failureCount ∨ options.persistNoChanges then
    let registry :=
      { scan.registry with lastReclaimResult := some lastReclaimResult, updatedAt := timestamp }
    writeRegistry registry { erased := scan.erased }
    return (state.withRegistry registry, lastReclaimResult)
  else
    return (state.withRegistry scan.registry, lastReclaimResult)

end SimulatorBroker.Broker
