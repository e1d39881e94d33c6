import Mathlib.Data.List.Sort
import SimulatorBroker.Broker.SlotReclaim

/-!
# Acquiring a lease

Candidate selection, the lease and registry writes, reset and boot on acquire,
and the rollback of a lease that could not be handed out.
-/

namespace SimulatorBroker.Broker

open SimulatorBroker.Effects
open SimulatorBroker.State

/-! ## Lifecycle adapter -/

/-- An adapter's foreign error becomes `simulator-action-failed`, its message
the cause. -/
def invokeLifecycleAdapter {α : Type} (action : Broker α) : Broker α :=
  tryCatch action fun error =>
    if error.isBrokerError then throw error
    else throw (.broker .simulatorActionFailed error.text)

def adapterBoot (hostAlias : HostAlias) : Broker Unit :=
  invokeLifecycleAdapter (perform (.bootDevice hostAlias.simulatorId))

def adapterWaitReady (hostAlias : HostAlias) : Broker Unit :=
  invokeLifecycleAdapter (perform (.waitForBooted hostAlias.simulatorId))

def adapterShutdown (hostAlias : HostAlias) (site : DeviceSite) : Broker Unit :=
  invokeLifecycleAdapter (perform (.shutdownDevice hostAlias.simulatorId site))

def adapterErase (hostAlias : HostAlias) : Broker Unit :=
  invokeLifecycleAdapter do
    perform (.shutdownDevice hostAlias.simulatorId .lifecycle)
    perform (.eraseDevice hostAlias.simulatorId .lifecycle)

/-! ## Flags -/

/-- `requireContainmentRootInteger`. -/
def requireContainmentRootInteger (value : Nat) : Broker Pid :=
  if 1 < value then pure value else throw (.broker .invalidFlag)

/-- `optionalContainmentGroupInteger`. -/
def optionalContainmentGroupInteger (value : Option Nat) : Broker (Option Pid) :=
  match value with
  | none => pure none
  | some value => if 1 < value then pure (some value) else throw (.broker .invalidFlag)

def validateRegisteredOwnerGroup (ownerPid : Option Pid) (ownerPgid : Option Pid)
    (requireLiveOwner : Bool) : Broker Unit :=
  match ownerPid, ownerPgid with
  | some ownerPid, some ownerPgid => do
      let records ← perform .sampleProcesses
      match records.find? fun record => record.pid = ownerPid with
      | none => if requireLiveOwner then throw (.broker .invalidFlag) else pure ()
      | some record =>
          if processLooksDefunct record then throw (.broker .invalidFlag)
          else if positive? record.pgid ≠ some ownerPgid then throw (.broker .invalidFlag)
          else pure ()
  | _, _ => pure ()

/-! ## Candidates -/

inductive CandidateReason where
  | aliasNotRequested
  | capabilityMismatch
  | requiresMismatch
  | pinnedForOtherProject
  | leaseConflict
  | unhealthyAlias
  deriving DecidableEq, Repr

structure Candidate where
  hostAlias : HostAlias
  index : Nat
  pin : Option Pin
  reasons : List CandidateReason
  entry : RegistryEntry

def satisfiesRequires (hostAlias : HostAlias) (requires : Option PurposeRequires) : Bool :=
  match requires with
  | none => true
  | some requires =>
      requires.deviceFamily.all (fun family => decide (hostAlias.deviceFamily = family))
        && requires.iosVersion.all (fun version => iosVersionSatisfies hostAlias.iosVersion version)

def leaseMatchesPin (projectId : ProjectId) (purposeId : PurposeId) (pin : Pin) : Bool :=
  decide (projectId = pin.projectId) && pin.purposeId.all fun pinned => decide (purposeId = pinned)

def reasonIf (condition : Bool) (reason : CandidateReason) : List CandidateReason :=
  if condition then [reason] else []

/-- A pinned alias is allowed when its own pin matches the request. -/
def candidateReasons (state : BrokerState) (purpose : Purpose) (project : ProjectConfig)
    (explicitAlias : Option AliasName) (hostAlias : HostAlias) (entry : RegistryEntry) :
    List CandidateReason :=
  reasonIf (explicitAlias.any fun name => decide (hostAlias.aliasName ≠ name)) .aliasNotRequested
    ++ reasonIf (decide (purpose.capability ∉ hostAlias.capabilities)) .capabilityMismatch
    ++ reasonIf (!satisfiesRequires hostAlias purpose.requires) .requiresMismatch
    ++ reasonIf ((state.pinsByAlias hostAlias.aliasName).any
        fun pin => !leaseMatchesPin project.projectId purpose.id pin) .pinnedForOtherProject
    ++ reasonIf (state.leasesByAlias hostAlias.aliasName).isSome .leaseConflict
    ++ reasonIf (decide (entry.health = .repairNeeded) || decide (entry.health = .repairing))
        .unhealthyAlias

def buildCandidateAnalysis (state : BrokerState) (purpose : Purpose) (project : ProjectConfig)
    (explicitAlias : Option AliasName) : List Candidate :=
  state.hostConfig.aliases.zipIdx.filterMap fun (hostAlias, index) =>
    (state.entry hostAlias.aliasName).map fun entry =>
      { hostAlias, index, pin := state.pinsByAlias hostAlias.aliasName
        reasons := candidateReasons state purpose project explicitAlias hostAlias entry, entry }

/-- Pinned, then booted, then shut down. -/
def Candidate.tier (candidate : Candidate) : Nat :=
  if candidate.pin.isSome then 0
  else if candidate.entry.powerState = .booted then 1
  else 2

/-- Every candidate of the tier has been released before. -/
def tierHasCompleteReleaseTimes (candidates : List Candidate) (tier : Nat) : Bool :=
  candidates.all fun candidate =>
    decide (candidate.tier ≠ tier) || candidate.entry.lastLeaseReleasedAt.isSome

/-- `left` is not sorted after `right`: by tier, inside a tier of complete
release times the latest release first, then by position. -/
def Candidate.notAfter (candidates : List Candidate) (left right : Candidate) : Bool :=
  if left.tier ≠ right.tier then decide (left.tier < right.tier)
  else
    let leftAt := left.entry.lastLeaseReleasedAt.getD 0
    let rightAt := right.entry.lastLeaseReleasedAt.getD 0
    if tierHasCompleteReleaseTimes candidates left.tier = true ∧ leftAt ≠ rightAt then
      decide (rightAt < leftAt)
    else decide (left.index ≤ right.index)

def sortCandidates (candidates : List Candidate) : List Candidate :=
  candidates.insertionSort fun left right => Candidate.notAfter candidates left right = true

/-! ## Selection -/

structure AcquireOptions where
  actorType : Option String := none
  aliasName : Option AliasName := none
  purposeId : PurposeId
  /-- `options.ownerPid`, or the parent of the client. -/
  ownerPid : Nat
  ownerPgid : Option Nat := none
  leaseFile : Option ArtifactPath := none
  memoryCeilingBytes : Option Nat := none
  simulatorProcessNames : List String := []

structure AcquireSelection where
  project : ProjectConfig
  purpose : Purpose
  selected : Candidate
  state : BrokerState

/-- The project is remembered under its id. -/
def rememberKnownProject (knownProjects : List ProjectConfig) (project : ProjectConfig) :
    Broker (List ProjectConfig) := do
  let remembered :=
    project :: knownProjects.filter fun other => other.projectId ≠ project.projectId
  writeKnownProjects remembered
  return remembered

def getPurpose (project : ProjectConfig) (purposeId : PurposeId) : Broker Purpose :=
  match project.purposes.find? fun purpose => purpose.id = purposeId with
  | none => throw (.broker .unknownPurpose)
  | some purpose => pure purpose

def acquireSelection (paths : BrokerPaths) (options : AcquireOptions) (timestamp : Timestamp) :
    Broker AcquireSelection := do
  let state ← loadBrokerState paths { timestamp }
  let project ← perform .readProject
  let knownProjects ← rememberKnownProject state.knownProjects project
  let purpose ← getPurpose project options.purposeId
  let analysis := buildCandidateAnalysis state purpose project options.aliasName
  match sortCandidates (analysis.filter fun candidate => candidate.reasons.isEmpty) with
  | [] => throw (.broker .noMatchingAlias)
  | selected :: _ =>
      return { project, purpose, selected, state := { state with knownProjects } }

/-! ## Rollback -/

/-- The entry of a lease that could not be handed out. -/
def rolledBackEntry (reason : String) (timestamp : Timestamp) (entry : RegistryEntry) :
    RegistryEntry :=
  { entry with
    activeLeaseId := none, health := .repairNeeded, driftReason := some reason
    updatedAt := timestamp }

/-- The registry is written before the lease file goes; `erased` are the aliases
whose erase is still to be recorded. -/
def rollbackAcquireLease (paths : BrokerPaths) (registry : Registry) (lease : Lease)
    (timestamp : Timestamp) (reason : String) (erased : List AliasName) : Broker Unit := do
  writeRegistry
    ((registry.modify lease.aliasName (rolledBackEntry reason timestamp)).touch timestamp)
    { erased }
  removeLeaseRecordFiles paths lease .rollback

/-- The error the rollback throws, if any, is only reported. -/
def rollbackAcquireLeaseFailureSafe (paths : BrokerPaths) (registry : Registry) (lease : Lease)
    (timestamp : Timestamp) (reason : String) (erased : List AliasName) : Broker Unit :=
  ignoringErrors (rollbackAcquireLease paths registry lease timestamp reason erased)

/-! ## Reset and boot -/

/-- How far a step of the acquire came: the registry in memory, the aliases
erased by it, and the error it threw. -/
structure AcquireProgress where
  registry : Registry
  erased : List AliasName := []
  error : Option BrokerError := none

/-- The entry after the simulator was erased for the lease. -/
def resetEntry (startedAt : Timestamp) (entry : RegistryEntry) : RegistryEntry :=
  { resetLeasesSinceErase
      { entry with
        health := .healthy, driftReason := none, lastErasedAt := some startedAt
        lastShutdownAt := some startedAt }
    with powerState := .shutdown, updatedAt := startedAt }

def maybeResetLeaseOnAcquire (registry : Registry) (lease : Lease) : Broker AcquireProgress := do
  if lease.resetPolicy ≠ .eraseOnAcquire then
    return { registry }
  else
    let erase := withLock .reset do
      perform (.shutdownDevice lease.simulatorId .resetOnAcquire)
      perform (.eraseDevice lease.simulatorId .resetOnAcquire)
    match ← erase.attempt with
    | .error error => return { registry, error := some error }
    | .ok () =>
        let reset :=
          (registry.modify lease.aliasName (resetEntry lease.startedAt)).touch lease.startedAt
        match ← (writeRegistry reset { erased := [lease.aliasName] }).attempt with
        | .error error =>
            return { registry := reset, erased := [lease.aliasName], error := some error }
        | .ok () => return { registry := reset }

/-- The entry after the simulator was booted for the lease. -/
def bootedEntry (startedAt : Timestamp) (entry : RegistryEntry) : RegistryEntry :=
  { entry with
    powerState := .booted, health := .healthy, driftReason := none
    lastBootedAt := some startedAt, updatedAt := startedAt }

def findHostAliasOrThrow (config : HostConfig) (name : AliasName) : Broker HostAlias :=
  match config.find name with
  | none => throw (.broker .unknownAlias)
  | some hostAlias => pure hostAlias

def maybeBootLeaseOnAcquire (config : HostConfig) (registry : Registry) (lease : Lease) :
    Broker AcquireProgress := do
  let booted := (registry.aliases lease.aliasName).any fun entry =>
    decide (entry.powerState = .booted)
  let ready : Broker Unit := do
    let hostAlias ← findHostAliasOrThrow config lease.aliasName
    if booted then adapterWaitReady hostAlias else adapterBoot hostAlias
  match ← ready.attempt with
  | .error error => return { registry, error := some error }
  | .ok () =>
      if booted then
        return { registry }
      else
        let running :=
          (registry.modify lease.aliasName (bootedEntry lease.startedAt)).touch lease.startedAt
        match ← (writeRegistry running).attempt with
        | .error error => return { registry := running, error := some error }
        | .ok () =>
            let _ ← appendEventRecord
              { type := .simulatorBooted, aliasName := lease.aliasName, leaseId := lease.leaseId
                timestamp := lease.startedAt }
            return { registry := running }

/-! ## The command -/

def acquiredLease (selection : AcquireSelection) (options : AcquireOptions) (leaseId : LeaseId)
    (ownerPid : Pid) (ownerPgid : Option Pid) (timestamp : Timestamp) : Lease where
  leaseId
  actorType := (options.actorType.or selection.purpose.defaultActorType).getD "unknown"
  aliasName := selection.selected.hostAlias.aliasName
  artifactPath := options.leaseFile
  ownerPid
  pinId := (selection.state.pinsByAlias selection.selected.hostAlias.aliasName).map (·.pinId)
  projectId := selection.project.projectId
  purposeId := selection.purpose.id
  resetPolicy := selection.selected.hostAlias.resetPolicy
  simulatorId := selection.selected.hostAlias.simulatorId
  startedAt := timestamp
  runtime := {
    memoryCeilingBytes := positive? options.memoryCeilingBytes
    ownerPgid
    ownerPid := some ownerPid
    ownerRegisteredAt := some timestamp
    simulatorProcessNames := normalizeStringArray options.simulatorProcessNames
    updatedAt := some timestamp }

/-- The entry that hands the alias to the lease. -/
def leasedEntry (leaseId : LeaseId) (timestamp : Timestamp) (entry : RegistryEntry) :
    RegistryEntry :=
  { entry with
    activeLeaseId := some leaseId, lastLeaseStartedAt := some timestamp, updatedAt := timestamp }

/-- Both lease files, then the registry; the files go if the registry fails. -/
def commitAcquiredLease (paths : BrokerPaths) (registry : Registry) (lease : Lease)
    (timestamp : Timestamp) : Broker Registry := do
  writeLeaseRecord paths lease false
  let leased :=
    (registry.modify lease.aliasName (leasedEntry lease.leaseId timestamp)).touch timestamp
  tryCatch (writeRegistry leased) fun error => do
    removeLeaseRecordFiles paths lease .rollback
    throw error
  return leased

def handOutLease (paths : BrokerPaths) (config : HostConfig) (registry : Registry) (lease : Lease)
    (timestamp : Timestamp) : Broker Unit := do
  let reset ← maybeResetLeaseOnAcquire registry lease
  match reset.error with
  | some _ =>
      rollbackAcquireLeaseFailureSafe paths reset.registry lease timestamp
        "reset-on-acquire-failed" reset.erased
      throw (.broker .resetOnAcquireFailed)
  | none =>
      let boot ← maybeBootLeaseOnAcquire config reset.registry lease
      match boot.error with
      | some _ =>
          rollbackAcquireLeaseFailureSafe paths boot.registry lease timestamp
            "boot-on-acquire-failed" boot.erased
          throw (.broker .bootOnAcquireFailed)
      | none => pure ()

/-- `acquireLeaseBroker` under its lock. -/
def acquireLease (paths : BrokerPaths) (options : AcquireOptions) : Broker Lease := do
  let timestamp ← perform .now
  let selection ← acquireSelection paths options timestamp
  let leaseId ← perform .randomUuid
  let ownerPid ← requireContainmentRootInteger options.ownerPid
  let ownerPgid ← optionalContainmentGroupInteger options.ownerPgid
  validateRegisteredOwnerGroup (some ownerPid) ownerPgid true
  let lease := acquiredLease selection options leaseId ownerPid ownerPgid timestamp
  assertLeaseArtifactPathUnused paths selection.state.leases lease.artifactPath (some leaseId)
  let (state, reclaim) ← performSlotReclaim selection.state timestamp
    { aliases := some [lease.aliasName], source := "lease-acquire" }
  if 0 < reclaim.failureCount then throw (.broker .slotReclaimFailed)
  let registry ← commitAcquiredLease paths state.registry lease timestamp
  handOutLease paths state.hostConfig registry lease timestamp
  let _ ← appendEventRecord
    { type := .leaseAcquired, aliasName := lease.aliasName, leaseId, timestamp }
  return lease

def acquireLeaseBroker (paths : BrokerPaths) (options : AcquireOptions) : Broker Lease :=
  withLock .lease (acquireLease paths options)

end SimulatorBroker.Broker
