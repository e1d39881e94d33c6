import SimulatorBroker.Broker.Acquire

/-!
# Registering, containing and releasing a lease

The three commands that name a lease.  Each loads the state with the named lease
skipped: its owner is not examined.
-/

namespace SimulatorBroker.Broker

open SimulatorBroker.Effects
open SimulatorBroker.State

/-! ## Lease references -/

/-- `--lease-id` or `--lease-file`. -/
structure LeaseReference where
  leaseId : Option LeaseId := none
  leaseFile : Option ArtifactPath := none

/-- The lease id a lease file names; a missing file throws. -/
def readLeaseFileId (path : ArtifactPath) : Broker (Option LeaseId) := do
  match ← perform (.readArtifact path) with
  | some (.lease record) => return some record.leaseId
  | some (.other _ _) => return none
  | none => throw {}

def resolveLeaseId (reference : LeaseReference) : Broker (Option LeaseId) :=
  match reference.leaseId, reference.leaseFile with
  | some leaseId, _ => pure (some leaseId)
  | none, some path => readLeaseFileId path
  | none, none => pure none

def loadLeaseByIdOrFile (reference : LeaseReference) : Broker Lease := do
  match ← resolveLeaseId reference with
  | none => throw (.broker .missingLeaseReference)
  | some leaseId =>
      match ← perform (.readLease leaseId) with
      | none => throw (.broker .leaseNotFound)
      | some lease => return lease

/-! ## Registering a process -/

/-- The fields of a register request; for an optional field the outer `none` is
`undefined`, the inner one `null`. -/
structure RegisterOptions where
  reference : LeaseReference
  commandPid : Nat
  command : Option (Option RegisteredCommand) := none
  commandPgid : Option (Option Nat) := none
  ownerPgid : Option (Option Nat) := none
  ownerPid : Option Nat := none
  memoryCeilingBytes : Option Nat := none
  simulatorProcessNames : Option (List String) := none

/-- The `update` argument of `mergeLeaseRuntimeMetadata`. -/
structure RuntimeUpdate where
  command : Option (Option RegisteredCommand)
  commandRegisteredAt : Timestamp
  commandPgid : Option (Option Pid)
  commandPid : Pid
  memoryCeilingBytes : Option Nat
  ownerPgid : Option (Option Pid)
  ownerPid : Option Pid
  ownerRegisteredAt : Option Timestamp
  simulatorProcessNames : Option (List String)
  updatedAt : Timestamp

/-- A new command pid clears the command and its group unless they are given
too; an explicit `null` keeps what is there. -/
def mergeLeaseRuntimeMetadata (lease : Lease) (update : RuntimeUpdate) : LeaseRuntime :=
  let existing := buildLeaseRuntimeMetadata lease
  { command :=
      match update.command with
      | none => none
      | some command => (normalizeRegisteredCommand command).or existing.command
    commandRegisteredAt := some update.commandRegisteredAt
    commandPgid :=
      match update.commandPgid with
      | none => none
      | some commandPgid => positive? (commandPgid.or existing.commandPgid)
    commandPid := positive? (some update.commandPid)
    memoryCeilingBytes := positive? (update.memoryCeilingBytes.or existing.memoryCeilingBytes)
    ownerPgid :=
      match update.ownerPid, update.ownerPgid with
      | some _, none => none
      | _, ownerPgid => positive? (ownerPgid.join.or existing.ownerPgid)
    ownerPid := positive? ((update.ownerPid.or existing.ownerPid).or (some lease.ownerPid))
    ownerRegisteredAt := update.ownerRegisteredAt.or existing.ownerRegisteredAt
    simulatorProcessNames :=
      match update.simulatorProcessNames with
      | none => existing.simulatorProcessNames
      | some names => normalizeStringArray names
    updatedAt := some update.updatedAt }

def validateRegisteredCommandGroup (commandPid : Pid) (commandPgid : Option Pid) : Broker Unit :=
  match commandPgid with
  | none => pure ()
  | some commandPgid => do
      let records ← perform .sampleProcesses
      match records.find? fun record => record.pid = commandPid with
      | none => throw (.broker .invalidFlag)
      | some record =>
          if processLooksDefunct record then throw (.broker .invalidFlag)
          else if positive? record.pgid ≠ some commandPgid then throw (.broker .invalidFlag)
          else pure ()

/-- A flag that is checked only when it is given. -/
def checkOptionalFlag {β γ : Type} (check : β → Broker γ) : Option β → Broker (Option γ)
  | none => pure none
  | some value => do return some (← check value)

/-- The three optional flags, checked in the order of the source. -/
def checkRegisterFlags (options : RegisterOptions) :
    Broker (Option (Option Pid) × Option (Option Pid) × Option Pid) := do
  let commandPgid ← checkOptionalFlag optionalContainmentGroupInteger options.commandPgid
  let ownerPgid ← checkOptionalFlag optionalContainmentGroupInteger options.ownerPgid
  let ownerPid ← checkOptionalFlag requireContainmentRootInteger options.ownerPid
  return (commandPgid, ownerPgid, ownerPid)

/-- The lease with the registered process. -/
def registeredLease (lease : Lease) (options : RegisterOptions) (commandPid : Pid)
    (commandPgid ownerPgid : Option (Option Pid)) (ownerPid : Option Pid)
    (timestamp : Timestamp) : Lease :=
  { lease with
    ownerPid := ownerPid.getD lease.ownerPid
    runtime := mergeLeaseRuntimeMetadata lease {
      command := options.command
      commandRegisteredAt := timestamp
      commandPgid
      commandPid
      memoryCeilingBytes := options.memoryCeilingBytes
      ownerPgid
      ownerPid
      ownerRegisteredAt :=
        if ownerPid.isSome then some timestamp else lease.runtime.ownerRegisteredAt
      simulatorProcessNames := options.simulatorProcessNames
      updatedAt := timestamp } }

/-- `registerLeaseProcessBroker` under its lock; `timestamp` was read before the
lock was waited for. -/
def registerLeaseProcess (paths : BrokerPaths) (options : RegisterOptions)
    (timestamp : Timestamp) : Broker Lease := do
  let lease ← loadLeaseByIdOrFile options.reference
  let _ ← loadBrokerState paths { timestamp, skipLeaseIds := [lease.leaseId] }
  let commandPid ← requireContainmentRootInteger options.commandPid
  let (commandPgid, ownerPgid, ownerPid) ← checkRegisterFlags options
  validateRegisteredCommandGroup commandPid commandPgid.join
  validateRegisteredOwnerGroup (ownerPid.or lease.runtimeOwnerPid) ownerPgid.join ownerPgid.isSome
  let registered :=
    registeredLease lease options commandPid commandPgid ownerPgid ownerPid timestamp
  writeLeaseRecord paths registered
  let _ ← appendEventRecord
    { type := .leaseProcessRegistered, aliasName := lease.aliasName, leaseId := lease.leaseId
      timestamp }
  return registered

def registerLeaseProcessBroker (paths : BrokerPaths) (options : RegisterOptions)
    (timestamp : Timestamp) : Broker Lease :=
  withLock .lease (registerLeaseProcess paths options timestamp)

/-! ## Containing -/

/-- `containLeaseBroker` under its lock. -/
def containLease (paths : BrokerPaths) (reference : LeaseReference) (reason : ContainmentReason)
    (timestamp : Timestamp) : Broker Unit := do
  let lease ← loadLeaseByIdOrFile reference
  let state ← loadBrokerState paths { timestamp, skipLeaseIds := [lease.leaseId] }
  match ← containLeaseRecord paths state.registry lease reason (some timestamp) with
  | .incomplete _ => throw (.broker .containmentIncomplete)
  | .contained _ | .notContained _ => pure ()

def containLeaseBroker (paths : BrokerPaths) (reference : LeaseReference)
    (reason : ContainmentReason) (timestamp : Timestamp) : Broker Unit :=
  withLock .lease (containLease paths reference reason timestamp)

/-! ## Releasing -/

/-- Artifact, registry, lease file, in this order. -/
def removeReleasedLease (paths : BrokerPaths) (registry : Registry) (lease : Lease)
    (timestamp : Timestamp) : Broker Registry := do
  removeLeaseArtifactFile paths lease
  let released :=
    (registry.modify lease.aliasName (markAliasLeaseReleased timestamp)).touch timestamp
  if (registry.aliases lease.aliasName).isSome then
    writeRegistry released
    removeCanonicalLeaseRecordFile lease (.released timestamp)
    return released
  else
    removeCanonicalLeaseRecordFile lease (.released timestamp)
    return registry

/-- `releaseLeaseBroker` under its lock. -/
def releaseLease (paths : BrokerPaths) (reference : LeaseReference) : Broker Unit := do
  let timestamp ← perform .now
  let lease ← loadLeaseByIdOrFile reference
  let state ← loadBrokerState paths { timestamp, skipLeaseIds := [lease.leaseId] }
  assertLeaseArtifactPathAllowed paths lease.artifactPath
  let leaseFileSnapshot ← snapshotLeaseRecordFiles lease
  let registry ← tryCatch (removeReleasedLease paths state.registry lease timestamp) fun error => do
    ignoringErrors do
      restoreLeaseRecordFiles leaseFileSnapshot
      writeRegistry state.registry
    throw error
  let _ ← appendEventRecord
    { type := .leaseReleased, aliasName := lease.aliasName, leaseId := lease.leaseId, timestamp }
  if (state.entry lease.aliasName).isSome then
    let released := (state.withRegistry registry).forgetLease lease.aliasName
    let _ ← performSlotReclaim released timestamp
      { aliases := some [lease.aliasName], source := "lease-release" }

def releaseLeaseBroker (paths : BrokerPaths) (reference : LeaseReference) : Broker Unit :=
  withLock .lease (releaseLease paths reference)

end SimulatorBroker.Broker
