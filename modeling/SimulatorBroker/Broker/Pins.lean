import SimulatorBroker.Broker.Acquire

/-!
# Pins

Creating and clearing the pin of an alias.
-/

namespace SimulatorBroker.Broker

open SimulatorBroker.Effects
open SimulatorBroker.State

structure PinOptions where
  aliasName : AliasName
  purposeId : PurposeId

def pinnedEntry (pinId : Option PinId) (timestamp : Timestamp) (entry : RegistryEntry) :
    RegistryEntry :=
  { entry with pinId, updatedAt := timestamp }

/-- The pin file, then the registry; the file goes if the registry fails. -/
def writePin (registry : Registry) (pin : Pin) (timestamp : Timestamp) : Broker Unit := do
  writeJsonAtomicRestricted (.pin pin)
  tryCatch
    (writeRegistry
      ((registry.modify pin.aliasName (pinnedEntry (some pin.pinId) timestamp)).touch timestamp))
    fun error => do
      perform (.unlinkPin pin.pinId)
      throw error
  let _ ← appendEventRecord { type := .pinCreated, aliasName := pin.aliasName, timestamp }

/-- The lease on the alias, read as a pin of its own project and purpose. -/
def leaseAllowsPin (project : ProjectConfig) (purpose : Purpose) (lease : Lease) : Bool :=
  decide (project.projectId = lease.projectId) && decide (purpose.id = lease.purposeId)

def assertAliasServesPurpose (hostAlias : HostAlias) (purpose : Purpose) : Broker Unit :=
  if purpose.capability ∉ hostAlias.capabilities
      ∨ satisfiesRequires hostAlias purpose.requires = false then
    throw (.broker .aliasPurposeMismatch)
  else pure ()

/-- The pin of the alias: the one that is there, or a new one. -/
def pinAlias (state : BrokerState) (project : ProjectConfig) (purpose : Purpose)
    (name : AliasName) (entry : RegistryEntry) (timestamp : Timestamp) : Broker Pin :=
  if entry.health = .repairNeeded ∨ entry.health = .repairing then
    throw (.broker .unhealthyAlias)
  else
    match state.pinsByAlias name with
    | some existing =>
        if existing.projectId = project.projectId ∧ existing.purposeId = some purpose.id then
          pure existing
        else throw (.broker .pinConflict)
    | none =>
        if (state.leasesByAlias name).any fun lease => !leaseAllowsPin project purpose lease then
          throw (.broker .leaseConflict)
        else do
          let pinId ← perform .randomUuid
          let pin : Pin := {
            pinId, aliasName := name, createdAt := timestamp, projectId := project.projectId
            purposeId := some purpose.id }
          writePin state.registry pin timestamp
          return pin

/-- `createPinBroker` under its lock. -/
def createPin (paths : BrokerPaths) (options : PinOptions) (timestamp : Timestamp) :
    Broker Pin := do
  let state ← loadBrokerState paths { timestamp }
  let project ← perform .readProject
  let _ ← rememberKnownProject state.knownProjects project
  let purpose ← getPurpose project options.purposeId
  let hostAlias ← findHostAliasOrThrow state.hostConfig options.aliasName
  assertAliasServesPurpose hostAlias purpose
  match state.entry hostAlias.aliasName with
  | none => throw {}
  | some entry => pinAlias state project purpose hostAlias.aliasName entry timestamp

def createPinBroker (paths : BrokerPaths) (options : PinOptions) (timestamp : Timestamp) :
    Broker Pin :=
  withLock .lease (createPin paths options timestamp)

/-- `clearPinBroker` under its lock. -/
def clearPin (paths : BrokerPaths) (name : AliasName) (timestamp : Timestamp) :
    Broker Unit := do
  let state ← loadBrokerState paths { timestamp }
  match state.pinsByAlias name with
  | none => throw (.broker .pinNotFound)
  | some pin =>
      match state.entry name with
      | none => throw {}
      | some _ =>
          writeRegistry ((state.registry.modify name (pinnedEntry none timestamp)).touch timestamp)
          perform (.unlinkPin pin.pinId)
          let _ ← appendEventRecord { type := .pinCleared, aliasName := pin.aliasName, timestamp }

def clearPinBroker (paths : BrokerPaths) (name : AliasName) (timestamp : Timestamp) :
    Broker Unit :=
  withLock .lease (clearPin paths name timestamp)

end SimulatorBroker.Broker
