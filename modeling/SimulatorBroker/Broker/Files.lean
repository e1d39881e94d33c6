import SimulatorBroker.Broker.Collation
import SimulatorBroker.State.World

/-!
# Writing the broker's files

The file writers of `broker-core/index.mjs`, one operation per file-system call,
and the reads that check what they read.
-/

namespace SimulatorBroker.Broker

open SimulatorBroker.Effects
open SimulatorBroker.State

/-- The paths a command was started with, as far as artifact paths are checked
against them: whether a path stays clear of broker state, and the form under
which two artifact paths are compared; and the locale of the process. -/
structure BrokerPaths where
  artifactPathAllowed : ArtifactPath → Bool := fun _ => true
  canonicalPathForComparison : ArtifactPath → ArtifactPath := id
  locale : Collation := .root

/-- `nowIso(options.now)`: a fixed time, or the clock. -/
def nowIso : Option Timestamp → Broker Timestamp
  | some fixed => pure fixed
  | none => perform .now

/-! ## Atomic replacement -/

def writeJsonAtomic (file : FileWrite) : Broker Unit := do
  perform (.fs .ensureDir)
  perform (.fs .writeTemp)
  perform (.rename file)

def writeJsonAtomicRestricted (file : FileWrite) : Broker Unit := do
  perform (.fs .ensureDir)
  perform (.fs .writeTemp)
  perform (.fs .chmodTemp)
  perform (.rename file)
  perform (.fs .chmodTarget)

/-- A failed call whose error is ignored. -/
def ignoringErrors (body : Broker Unit) : Broker Unit :=
  tryCatch body fun _ => pure ()

/-- Before the rename the temporary file is removed and the error says that
nothing was committed; once renamed there is no temporary file left, and the
error says that the host config was committed. -/
def writeJsonAtomicDurable (config : HostConfig) : Broker Unit := do
  perform (.fs .ensureDir)
  tryCatch
    (do
      perform (.fs .openTemp)
      tryCatch
        (do
          perform (.fs .writeTemp)
          perform (.fs .syncTemp)
          perform (.fs .closeTemp))
        fun error => do
          ignoringErrors (perform (.fs .closeTemp))
          throw error
      perform (.rename (.hostConfig config)))
    fun error => do
      perform (.fs .removeTemp)
      throw { error with hostConfigCommitted := false }
  tryCatch
    (do
      perform (.fs .openDirectory)
      Program.ensuring (perform (.fs .syncDirectory)) (perform (.fs .closeTemp)))
    fun error => throw { error with hostConfigCommitted := true }

/-- The temporary file is linked to the path, which must be free. -/
def writeJsonNoReplace (path : ArtifactPath) (record : Lease) : Broker Unit := do
  perform (.fs .ensureDir)
  Program.ensuring
    (do
      perform (.fs .writeTemp)
      perform (.linkArtifact path record))
    (perform (.fs .removeTemp))

def writeHostConfig (config : HostConfig) : Broker Unit :=
  writeJsonAtomicRestricted (.hostConfig config)

def writeRegistry (registry : Registry) (note : RegistryNote := {}) : Broker Unit :=
  writeJsonAtomicRestricted (.registry registry note)

def writeKnownProjects (projects : List ProjectConfig) : Broker Unit :=
  writeJsonAtomicRestricted (.knownProjects projects)

/-- The registry write of the idle commands: its error becomes an internal one. -/
def writeIdleRegistry (registry : Registry) : Broker Unit :=
  tryCatch (writeRegistry registry) fun _ => throw (.broker .internalError)

/-! ## Reading the host config -/

/-- `validateHostConfig`: what is pending is listed once. -/
def validateHostConfig (config : HostConfig) : Broker HostConfig :=
  if config.Valid then pure { config with pendingRetirements := config.pendingRetirements.dedup }
  else throw (.broker .invalidConfig)

def readHostConfigOrThrow : Broker HostConfig := do
  match ← perform .readHostConfig with
  | none => throw (.broker .missingHostConfig)
  | some config => validateHostConfig config

/-! ## Lease files -/

def assertLeaseArtifactPathAllowed (paths : BrokerPaths) (path : Option ArtifactPath) :
    Broker Unit :=
  match path with
  | none => pure ()
  | some path =>
      if paths.artifactPathAllowed path then pure () else throw (.broker .invalidLeaseArtifactPath)

def assertLeaseArtifactPathUnused (paths : BrokerPaths) (activeLeases : List Lease)
    (path : Option ArtifactPath) (ignoredLeaseId : Option LeaseId := none) : Broker Unit :=
  match path with
  | none => pure ()
  | some path =>
      if activeLeases.any fun lease =>
          decide (some lease.leaseId ≠ ignoredLeaseId) &&
            lease.artifactPath.any fun other =>
              paths.canonicalPathForComparison other = paths.canonicalPathForComparison path
      then throw (.broker .leaseArtifactPathInUse)
      else pure ()

def removeArtifact (lease : Lease) : Broker Unit :=
  match lease.artifactPath with
  | none => pure ()
  | some path => perform (.unlinkArtifact path)

def removeLeaseRecordFiles (paths : BrokerPaths) (lease : Lease) (site : UnlinkSite) :
    Broker Unit := do
  assertLeaseArtifactPathAllowed paths lease.artifactPath
  perform (.unlinkLease lease.leaseId site)
  removeArtifact lease

def removeLeaseArtifactFile (paths : BrokerPaths) (lease : Lease) : Broker Unit := do
  assertLeaseArtifactPathAllowed paths lease.artifactPath
  removeArtifact lease

def removeCanonicalLeaseRecordFile (lease : Lease) (site : UnlinkSite) : Broker Unit :=
  perform (.unlinkLease lease.leaseId site)

/-- What stood at the two paths of a lease before a write. -/
structure LeaseFilesSnapshot where
  leaseId : LeaseId
  canonical : Option Lease
  artifactPath : Option ArtifactPath
  artifact : Option ArtifactContent

/-- `readJsonIfExists(lease.artifactPath)`. -/
def readLeaseArtifact (lease : Lease) : Broker (Option ArtifactContent) :=
  match lease.artifactPath with
  | none => pure none
  | some path => perform (.readArtifact path)

def snapshotLeaseRecordFiles (lease : Lease) : Broker LeaseFilesSnapshot := do
  let artifact ← readLeaseArtifact lease
  let canonical ← perform (.readLease lease.leaseId)
  return { leaseId := lease.leaseId, canonical, artifactPath := lease.artifactPath, artifact }

def restoreLeaseRecordFiles (snapshot : LeaseFilesSnapshot) : Broker Unit := do
  match snapshot.canonical with
  | some record => writeJsonAtomicRestricted (.lease record)
  | none => perform (.unlinkLease snapshot.leaseId .rollback)
  match snapshot.artifactPath with
  | none => pure ()
  | some path =>
      match snapshot.artifact with
      | some content => writeJsonAtomic (.artifact path content)
      | none => perform (.unlinkArtifact path)

/-- The end of `restoreLeaseRecordFiles`. -/
def restoreArtifactFile (snapshot : LeaseFilesSnapshot) : Broker Unit :=
  match snapshot.artifactPath with
  | none => pure ()
  | some path =>
      match snapshot.artifact with
      | some content => writeJsonAtomic (.artifact path content)
      | none => perform (.unlinkArtifact path)

def writeLeaseArtifact (lease : Lease) (replaceArtifact : Bool) : Broker Unit :=
  match lease.artifactPath with
  | none => pure ()
  | some path =>
      if replaceArtifact then writeJsonAtomic (.artifact path (.lease lease))
      else
        tryCatch (writeJsonNoReplace path lease) fun error =>
          if error.alreadyExists then throw (.broker .leaseArtifactPathExists) else throw error

/-- Only a failed artifact write restores the files; a canonical write that
fails after its rename leaves the new record in place. -/
def writeLeaseRecord (paths : BrokerPaths) (lease : Lease) (replaceArtifact : Bool := true) :
    Broker Unit := do
  assertLeaseArtifactPathAllowed paths lease.artifactPath
  let rollbackSnapshot ← snapshotLeaseRecordFiles lease
  writeJsonAtomicRestricted (.lease lease)
  tryCatch (writeLeaseArtifact lease replaceArtifact) fun error => do
    ignoringErrors (restoreLeaseRecordFiles rollbackSnapshot)
    throw error

/-! ## Audit events -/

def recordAuditAppendFailure : Broker Unit :=
  ignoringErrors (perform (.fs .recordAuditAppendFailure))

/-- Whether the event was appended; a failed append never fails the command. -/
def appendEventRecord (event : Event) : Broker Bool :=
  tryCatch
    (do
      perform (.appendEvent event)
      return true)
    fun _ => do
      recordAuditAppendFailure
      return false

end SimulatorBroker.Broker
