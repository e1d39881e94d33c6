import SimulatorBroker.Paths.Overlap
import SimulatorBroker.Text.Utf8
import SimulatorBroker.Text.Value

/-!
# Writing a lease to its two files

A lease is written to its canonical file and, when it has one, to its artifact.  Each write is a
sequence of file system steps, any of which may fail and leave what the steps before it did.
-/

namespace SimulatorBroker.Artifacts

open SimulatorBroker.Text SimulatorBroker.Paths

/-! ## Steps on files -/

/-- Which of the two files of a lease a step is about. -/
inductive Target where
  | canonical
  | artifact
deriving DecidableEq

/-- The write itself, or the restoring after it failed. -/
inductive Attempt where
  | write
  | restore
deriving DecidableEq

/-- What is asked of the file system. -/
inductive FileStep where
  | read
  | makeDirectory
  | writeTemporary
  | restrictTemporary
  | rename
  | restrict
  | link
  | removeTemporary
  | remove
deriving DecidableEq

structure Step where
  attempt : Attempt
  target : Target
  step : FileStep
deriving DecidableEq

/-- The code of a failure: `EEXIST`, or another. -/
inductive Failure where
  | eexist
  | other
deriving DecidableEq

/-- Which steps fail, and how. -/
abbrev Faults : Type := Step → Option Failure

/-- The bytes of the two files, and of the temporary file of each write. -/
structure Disk where
  files : Target → Option Bytes
  temporary : Attempt → Target → Option Bytes

/-- A computation on the disk that may throw. -/
def FileM (ε α : Type) : Type :=
  Disk → Except ε α × Disk

namespace FileM

variable {ε δ α β : Type}

def pure (value : α) : FileM ε α := fun disk => (.ok value, disk)

def bind (first : FileM ε α) (rest : α → FileM ε β) : FileM ε β := fun disk =>
  match first disk with
  | (.ok value, disk) => rest value disk
  | (.error error, disk) => (.error error, disk)

instance : Monad (FileM ε) where
  pure := pure
  bind := bind

/-- `throw error`. -/
def throw (error : ε) : FileM ε α := fun disk => (.error error, disk)

/-- `try { work } catch (error) { handler }`. -/
def catching (work : FileM δ α) (handler : δ → FileM ε α) : FileM ε α := fun disk =>
  match work disk with
  | (.ok value, disk) => (.ok value, disk)
  | (.error error, disk) => handler error disk

/-- `try { work } finally { cleanup }`. -/
def ensuring (work : FileM ε α) (cleanup : FileM ε Unit) : FileM ε α := fun disk =>
  match work disk with
  | (result, disk) =>
      match cleanup disk with
      | (.ok (), disk) => (result, disk)
      | (.error error, disk) => (.error error, disk)

/-- What the disk holds. -/
def get : FileM ε Disk := fun disk => (.ok disk, disk)

@[simp] theorem pure_apply (value : α) (disk : Disk) :
    (Pure.pure value : FileM ε α) disk = (.ok value, disk) := rfl

theorem bind_apply (first : FileM ε α) (rest : α → FileM ε β) (disk : Disk) :
    (first >>= rest) disk =
      match first disk with
      | (.ok value, disk) => rest value disk
      | (.error error, disk) => (.error error, disk) := rfl

@[simp] theorem throw_apply (error : ε) (disk : Disk) :
    (throw error : FileM ε α) disk = (.error error, disk) := rfl

@[simp] theorem get_apply (disk : Disk) : (get : FileM ε Disk) disk = (.ok disk, disk) := rfl

/-- A computation that ends well goes on with the rest. -/
theorem bind_ok {first : FileM ε α} {disk reached : Disk} {value : α}
    (hfirst : first disk = (.ok value, reached)) (rest : α → FileM ε β) :
    (first >>= rest) disk = rest value reached := by
  rw [bind_apply, hfirst]

/-- A computation that throws skips the rest. -/
theorem bind_error {first : FileM ε α} {disk reached : Disk} {error : ε}
    (hfirst : first disk = (.error error, reached)) (rest : α → FileM ε β) :
    (first >>= rest) disk = (.error error, reached) := by
  rw [bind_apply, hfirst]

end FileM

/-- What a write throws. -/
inductive Cause where
  | artifactOverlap (overlap : ArtifactOverlap)
  | step (step : Step) (failure : Failure)
  | notJson (target : Target)
  | artifactPathExists
deriving DecidableEq

/-- The error of a lease write, with the failure of the restoring. -/
structure WriteError where
  cause : Cause
  restoreError : Option Cause
deriving DecidableEq

/-- One step; a failing step changes nothing. -/
def perform (faults : Faults) (step : Step) (effect : Disk → Disk) : FileM Cause Unit :=
  fun disk =>
    match faults step with
    | some failure => (.error (.step step failure), disk)
    | none => (.ok (), effect disk)

def Disk.setFile (disk : Disk) (target : Target) (content : Option Bytes) : Disk :=
  { disk with files := Function.update disk.files target content }

def Disk.setTemporary (disk : Disk) (attempt : Attempt) (target : Target)
    (content : Option Bytes) : Disk :=
  { disk with
    temporary := fun a t => if a = attempt ∧ t = target then content else disk.temporary a t }

/-- A rename of the temporary file over the file. -/
def Disk.rename (disk : Disk) (attempt : Attempt) (target : Target) : Disk :=
  (disk.setFile target (disk.temporary attempt target)).setTemporary attempt target none

/-! ## Writing and reading JSON files -/

/-- The bytes of `JSON.stringify(payload, null, 2)` and a line end. -/
def jsonBytes (payload : Value) : Bytes :=
  encode (stringifyIndented [] payload ++ ['\n'])

variable (faults : Faults)

/-- `writeJsonAtomic`. -/
def writeJsonAtomic (attempt : Attempt) (target : Target) (payload : Value) :
    FileM Cause Unit := do
  perform faults ⟨attempt, target, .makeDirectory⟩ fun disk => disk
  perform faults ⟨attempt, target, .writeTemporary⟩ fun disk =>
    disk.setTemporary attempt target (some (jsonBytes payload))
  perform faults ⟨attempt, target, .rename⟩ fun disk => disk.rename attempt target

/-- `writeJsonAtomicRestricted`. -/
def writeJsonAtomicRestricted (attempt : Attempt) (target : Target) (payload : Value) :
    FileM Cause Unit := do
  perform faults ⟨attempt, target, .makeDirectory⟩ fun disk => disk
  perform faults ⟨attempt, target, .writeTemporary⟩ fun disk =>
    disk.setTemporary attempt target (some (jsonBytes payload))
  perform faults ⟨attempt, target, .restrictTemporary⟩ fun disk => disk
  perform faults ⟨attempt, target, .rename⟩ fun disk => disk.rename attempt target
  perform faults ⟨attempt, target, .restrict⟩ fun disk => disk

/-- `fs.linkSync(tempPath, filePath)`, which does not replace a file. -/
def linkSync (attempt : Attempt) (target : Target) : FileM Cause Unit := do
  let disk ← FileM.get
  if (disk.files target).isSome then
    FileM.throw (.step ⟨attempt, target, .link⟩ .eexist)
  perform faults ⟨attempt, target, .link⟩ fun disk =>
    disk.setFile target (disk.temporary attempt target)

/-- `removeIfExists` of the temporary file of a write. -/
def removeTemporary (attempt : Attempt) (target : Target) : FileM Cause Unit := do
  let disk ← FileM.get
  if (disk.temporary attempt target).isSome then
    perform faults ⟨attempt, target, .removeTemporary⟩ fun disk =>
      disk.setTemporary attempt target none

/-- `writeJsonNoReplace`. -/
def writeJsonNoReplace (attempt : Attempt) (target : Target) (payload : Value) :
    FileM Cause Unit := do
  perform faults ⟨attempt, target, .makeDirectory⟩ fun disk => disk
  FileM.ensuring
    (do
      perform faults ⟨attempt, target, .writeTemporary⟩ fun disk =>
        disk.setTemporary attempt target (some (jsonBytes payload))
      linkSync faults attempt target)
    (removeTemporary faults attempt target)

/-- `removeIfExists` of a file. -/
def removeIfExists (attempt : Attempt) (target : Target) : FileM Cause Unit := do
  let disk ← FileM.get
  if (disk.files target).isSome then
    perform faults ⟨attempt, target, .remove⟩ fun disk => disk.setFile target none

/-- `existsSync(filePath) ? readJson(filePath) : null`. -/
def readIfExists (target : Target) : FileM Cause (Option Value) := do
  let disk ← FileM.get
  match disk.files target with
  | none => return none
  | some bytes =>
      perform faults ⟨.write, target, .read⟩ fun disk => disk
      match parse (decode bytes) with
      | none => FileM.throw (.notJson target)
      | some value => return some value

/-! ## Lease records -/

/-- What `snapshotLeaseRecordFiles` returns; `artifactPath` tells whether the lease has one. -/
structure Snapshot where
  artifactPath : Bool
  artifactRecord : Option Value
  canonicalRecord : Option Value

/-- `snapshotLeaseRecordFiles`. -/
def snapshotLeaseRecordFiles (artifactPath : Bool) : FileM Cause Snapshot := do
  let artifactRecord ← if artifactPath then readIfExists faults .artifact else pure none
  let canonicalRecord ← readIfExists faults .canonical
  return { artifactPath, artifactRecord, canonicalRecord }

/-- The first statement of `restoreLeaseRecordFiles`. -/
def restoreCanonicalFile (snapshot : Snapshot) : FileM Cause Unit :=
  match snapshot.canonicalRecord with
  | some record => writeJsonAtomicRestricted faults .restore .canonical record
  | none => removeIfExists faults .restore .canonical

/-- The rest of `restoreLeaseRecordFiles`. -/
def restoreArtifactFile (snapshot : Snapshot) : FileM Cause Unit :=
  if snapshot.artifactPath then
    match snapshot.artifactRecord with
    | some record => writeJsonAtomic faults .restore .artifact record
    | none => removeIfExists faults .restore .artifact
  else pure ()

/-- `restoreLeaseRecordFiles`. -/
def restoreLeaseRecordFiles (snapshot : Snapshot) : FileM Cause Unit := do
  restoreCanonicalFile faults snapshot
  restoreArtifactFile faults snapshot

/-- The write of the artifact, with the code of an existing file told apart. -/
def writeLeaseArtifact (leaseRecord : Value) (replaceArtifact : Bool) : FileM Cause Unit :=
  if replaceArtifact then writeJsonAtomic faults .write .artifact leaseRecord
  else
    FileM.catching (writeJsonNoReplace faults .write .artifact leaseRecord) fun error =>
      match error with
      | .step _ .eexist => FileM.throw .artifactPathExists
      | error => FileM.throw error

/-- A failure before or at the canonical write, which nothing restores. -/
def unrestored {α : Type} (work : FileM Cause α) : FileM WriteError α :=
  FileM.catching work fun cause => FileM.throw { cause, restoreError := none }

/-- What follows the canonical write: the artifact, and the restoring where it fails. -/
def writeArtifactOrRestore (leaseRecord : Value) (artifactPath replaceArtifact : Bool)
    (rollbackSnapshot : Snapshot) : FileM WriteError Unit :=
  FileM.catching
    (if artifactPath then writeLeaseArtifact faults leaseRecord replaceArtifact else pure ())
    fun cause => do
      let restoreError ← FileM.catching
        (do restoreLeaseRecordFiles faults rollbackSnapshot; return none)
        fun restoreError => return some restoreError
      FileM.throw { cause, restoreError }

/-- `writeLeaseRecord`, for what `leaseArtifactPathOverlap` says of the artifact path. -/
def writeLeaseRecord (overlap : Option ArtifactOverlap) (leaseRecord : Value)
    (artifactPath replaceArtifact : Bool) : FileM WriteError Unit := do
  if let some overlap := overlap then
    FileM.throw { cause := .artifactOverlap overlap, restoreError := none }
  let rollbackSnapshot ← unrestored (snapshotLeaseRecordFiles faults artifactPath)
  unrestored (writeJsonAtomicRestricted faults .write .canonical leaseRecord)
  writeArtifactOrRestore faults leaseRecord artifactPath replaceArtifact rollbackSnapshot

end SimulatorBroker.Artifacts
