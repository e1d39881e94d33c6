import SimulatorBroker.Lock.World

/-!
# Waiting for a lock

The lease mutation lock, the capacity lock and the reset lock share their snapshot, their
reclaim and, but for the order of a few checks, their waiting loop.  A round of a process
is one turn of the loop, or its own release.
-/

namespace SimulatorBroker.Lock

open SimulatorBroker.Effects

abbrev LockProgram : Type → Type := Program lockSignature LockError

def call (op : LockOp) : LockProgram op.Ret :=
  @Program.request lockSignature LockError op

inductive LockKind where
  | leaseMutation
  | capacity
  | reset
  deriving DecidableEq, Repr

/-- The options of a caller. -/
structure LockOptions where
  wait : Bool := true
  timeoutMs : Time := 60000
  reclaimTimeoutMs : Time := 60000
  checksCancellation : Bool := false
  deriving DecidableEq, Repr

/-! ## Files -/

/-- `readJsonIfExists`: a file that goes away between the two calls counts as missing. -/
def readJsonIfExists {α : Type} (exists_ : LockProgram Bool) (readJson : LockProgram α) :
    LockProgram (Option α) :=
  tryCatch
    (do
      if ← exists_ then
        let value ← readJson
        return some value
      else return none)
    fun
      | .enoent => return none
      | error => throw error

def readOwner : LockProgram (Option Pid) :=
  readJsonIfExists (call .ownerExists) (call .readOwner)

/-- A file that is not yet written cannot be parsed. -/
def readMarkerJson (name : MarkerName) : LockProgram Token := do
  match ← call (.readMarker name) with
  | some token => return token
  | none => throw .syntaxError

def readMarker (name : MarkerName) : LockProgram (Option Token) :=
  readJsonIfExists (call (.markerExists name)) (readMarkerJson name)

def removeIfExists (name : MarkerName) : LockProgram Unit := do
  if ← call (.markerExists name) then
    call (.unlinkMarker name)

/-- The body, or nothing where something is missing. -/
def orMissing {α : Type} (body : LockProgram α) : LockProgram (Option α) :=
  tryCatch
    (do
      let value ← body
      return some value)
    fun
      | .enoent => return none
      | error => throw error

/-- The time of a file, or of the directory when the file is not there. -/
def readLockOwnerTimestampMs (exists_ : LockProgram Bool) (statFile : LockProgram Time) :
    LockProgram (Option Time) :=
  orMissing do
    if ← exists_ then statFile
    else
      let stats ← call .statDirectory
      return stats.changedAt

def readPathIdentity (statPath : LockProgram Stats) : LockProgram (Option Identity) :=
  orMissing do
    let stats ← statPath
    return stats.identity

def writeJsonAtomicRestricted : LockProgram Unit := do
  call .ensureDirectory
  let token ← call .randomUUID
  call (.writeTemp token)
  call (.chmodTemp token)
  call (.renameTemp token)
  call .chmodOwner

/-! ## Recursive removal -/

def unlinkEntries : List LockEntry → LockProgram Unit
  | [] => return ()
  | entry :: rest => do
      call (.unlinkEntry entry)
      unlinkEntries rest

/-- The directory goes once it is empty: its entries are listed, unlinked one by one, and it is
removed again. -/
def removeTree (site : RemovalSite) : LockProgram Unit :=
  tryCatch (call .removeDirectory) fun
    | .enotempty => do
        let entries ← call .listDirectory
        unlinkEntries entries
        call (.removeListed site)
    | error => throw error

/-- `fs.rmSync`, with `force` and `recursive` and without retries. -/
def removeRecursively (site : RemovalSite) : LockProgram Unit :=
  tryCatch (removeTree site) fun
    | .enoent => return ()
    | error => throw error

/-! ## Snapshots -/

structure LockSnapshot where
  abandonedOwner : Bool
  hasOwnerPid : Bool
  lockIdentity : Option Identity
  ownerTimestamp : Option Time
  released : Bool
  staleOwner : Bool
  deriving DecidableEq, Repr

/-- `Date.now() - timestamp > timeoutMs`. -/
def olderThan (timeoutMs now : Time) (timestamp : Option Time) : Bool :=
  timestamp.any fun changedAt => decide (changedAt + timeoutMs < now)

def ownerIsStale : Option Pid → LockProgram Bool
  | none => return false
  | some pid => do
      let live ← call (.processIsLive pid)
      return !live

def readLockSnapshot (timeoutMs : Time) : LockProgram LockSnapshot := do
  let owner ← readOwner
  let staleOwner ← ownerIsStale owner
  let ownerTimestamp ← readLockOwnerTimestampMs (call .ownerExists)
    (call .statOwner)
  let lockIdentity ← readPathIdentity (call .statDirectory)
  let now ← call .now
  return {
    abandonedOwner := owner.isNone && olderThan timeoutMs now ownerTimestamp
    hasOwnerPid := owner.isSome
    lockIdentity
    ownerTimestamp
    released := ownerTimestamp.isNone || lockIdentity.isNone
    staleOwner }

/-- `samePathIdentity`: a missing path is the same as none. -/
def samePathIdentity (left right : Option Identity) : Bool :=
  left.isSome && decide (left = right)

/-! ## The reclaim marker -/

def writeLockReclaimMarker (token : Token) : LockProgram Token := do
  let file ← call .openMarker
  call (.writeMarker file token)
  call .chmodMarker
  return token

def restoreClaimedLockReclaimMarker (token : Token) : LockProgram Unit :=
  Program.ensuring
    (tryCatch (call (.linkMarker token)) fun
      | .eexist => return ()
      | .enoent => return ()
      | error => throw error)
    (removeIfExists (.claimed token))

/-- Take over a marker that is too old. -/
def takeOverMarker (token : Token) (markerIdentity : Option Identity)
    (markerOwner : Option Token) : LockProgram (Option Token) := do
  match ← orMissing (call (.renameMarker token)) with
  | none => return none
  | some () =>
      let claimedIdentity ← readPathIdentity (call (.statMarker (.claimed token)))
      let claimedOwner ← readMarker (.claimed token)
      if samePathIdentity markerIdentity claimedIdentity && markerOwner.isSome
          && decide (markerOwner = claimedOwner) then
        Program.ensuring
          (tryCatch
            (do
              let written ← writeLockReclaimMarker token
              return some written)
            fun
              | .enoent => return none
              | .eexist => return none
              | error => throw error)
          (removeIfExists (.claimed token))
      else
        restoreClaimedLockReclaimMarker token
        return none

/-- Another process has a marker: take it over when it is too old. -/
def contendForMarker (token : Token) (timeoutMs : Time) : LockProgram (Option Token) := do
  let markerTimestamp ← readLockOwnerTimestampMs (call (.markerExists .current))
    (do
      let stats ← call (.statMarker .current)
      return stats.changedAt)
  let markerIdentity ← readPathIdentity (call (.statMarker .current))
  let markerOwner ← readMarker .current
  let now ← call .now
  if markerIdentity.isSome && olderThan timeoutMs now markerTimestamp then
    takeOverMarker token markerIdentity markerOwner
  else return none

def acquireLockReclaimMarker (timeoutMs : Time) : LockProgram (Option Token) := do
  let token ← call .randomUUID
  tryCatch
    (do
      let written ← writeLockReclaimMarker token
      return some written)
    fun
      | .enoent => return none
      | .eexist => contendForMarker token timeoutMs
      | error => throw error

def removeLockReclaimMarkerIfOwned (token : Token) : LockProgram Unit := do
  let owner ← readMarker .current
  if owner = some token then removeIfExists .current

/-! ## Reclaiming -/

/-- What a reclaim comes to: nothing, a lock that is already gone, or a lock that is to be
removed. -/
inductive Reclaim where
  | kept
  | released
  | remove
  deriving DecidableEq, Repr

/-- The second look, with the marker in hand. -/
def judgeStaleLock (previous : LockSnapshot) (timeoutMs : Time) : LockProgram Reclaim := do
  let latest ← readLockSnapshot timeoutMs
  if latest.released then return .released
  let now ← call .now
  let stillAbandonedWithoutOwner := !latest.hasOwnerPid && !previous.hasOwnerPid
    && samePathIdentity latest.lockIdentity previous.lockIdentity
    && olderThan timeoutMs now previous.ownerTimestamp
  if latest.staleOwner || latest.abandonedOwner || stillAbandonedWithoutOwner then
    return .remove
  else return .kept

/-- The marker is taken away again unless the removal takes it. -/
def reclaimStaleLock (previous : LockSnapshot) (timeoutMs : Time) : LockProgram Bool := do
  match ← acquireLockReclaimMarker timeoutMs with
  | none => return false
  | some token =>
      match ← (judgeStaleLock previous timeoutMs).attempt with
      | .ok .remove => do
          removeRecursively .reclaim
          return true
      | .ok .released => do
          removeLockReclaimMarkerIfOwned token
          return true
      | .ok .kept => do
          removeLockReclaimMarkerIfOwned token
          return false
      | .error error => do
          removeLockReclaimMarkerIfOwned token
          throw error

/-! ## The loop -/

inductive LockTurn where
  | entering (options : LockOptions)
  | waiting (options : LockOptions) (startedAt : Time)
  | holding
  deriving DecidableEq, Repr

def setUp : LockProgram Unit := do
  call .mkdir
  call .chmodDirectory
  writeJsonAtomicRestricted

def LockKind.heldError : LockKind → BrokerError
  | .capacity => ⟨.capacityApplyBlocked, "The capacity reconcile lock is already held."⟩
  | _ => ⟨.aliasBusy, "The broker lease mutation lock is already held."⟩

def LockKind.timeoutError : LockKind → BrokerError
  | .leaseMutation => ⟨.aliasBusy, "Timed out waiting for the broker lease mutation lock."⟩
  | .capacity => ⟨.capacityApplyBlocked, "Timed out waiting for the capacity reconcile lock."⟩
  | .reset => ⟨.resetLockTimeout, "Timed out waiting for the simulator reset lock."⟩

/-- Only the capacity lock has a time of its own for reclaiming. -/
def LockKind.reclaimTimeoutMs (kind : LockKind) (options : LockOptions) : Time :=
  match kind with
  | .capacity => options.reclaimTimeoutMs
  | _ => options.timeoutMs

def checkCancellation (options : LockOptions) : LockProgram Unit :=
  if options.checksCancellation then call .checkCancellation else pure ()

/-- The lock is held and cannot be reclaimed now. -/
def keepWaiting (kind : LockKind) (options : LockOptions) (startedAt : Time) :
    LockProgram (LockTurn ⊕ Unit) := do
  if kind = .leaseMutation ∧ options.wait = false then throw (.broker kind.heldError)
  let now ← call .now
  if startedAt + options.timeoutMs < now then throw (.broker kind.timeoutError)
  checkCancellation options
  return .inl (.waiting options startedAt)

/-- Somebody else has made the directory. -/
def contendForLock (kind : LockKind) (options : LockOptions) (startedAt : Time) :
    LockProgram (LockTurn ⊕ Unit) := do
  if kind = .capacity ∧ options.wait = false then throw (.broker kind.heldError)
  let snapshot ← readLockSnapshot (kind.reclaimTimeoutMs options)
  if snapshot.released then return .inl (.waiting options startedAt)
  if snapshot.staleOwner || snapshot.abandonedOwner then
    if ← reclaimStaleLock snapshot (kind.reclaimTimeoutMs options) then
      return .inl (.waiting options startedAt)
    else keepWaiting kind options startedAt
  else keepWaiting kind options startedAt

/-- One turn of the waiting loop.  The caller's cancellation check is that of the lease
mutation and the capacity lock. -/
def waitForLock (kind : LockKind) (options : LockOptions) (startedAt : Time) :
    LockProgram (LockTurn ⊕ Unit) := do
  checkCancellation options
  match ← setUp.attempt with
  | .ok () => return .inl .holding
  | .error .eexist => contendForLock kind options startedAt
  | .error error => throw error

def removeLockIfOwned (self : Pid) : LockProgram Unit := do
  let owner ← readOwner
  if owner = none ∨ owner = some self then removeRecursively .release

def lockRound (kind : LockKind) (self : Pid) : LockTurn → LockProgram (LockTurn ⊕ Unit)
  | .entering options => do
      let startedAt ← call .now
      return .inl (.waiting options startedAt)
  | .waiting options startedAt => waitForLock kind options startedAt
  | .holding => do
      removeLockIfOwned self
      return .inr ()

/-- The options that the callers of a lock can give. -/
def LockKind.Allows : LockKind → LockOptions → Prop
  | .reset, options => options.wait = true ∧ options.checksCancellation = false
  | _, _ => True

/-- Any number of processes that work with one lock directory.  A process that crashes
stays so; time passes between any two steps. -/
def lockScheduler (kind : LockKind) (handler : Pid → Handler lockSignature LockError LockWorld) :
    Scheduler lockSignature LockError LockTurn Unit Pid LockWorld where
  handler := handler
  round := lockRound kind
  starts self state world :=
    world.crashed self = false ∧ ∃ options, kind.Allows options ∧ state = .entering options
  stop self world := { world with crashed := Function.update world.crashed self true }
  outside before after := ∃ clock, before.clock ≤ clock ∧ after = { before with clock }

end SimulatorBroker.Lock
