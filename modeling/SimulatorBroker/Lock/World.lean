import Mathlib.Data.List.Defs
import SimulatorBroker.Effects.Concurrent

/-!
# The lock directory

A lock is a directory with an owner file and, while somebody reclaims it, a marker file.
Every call of the file system is one step on it; a recursive removal lists the entries in
any order, unlinks one after the other and then removes the directory, which fails where
an entry has appeared since.
-/

namespace SimulatorBroker.Lock

open SimulatorBroker.Effects

/-- Milliseconds. -/
abbrev Time : Type := Nat

abbrev Pid : Type := Nat

/-- Random identifiers: each is drawn once. -/
abbrev Token : Type := Nat

/-- What `stat` says of a file or a directory beside its time. -/
abbrev Identity : Type := Nat

/-- The reclaim marker, or the name it has while somebody takes it over. -/
inductive MarkerName where
  | current
  | claimed (token : Token)
  deriving DecidableEq, Repr

/-- A marker file; it is created empty and written in a second call. -/
structure MarkerFile where
  token : Option Token := none
  changedAt : Time := 0
  deriving DecidableEq, Repr

structure OwnerFile where
  pid : Pid
  changedAt : Time
  deriving DecidableEq, Repr

/-- A lock directory.  `maker` and `settled` are kept for the proofs: who made it, and
whether that process has finished writing its owner file. -/
structure LockDirectory where
  identity : Identity
  maker : Pid
  changedAt : Time
  settled : Bool := false
  owner : Option OwnerFile := none
  markers : List (MarkerName × Identity) := []
  temps : List (Token × Time) := []
  deriving DecidableEq, Repr

structure LockWorld where
  directory : Option LockDirectory := none
  markerFiles : Identity → MarkerFile := fun _ => {}
  clock : Time := 0
  fresh : Nat := 0
  crashed : Pid → Bool := fun _ => false

inductive LockReason where
  | aliasBusy
  | capacityApplyBlocked
  | resetLockTimeout
  deriving DecidableEq, Repr

structure BrokerError where
  reasonCode : LockReason
  message : String
  deriving DecidableEq, Repr

/-- What a call may throw: a code of the file system, a parse error, an error of the
broker, or the error of the caller's cancellation check. -/
inductive LockError where
  | enoent
  | eexist
  | enotempty
  | syntaxError
  | broker (error : BrokerError)
  | cancelled
  deriving DecidableEq, Repr

/-! ## Operations -/

structure Stats where
  changedAt : Time
  identity : Identity
  deriving DecidableEq, Repr

/-- A name in the lock directory. -/
inductive LockEntry where
  | owner
  | marker (name : MarkerName)
  | temp (token : Token)
  deriving DecidableEq, Repr

/-- Whether a lock is removed by a process that waits for it, or by its owner. -/
inductive RemovalSite where
  | reclaim
  | release
  deriving DecidableEq, Repr

inductive LockOp where
  | checkCancellation
  | now
  | randomUUID
  | processIsLive (pid : Pid)
  | mkdir
  | chmodDirectory
  | ensureDirectory
  | statDirectory
  | writeTemp (token : Token)
  | chmodTemp (token : Token)
  | renameTemp (token : Token)
  | chmodOwner
  | ownerExists
  | readOwner
  | statOwner
  | markerExists (name : MarkerName)
  | readMarker (name : MarkerName)
  | statMarker (name : MarkerName)
  | openMarker
  | writeMarker (file : Identity) (token : Token)
  | chmodMarker
  | renameMarker (token : Token)
  | linkMarker (token : Token)
  | unlinkMarker (name : MarkerName)
  | removeDirectory
  | listDirectory
  | unlinkEntry (entry : LockEntry)
  | removeListed (site : RemovalSite)
  deriving DecidableEq, Repr

abbrev LockOp.Ret : LockOp → Type
  | .now => Time
  | .randomUUID => Token
  | .processIsLive _ => Bool
  | .statDirectory => Stats
  | .ownerExists => Bool
  | .readOwner => Pid
  | .statOwner => Time
  | .markerExists _ => Bool
  | .readMarker _ => Option Token
  | .statMarker _ => Stats
  | .openMarker => Identity
  | .listDirectory => List LockEntry
  | _ => Unit

abbrev lockSignature : Signature where
  Op := LockOp
  Ret := LockOp.Ret

/-! ## Steps -/

namespace LockDirectory

def markerFile (directory : LockDirectory) (name : MarkerName) : Option Identity :=
  (directory.markers.find? (·.1 = name)).map (·.2)

def withoutMarker (directory : LockDirectory) (name : MarkerName) : LockDirectory :=
  { directory with markers := directory.markers.filter (·.1 ≠ name) }

def withMarker (directory : LockDirectory) (name : MarkerName) (file : Identity) :
    LockDirectory :=
  { directory with markers := (name, file) :: directory.markers.filter (·.1 ≠ name) }

def entries (directory : LockDirectory) : List LockEntry :=
  directory.owner.toList.map (fun _ => .owner) ++ directory.markers.map (fun marker => .marker marker.1)
    ++ directory.temps.map fun temp => .temp temp.1

def without (directory : LockDirectory) : LockEntry → LockDirectory
  | .owner => { directory with owner := none }
  | .marker name => directory.withoutMarker name
  | .temp token => { directory with temps := directory.temps.filter (·.1 ≠ token) }

end LockDirectory

namespace LockWorld

/-- A directory as it is after a change of its entries. -/
def change (world : LockWorld) (directory : LockDirectory) : LockWorld :=
  { world with directory := some { directory with changedAt := world.clock } }

def make (world : LockWorld) (self : Pid) : LockWorld :=
  { world with
    directory := some { identity := world.fresh, maker := self, changedAt := world.clock }
    fresh := world.fresh + 1 }

end LockWorld

/-- `rmdir`. -/
def rmdir (world : LockWorld) : Except LockError Unit × LockWorld :=
  match world.directory with
  | some directory =>
      if directory.entries = [] then (.ok (), { world with directory := none })
      else (.error .enotempty, world)
  | none => (.error .enoent, world)

/-- One call of a process; `choice` settles what the call leaves open: whether a process
looks alive, whether the caller cancels, and in which order the entries are listed. -/
def perform (self : Pid) (choice : Nat) (world : LockWorld) :
    (op : LockOp) → Except LockError op.Ret × LockWorld
  | .checkCancellation => (if choice = 0 then .ok () else .error .cancelled, world)
  | .now => (.ok world.clock, world)
  | .randomUUID => (.ok world.fresh, { world with fresh := world.fresh + 1 })
  | .processIsLive _ => (.ok (choice ≠ 0 : Bool), world)
  | .mkdir =>
      match world.directory with
      | some _ => (.error .eexist, world)
      | none => (.ok (), world.make self)
  | .chmodDirectory =>
      match world.directory with
      | some _ => (.ok (), world)
      | none => (.error .enoent, world)
  | .ensureDirectory =>
      match world.directory with
      | some _ => (.ok (), world)
      | none => (.ok (), world.make self)
  | .statDirectory =>
      match world.directory with
      | some directory => (.ok ⟨directory.changedAt, directory.identity⟩, world)
      | none => (.error .enoent, world)
  | .writeTemp token =>
      match world.directory with
      | some directory =>
          (.ok (), world.change { directory with temps := (token, world.clock) :: directory.temps })
      | none => (.error .enoent, world)
  | .chmodTemp token =>
      match world.directory with
      | some directory =>
          if (directory.temps.find? (·.1 = token)).isSome then (.ok (), world)
          else (.error .enoent, world)
      | none => (.error .enoent, world)
  | .renameTemp token =>
      match world.directory with
      | some directory =>
          match directory.temps.find? (·.1 = token) with
          | some (_, changedAt) =>
              (.ok (), world.change { directory with
                owner := some { pid := self, changedAt }
                temps := directory.temps.filter (·.1 ≠ token) })
          | none => (.error .enoent, world)
      | none => (.error .enoent, world)
  | .chmodOwner =>
      match world.directory with
      | some directory =>
          if directory.owner = none then (.error .enoent, world)
          else
            (.ok (), { world with
              directory := some { directory with
                settled := directory.settled || decide (directory.maker = self) } })
      | none => (.error .enoent, world)
  | .ownerExists => (.ok (world.directory.any fun directory => directory.owner.isSome), world)
  | .readOwner =>
      match world.directory.bind (·.owner) with
      | some owner => (.ok owner.pid, world)
      | none => (.error .enoent, world)
  | .statOwner =>
      match world.directory.bind (·.owner) with
      | some owner => (.ok owner.changedAt, world)
      | none => (.error .enoent, world)
  | .markerExists name =>
      (.ok (world.directory.any fun directory => (directory.markerFile name).isSome), world)
  | .readMarker name =>
      match world.directory.bind (·.markerFile name) with
      | some file => (.ok (world.markerFiles file).token, world)
      | none => (.error .enoent, world)
  | .statMarker name =>
      match world.directory.bind (·.markerFile name) with
      | some file => (.ok ⟨(world.markerFiles file).changedAt, file⟩, world)
      | none => (.error .enoent, world)
  | .openMarker =>
      match world.directory with
      | some directory =>
          if (directory.markerFile .current).isSome then (.error .eexist, world)
          else
            (.ok world.fresh,
              { world.change (directory.withMarker .current world.fresh) with
                markerFiles := Function.update world.markerFiles world.fresh
                  { changedAt := world.clock }
                fresh := world.fresh + 1 })
      | none => (.error .enoent, world)
  | .writeMarker file token =>
      (.ok (), { world with
        markerFiles := Function.update world.markerFiles file
          { token := some token, changedAt := world.clock } })
  | .chmodMarker =>
      match world.directory.bind (·.markerFile .current) with
      | some _ => (.ok (), world)
      | none => (.error .enoent, world)
  | .renameMarker token =>
      match world.directory with
      | some directory =>
          match directory.markerFile .current with
          | some file =>
              (.ok (), world.change ((directory.withoutMarker .current).withMarker
                (.claimed token) file))
          | none => (.error .enoent, world)
      | none => (.error .enoent, world)
  | .linkMarker token =>
      match world.directory with
      | some directory =>
          match directory.markerFile (.claimed token) with
          | some file =>
              if (directory.markerFile .current).isSome then (.error .eexist, world)
              else (.ok (), world.change (directory.withMarker .current file))
          | none => (.error .enoent, world)
      | none => (.error .enoent, world)
  | .unlinkMarker name =>
      match world.directory with
      | some directory =>
          if (directory.markerFile name).isSome then
            (.ok (), world.change (directory.withoutMarker name))
          else (.ok (), world)
      | none => (.ok (), world)
  | .removeDirectory => rmdir world
  | .listDirectory =>
      match world.directory with
      | some directory =>
          (.ok ((directory.entries.permutations'[choice]?).getD directory.entries), world)
      | none => (.error .enoent, world)
  | .unlinkEntry entry =>
      match world.directory with
      | some directory =>
          if entry ∈ directory.entries then (.ok (), world.change (directory.without entry))
          else (.ok (), world)
      | none => (.ok (), world)
  | .removeListed _ => rmdir world

/-- Everything a call may answer. -/
def lockHandler (self : Pid) : Handler lockSignature LockError LockWorld where
  step op world answer after := ∃ choice, perform self choice world op = (answer, after)

end SimulatorBroker.Lock
