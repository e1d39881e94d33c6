import Mathlib.Data.List.Sort
import SimulatorBroker.Graph.Worklist
import SimulatorBroker.Containment.Commands

/-!
# The processes of a lease

`discoverLeaseOwnedProcesses`: which processes of a sample belong to a lease, and
for which reasons.
-/

namespace SimulatorBroker.Containment

open State

/-- A lease as containment reads it, with the text of its simulator id. -/
structure LeaseRecord extends Lease where
  simulatorUdid : String
  projectName : Option String := none
  deriving DecidableEq, Repr

namespace LeaseRecord

/-- `runtime.command` of `buildLeaseRuntimeMetadata`. -/
def command (lease : LeaseRecord) : Option RegisteredCommand :=
  normalizeRegisteredCommand lease.runtime.command

def commandPid (lease : LeaseRecord) : Option Pid :=
  positive? lease.runtime.commandPid

def commandPgid (lease : LeaseRecord) : Option Pid :=
  positive? lease.runtime.commandPgid

def registeredOwnerPgid (lease : LeaseRecord) : Option Pid :=
  positive? lease.runtime.ownerPgid

/-- `runtime.ownerPid ?? lease.ownerPid`. -/
def ownerPidOrLease (lease : LeaseRecord) : Option Pid :=
  positive? (lease.toLease.runtimeOwnerPid.getD lease.ownerPid)

/-- `runtime.commandRegisteredAt ?? runtime.updatedAt`. -/
def commandSince (lease : LeaseRecord) : Option Timestamp :=
  lease.runtime.commandRegisteredAt <|> lease.runtime.updatedAt

end LeaseRecord

/-! ## The process table -/

/-- `normalizeProcessTable`, in the order of the pids. -/
def processTable (records : List ProcessRecord) : List ProcessRecord :=
  (normalizeProcessTable records).insertionSort fun left right => left.pid ≤ right.pid

def childrenByParent (processes : List ProcessRecord) (parent : Pid) : List Pid :=
  (processes.filter fun record => record.ppid == some parent && parent != 0).map (·.pid)

def collectDescendantPids (processes : List ProcessRecord) (rootPids : List Pid) : List Pid :=
  Graph.search (childrenByParent processes) (rootPids.length + processes.length) rootPids []

/-! ## Owner and command -/

def lifetimeMatches (record : ProcessRecord) (startedAt : Option Timestamp) (now : Timestamp) :
    Bool :=
  match startedAt with
  | none => false
  | some startedAt => processLifetimeMatchesTimestamp record startedAt now

def validatedOwnerPid (lease : LeaseRecord) (processes : List ProcessRecord) (now : Timestamp) :
    Option Pid :=
  match lease.ownerPidOrLease with
  | none => none
  | some ownerPid =>
      match recordOfPid processes ownerPid with
      | none => none
      | some record => if ownerPidMatchesLease record lease.toLease now then some ownerPid else none

def commandPidMatchesRegisteredMetadata (record : ProcessRecord) (lease : LeaseRecord)
    (now : Timestamp) : Bool :=
  if processLooksDefunct record then false
  else if lifetimeMatches record lease.commandSince now = false then false
  else
    let expectedExecutables := commandExecutableNames lease.command
    if expectedExecutables = [] then true
    else (processExecutableCandidates record.command).any fun name => expectedExecutables.contains name

def commandPidMatchesLease (record : ProcessRecord) (lease : LeaseRecord) (ownerPid : Option Pid)
    (now : Timestamp) : Bool :=
  if processLooksDefunct record then false
  else match lease.commandPgid with
    | some commandPgid =>
        record.pgid == some commandPgid && commandPidMatchesRegisteredMetadata record lease now
    | none =>
        match ownerPid with
        | some ownerPid =>
            record.ppid == some ownerPid && commandPidMatchesRegisteredMetadata record lease now
        | none => commandPidMatchesRegisteredMetadata record lease now

def validatedCommandPid (lease : LeaseRecord) (processes : List ProcessRecord) (now : Timestamp) :
    Option Pid :=
  match lease.commandPid with
  | none => none
  | some commandPid =>
      match recordOfPid processes commandPid with
      | none => none
      | some record =>
          if commandPidMatchesLease record lease (validatedOwnerPid lease processes now) now
          then some commandPid else none

/-- `registeredOwnerPgid ?? inferredOwnerPgid`. -/
def ownerPgid (lease : LeaseRecord) (processes : List ProcessRecord) (now : Timestamp) :
    Option Pid :=
  match lease.registeredOwnerPgid with
  | some registered => some registered
  | none =>
      match validatedOwnerPid lease processes now with
      | none => none
      | some ownerPid => positive? ((recordOfPid processes ownerPid).bind (·.pgid))

/-! ## Process groups -/

def commandProcessGroupStillMatchesLease (lease : LeaseRecord) (processes : List ProcessRecord)
    (now : Timestamp) : Bool :=
  match lease.commandPgid with
  | none => false
  | some commandPgid =>
      let groupMembers := processes.filter fun record => record.pgid == some commandPgid
      if groupMembers = [] then false
      else
        match (recordOfPid processes commandPgid).filter fun record =>
            record.pgid == some commandPgid with
        | none => true
        | some groupLeader =>
            if processLooksDefunct groupLeader then
              groupMembers.any fun record =>
                decide (record.pid ≠ groupLeader.pid) && !processLooksDefunct record
            else lifetimeMatches groupLeader lease.commandSince now

def isSignalableProcessGroupId (pgid : Pid) : Bool :=
  decide (1 < pgid)

def claimCommandProcessGroup (lease : LeaseRecord) (processes : List ProcessRecord)
    (now : Timestamp) : Bool :=
  match lease.commandPgid with
  | none => false
  | some commandPgid =>
      isSignalableProcessGroupId commandPgid &&
        match validatedCommandPid lease processes now, ownerPgid lease processes now with
        | some _, some ownerPgid => decide (commandPgid ≠ ownerPgid)
        | some commandPid, none => decide (commandPid = commandPgid)
        | none, some ownerPgid =>
            commandProcessGroupStillMatchesLease lease processes now &&
              decide (commandPgid ≠ ownerPgid)
        | none, none => commandProcessGroupStillMatchesLease lease processes now

/-! ## Simulator processes -/

def defaultSimulatorProcessNames (lease : LeaseRecord) : List String :=
  ["Test Host App", "XCTRunner", "xctest"] ++
    match lease.projectName.filter (· ≠ "") with
    | none => []
    | some projectName =>
        [projectName ++ " Test Host App", projectName ++ "Tests", projectName ++ "UITests"]

def simulatorProcessNamesForLease (lease : LeaseRecord) : List String :=
  (defaultSimulatorProcessNames lease ++
    normalizeStringArray lease.runtime.simulatorProcessNames).eraseDups

def commandReferencesLeaseSimulator (record : ProcessRecord) (lease : LeaseRecord) : Bool :=
  lease.simulatorUdid != "" && includesText record.command lease.simulatorUdid

def commandMatchesSimulatorLease (record : ProcessRecord) (lease : LeaseRecord) : Bool :=
  commandReferencesLeaseSimulator record lease &&
    (simulatorProcessNamesForLease lease).any (includesText record.command)

def ownerProcessGroupLeasePids (lease : LeaseRecord) (processes : List ProcessRecord)
    (ownerPgid : Pid) : List Pid :=
  let ownedRootPids :=
    ((processes.filter fun record => record.pgid == some ownerPgid).filter fun record =>
      !looksLikeShellProcess record.command &&
        (commandMatchesSimulatorLease record lease || commandReferencesLeaseSimulator record lease)
      ).map (·.pid)
  if ownedRootPids = [] then []
  else ownedRootPids ++ collectDescendantPids processes ownedRootPids

/-! ## Discovery -/

inductive OwnedReason where
  | commandPid
  | commandProcessGroup
  | descendant
  | ownerPid
  | ownerProcessGroup
  | simulatorProcess
  deriving DecidableEq, Repr

structure OwnedProcess extends ProcessRecord where
  reasons : List OwnedReason
  deriving DecidableEq, Repr

/-- The first record of a pid is kept; later ones add their reason. -/
def addOwnedProcess (owned : List OwnedProcess) (record : ProcessRecord) (reason : OwnedReason) :
    List OwnedProcess :=
  if owned.any fun entry => entry.pid = record.pid then
    owned.map fun entry =>
      if entry.pid = record.pid ∧ reason ∉ entry.reasons
      then { entry with reasons := entry.reasons ++ [reason] } else entry
  else owned ++ [{ record with reasons := [reason] }]

/-- The records are added one after the other, each for its reason. -/
def addOwnedProcesses (owned : List OwnedProcess) (records : List ProcessRecord)
    (reason : ProcessRecord → OwnedReason) : List OwnedProcess :=
  records.foldl (fun owned record => addOwnedProcess owned record (reason record)) owned

/-- `byPid.get(pid)` for those of the pids that are there. -/
def recordsOfPids (processes : List ProcessRecord) (pids : List Pid) : List ProcessRecord :=
  pids.filterMap (recordOfPid processes)

structure Discovery where
  commandPgid : Option Pid
  owned : List OwnedProcess
  ownerPgid : Option Pid
  skipped : List ProcessRecord
  deriving DecidableEq, Repr

/-- What is added to the owned processes, in order. -/
def ownedAdditions (lease : LeaseRecord) (processes : List ProcessRecord) (now : Timestamp) :
    List (List ProcessRecord × (ProcessRecord → OwnedReason)) :=
  let ownerPid := (validatedOwnerPid lease processes now).toList
  let commandPid := (validatedCommandPid lease processes now).toList
  let ownerGroup := match ownerPgid lease processes now with
    | none => []
    | some pgid => processes.filter fun record =>
        (ownerProcessGroupLeasePids lease processes pgid).contains record.pid
  let commandGroup :=
    if claimCommandProcessGroup lease processes now then
      processes.filter fun record => record.pgid == lease.commandPgid
    else []
  let simulatorProcesses := processes.filter fun record => commandMatchesSimulatorLease record lease
  [ (recordsOfPids processes ownerPid, fun _ => .ownerPid),
    (recordsOfPids processes commandPid, fun _ => .commandPid),
    (recordsOfPids processes (collectDescendantPids processes (ownerPid ++ commandPid).eraseDups),
      fun _ => .descendant),
    (ownerGroup, fun record =>
      if record.pgid = ownerPgid lease processes now then .ownerProcessGroup else .descendant),
    (commandGroup, fun _ => .commandProcessGroup),
    (simulatorProcesses, fun _ => .simulatorProcess),
    (recordsOfPids processes (collectDescendantPids processes (simulatorProcesses.map (·.pid))),
      fun _ => .descendant) ]

def discoverLeaseOwnedProcesses (lease : LeaseRecord) (records : List ProcessRecord)
    (now : Timestamp) : Discovery :=
  let processes := processTable records
  let owned := (ownedAdditions lease processes now).foldl
    (fun owned (addition : List ProcessRecord × (ProcessRecord → OwnedReason)) =>
      addOwnedProcesses owned addition.1 addition.2) []
  { commandPgid := lease.commandPgid
    owned
    ownerPgid := ownerPgid lease processes now
    skipped := processes.filter fun record => !owned.any fun entry => entry.pid = record.pid }

end SimulatorBroker.Containment
