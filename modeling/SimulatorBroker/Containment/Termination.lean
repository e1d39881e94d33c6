import SimulatorBroker.Containment.Ownership

/-!
# Containment

`containLeaseProcesses` up to its last signal: the first sample decides what is
signalled, a second one what is killed.
-/

namespace SimulatorBroker.Containment

open State

/-- `CONTAINMENT_REASONS`, and any other text. -/
inductive ContainmentReason where
  | memoryCeiling
  | forcedAbort
  | timeout
  | staleOwner
  | manualCleanup
  | other
  deriving DecidableEq, Repr

structure ContainmentOptions where
  reason : ContainmentReason := .manualCleanup
  killOwner : Bool := false
  requesterPid : Option Pid := none
  /-- `processController.currentPid`. -/
  currentPid : Option Pid := none
  /-- `process.pid`. -/
  processPid : Pid
  termWaitMs : Nat := 250
  timestamp : Timestamp
  deriving DecidableEq, Repr

namespace ContainmentOptions

/-- `currentBrokerPid`. -/
def brokerPid (options : ContainmentOptions) : Pid :=
  (positive? options.currentPid).getD options.processPid

def requester (options : ContainmentOptions) : Option Pid :=
  positive? options.requesterPid

/-- `advanceNowIso(now, termWaitMs)`. -/
def afterTermWait (options : ContainmentOptions) : Timestamp :=
  options.timestamp + options.termWaitMs

end ContainmentOptions

/-- One call of the process sampler; `none` when it raises. -/
abbrev ProcessSampler : Type := Nat → Option (List ProcessRecord)

/-! ## Whether to contain -/

def totalRssBytes (processes : List OwnedProcess) : Nat :=
  (processes.map (·.rssBytes)).sum

def shouldContain (reason : ContainmentReason) (lease : LeaseRecord) (ownedRssBytes : Nat) :
    Bool :=
  match reason with
  | .memoryCeiling =>
      ((positive? lease.runtime.memoryCeilingBytes).map fun ceiling =>
        decide (ceiling < ownedRssBytes)).getD false
  | .forcedAbort | .timeout | .staleOwner | .manualCleanup => true
  | .other => false

/-! ## Signals -/

inductive SkipReason where
  | currentBrokerProcess
  | activeContainmentRequester
  | leaseOwnerNotKilledByDefault
  deriving DecidableEq, Repr

inductive Action where
  | killProcessGroup (pgid : Pid) (signal : Signal)
  | killPid (pid : Pid) (signal : Signal)
  | skipped (pid : Pid) (why : SkipReason)
  deriving DecidableEq, Repr

/-- The pid with the reason `owner-pid`. -/
def Discovery.ownerPid (discovery : Discovery) : Option Pid :=
  (discovery.owned.find? fun entry => entry.reasons.contains .ownerPid).map (·.pid)

def Discovery.requesterInCommandGroup (discovery : Discovery) (requester : Option Pid) : Bool :=
  match requester, discovery.commandPgid with
  | some requester, some commandPgid =>
      (discovery.owned.map (·.toProcessRecord) ++ discovery.skipped).any fun record =>
        decide (record.pid = requester) && record.pgid == some commandPgid
  | _, _ => false

/-- `commandGroupOwned`: the process group that is signalled as a whole. -/
def Discovery.commandGroupOwned (discovery : Discovery) (requester : Option Pid) : Option Pid :=
  match discovery.commandPgid, discovery.ownerPgid with
  | some commandPgid, some ownerPgid =>
      if isSignalableProcessGroupId commandPgid ∧ commandPgid ≠ ownerPgid ∧
        (discovery.owned.any fun entry => entry.pgid == some commandPgid) ∧
        discovery.requesterInCommandGroup requester = false
      then some commandPgid else none
  | _, _ => none

def signalDepth (entry : OwnedProcess) : Nat :=
  if entry.reasons.contains .descendant || entry.reasons.contains .simulatorProcess then 0 else 1

def Discovery.sortedPids (discovery : Discovery) : List Pid :=
  (discovery.owned.insertionSort fun left right =>
    signalDepth left < signalDepth right ∨
      (signalDepth left = signalDepth right ∧ left.pid ≤ right.pid)).map (·.pid)

/-- Why a pid gets no signal. -/
def skipReason (discovery : Discovery) (options : ContainmentOptions) (pid : Pid) :
    Option SkipReason :=
  if pid = options.brokerPid then some .currentBrokerProcess
  else if some pid = options.requester then some .activeContainmentRequester
  else if some pid = discovery.ownerPid ∧ options.killOwner = false then
    some .leaseOwnerNotKilledByDefault
  else none

def termAction (discovery : Discovery) (options : ContainmentOptions) (pid : Pid) : Action :=
  match skipReason discovery options pid with
  | some why => .skipped pid why
  | none => .killPid pid .term

/-- The pids that are owned after the wait; `none` when the sampler raises.  The caller
always passes a sampler and a lease. -/
def revalidatedOwnedPids (lease : LeaseRecord) (options : ContainmentOptions)
    (sampler : ProcessSampler) : Option (List Pid) :=
  (sampler 1).map fun records =>
    (discoverLeaseOwnedProcesses lease records options.afterTermWait).owned.map (·.pid)

def terminateOwnedProcesses (lease : LeaseRecord) (discovery : Discovery)
    (options : ContainmentOptions) (sampler : ProcessSampler) : List Action :=
  let groupActions := (discovery.commandGroupOwned options.requester).toList.map fun pgid =>
    Action.killProcessGroup pgid .term
  let termActions := discovery.sortedPids.map (termAction discovery options)
  let killActions :=
    match revalidatedOwnedPids lease options sampler with
    | none => []
    | some revalidated =>
        (discovery.sortedPids.filter fun pid =>
          (skipReason discovery options pid).isNone && revalidated.contains pid).map fun pid =>
            Action.killPid pid .kill
  groupActions ++ termActions ++ killActions

/-- The signals of `containLeaseProcesses`, in order. -/
def containLeaseProcesses (lease : LeaseRecord) (options : ContainmentOptions)
    (sampler : ProcessSampler) : List Action :=
  match sampler 0 with
  | none => []
  | some records =>
      let discovery := discoverLeaseOwnedProcesses lease records options.timestamp
      let ownedRssBytes := totalRssBytes (discovery.owned.filter fun entry =>
        some entry.pid ≠ options.requester)
      if shouldContain options.reason lease ownedRssBytes then
        terminateOwnedProcesses lease discovery options sampler
      else []

end SimulatorBroker.Containment
