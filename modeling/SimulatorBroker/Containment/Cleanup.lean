import SimulatorBroker.Containment.Scope

/-!
# What is left after containment

`containLeaseProcesses` from its first signal on: the results of the signals, the
samples taken until the killed pids are gone or the wait is over, and the verdict.
-/

namespace SimulatorBroker.Containment

open State

/-! ## The results of the signals -/

/-- What `killPid` or `killProcessGroup` reports. -/
structure KillResult where
  ok : Bool := true
  errorCode : Option String := none
  deriving DecidableEq, Repr

/-- The result of each signal, in the order in which they are sent. -/
abbrev KillResults : Type := Nat → KillResult

/-- An action with its result; one that is skipped is `ok`. -/
structure CleanupAction where
  action : Action
  result : KillResult
  deriving DecidableEq, Repr

/-- The actions that `terminateOwnedProcesses` returns, after `sent` signals. -/
def cleanupActions (results : KillResults) : Nat → List Action → List CleanupAction
  | _, [] => []
  | sent, .skipped pid why :: rest =>
      { action := .skipped pid why, result := {} } :: cleanupActions results sent rest
  | sent, .killPid pid signal :: rest =>
      { action := .killPid pid signal, result := results sent }
        :: cleanupActions results (sent + 1) rest
  | sent, .killProcessGroup pgid signal :: rest =>
      { action := .killProcessGroup pgid signal, result := results sent }
        :: cleanupActions results (sent + 1) rest

def KillResult.failed (result : KillResult) : Bool :=
  !result.ok && result.errorCode != some "ESRCH"

def cleanupActionFailed (action : CleanupAction) : Bool :=
  action.result.failed

/-- The entry of `cleanupFailures`. -/
def CleanupAction.failure (action : CleanupAction) : CleanupFailure :=
  match action.action with
  | .killProcessGroup pgid signal =>
      { errorCode := action.result.errorCode, pgid := some pgid, pid := none, signal }
  | .killPid pid signal =>
      { errorCode := action.result.errorCode, pgid := none, pid := some pid, signal }
  | .skipped pid _ =>
      { errorCode := action.result.errorCode, pgid := none, pid := some pid, signal := .term }

def cleanupFailures (actions : List CleanupAction) : List CleanupFailure :=
  (actions.filter cleanupActionFailed).map (·.failure)

def skippedPid? (action : CleanupAction) : Option Pid :=
  match action.action with
  | .skipped pid _ => some pid
  | _ => none

/-- The pid of a signal that arrived. -/
def killedPid? (action : CleanupAction) : Option Pid :=
  match action.action with
  | .killPid pid _ => if action.result.ok then some pid else none
  | _ => none

def skippedPids (actions : List CleanupAction) : List Pid :=
  actions.filterMap skippedPid?

def sortedUnique (pids : List Pid) : List Pid :=
  pids.dedup.insertionSort fun left right => left ≤ right

def killedPids (actions : List CleanupAction) : List Pid :=
  sortedUnique (actions.filterMap killedPid?)

/-! ## The samples afterwards -/

/-- The options of a containment with the wait after its last signal. -/
structure CleanupOptions extends ContainmentOptions where
  postKillPollMs : Nat := 10
  postKillWaitMs : Nat := 50
  deriving DecidableEq, Repr

/-- `boundedPollMs`. -/
def CleanupOptions.boundedPollMs (options : CleanupOptions) : Nat :=
  max 1 options.postKillPollMs

def remainingCleanableOwnedPids (discovery : Discovery) (skipped : List Pid) : List Pid :=
  sortedUnique ((discovery.owned.filter fun entry =>
    !skipped.contains entry.pid && !processLooksDefunct entry.toProcessRecord).map (·.pid))

structure AfterCleanup where
  discovery : Discovery
  processRecords : List ProcessRecord
  remainingOwnedPids : List Pid
  deriving DecidableEq, Repr

/-- The loop of `observeAfterCleanup` at its sample number `position`, `waitedMs` after the
first; `none` when the sampler raises. -/
def observeAfterCleanup (lease : LeaseRecord) (options : CleanupOptions)
    (sampler : ProcessSampler) (killed skipped : List Pid) (position waitedMs : Nat) :
    Option AfterCleanup :=
  match sampler position with
  | none => none
  | some records =>
      let discovery :=
        discoverLeaseOwnedProcesses lease records (options.afterTermWait + waitedMs)
      let remainingOwnedPids := remainingCleanableOwnedPids discovery skipped
      if (remainingOwnedPids.any fun pid => killed.contains pid) = false ∨
          options.postKillWaitMs ≤ waitedMs then
        some { discovery, processRecords := normalizeProcessTable records, remainingOwnedPids }
      else
        observeAfterCleanup lease options sampler killed skipped (position + 1)
          (waitedMs + min options.boundedPollMs (options.postKillWaitMs - waitedMs))
termination_by options.postKillWaitMs - waitedMs
decreasing_by
  have hpoll : 1 ≤ options.boundedPollMs := le_max_left _ _
  omega

/-! ## The verdict -/

/-- How `containLeaseProcesses` sees a reason of the broker. -/
def reasonOf : State.ContainmentReason → ContainmentReason
  | .memoryCeiling => .memoryCeiling
  | .forcedAbort => .forcedAbort
  | .timeout => .timeout
  | .staleOwner => .staleOwner
  | .manualCleanup => .manualCleanup

/-- `totalRssBytes` of what is owned without the requester. -/
def ownedRssBytes (discovery : Discovery) (options : ContainmentOptions) : Nat :=
  totalRssBytes (discovery.owned.filter fun entry => some entry.pid ≠ options.requester)

/-- The observation of the first sample. -/
def observeLeaseProcesses (lease : LeaseRecord) (records : List ProcessRecord)
    (reason : State.ContainmentReason) (options : ContainmentOptions) : Observation :=
  let discovery := discoverLeaseOwnedProcesses lease records options.timestamp
  { checkedAt := options.timestamp
    downstreamOwnedProcessCount := (discovery.owned.filter fun entry =>
      some entry.pid ≠ options.requester ∧ some entry.pid ≠ lease.ownerPidOrLease).length
    memoryCeilingBytes := positive? lease.runtime.memoryCeilingBytes
    ownedProcessCount := discovery.owned.length
    ownedRssBytes := ownedRssBytes discovery options
    processCount := (normalizeProcessTable records).length
    reason
    simulatorProcessCount :=
      (discovery.owned.filter fun entry => entry.reasons.contains .simulatorProcess).length }

/-- The containment with its reason. -/
def CleanupOptions.calledFor (options : CleanupOptions) (reason : State.ContainmentReason) :
    CleanupOptions :=
  { options with reason := reasonOf reason }

/-- The actions taken after the first sample, with their results. -/
def terminationActions (lease : LeaseRecord) (options : ContainmentOptions)
    (sampler : ProcessSampler) (results : KillResults) : List CleanupAction :=
  cleanupActions results 0 (containLeaseProcesses lease options sampler)

/-- What `containLeaseProcesses` returns, its evidence apart; `none` when the sampler
raises. -/
def containmentOutcome (lease : LeaseRecord) (reason : State.ContainmentReason)
    (options : CleanupOptions) (sampler : ProcessSampler) (results : KillResults) :
    Option ContainmentOutcome :=
  let options := options.calledFor reason
  match sampler 0 with
  | none => none
  | some records =>
      let observation := observeLeaseProcesses lease records reason options.toContainmentOptions
      if shouldContain options.reason lease observation.ownedRssBytes then
        match sampler 1 with
        | none => none
        | some _ =>
            let actions := terminationActions lease options.toContainmentOptions sampler results
            (observeAfterCleanup lease options sampler (killedPids actions) (skippedPids actions)
              2 0).map fun after =>
                .contained {
                  observation
                  cleanupFailures := cleanupFailures actions
                  remainingOwnedPids := after.remainingOwnedPids }
      else some (.notContained observation)

end SimulatorBroker.Containment
