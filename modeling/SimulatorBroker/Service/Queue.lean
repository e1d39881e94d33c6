import SimulatorBroker.Service.Budget

/-!
# The command queue of the daemon

Commands and scheduled idle reconciliations are chained one after the other by
promises; a map remembers the commands that a shutdown has to wait for.  One event
is one turn of the event loop.
-/

namespace SimulatorBroker.Service

/-- Works are numbered in the order in which they were chained. -/
abbrev WorkId : Type := Nat

/-- Requests are numbered in the order of their arrival. -/
abbrev RequestId : Type := Nat

inductive Job where
  | command (request : RequestId) (body : CommandBody)
  | idleReconciliation
  deriving DecidableEq, Repr

inductive Outcome where
  | completed
  | failed
  | rejected (error : ServiceError)
  deriving DecidableEq, Repr

inductive Progress where
  | waiting
  | running
  | settled (outcome : Outcome)
  deriving DecidableEq, Repr

def Progress.isSettled : Progress → Bool
  | .settled _ => true
  | _ => false

/-- A promise of the chain: the one it was chained to, and whether anyone handles
its rejection. -/
structure Work where
  job : Job
  after : Option WorkId
  handled : Bool
  progress : Progress := .waiting
  deriving DecidableEq, Repr

/-- Where a call of `shutdown` waits. -/
inductive ShutdownPhase where
  | awaitingIdle (work : WorkId)
  | awaitingCommands (works : List WorkId)
  | finishing
  deriving DecidableEq, Repr

structure Daemon where
  works : List Work := []
  commandWorkerQueue : Option WorkId := none
  activeCommandWorkers : List WorkId := []
  activeIdleReconciliation : Option WorkId := none
  shuttingDown : Bool := false
  shutdowns : List ShutdownPhase := []
  socketRemoved : Bool := false
  exited : Bool := false
  arrivals : Nat := 0
  refused : List RequestId := []
  started : List WorkId := []
  deriving DecidableEq, Repr

namespace Daemon

def progressOf (daemon : Daemon) (work : WorkId) : Option Progress :=
  (daemon.works[work]?).map (·.progress)

def isSettled (daemon : Daemon) (work : WorkId) : Bool :=
  (daemon.progressOf work).any Progress.isSettled

/-- The promise that a work was chained to has settled, whatever its outcome. -/
def isReady (daemon : Daemon) (work : Work) : Bool :=
  work.after.all daemon.isSettled

/-! ## Admission -/

def commandDrainDeadlineMilliseconds (files : ServiceFiles) (body : CommandBody) (now : Int) :
    Except ServiceError Int := do
  match ← optionalBodyInteger body.clientCommandExecutionTimeoutMilliseconds true with
  | some executionTimeoutMs => return now + executionTimeoutMs
  | none => do
      let executionTimeoutMs ← commandExecutionTimeoutMsForDispatch files body.request
      return now + executionTimeoutMs

/-- `priorCommandWorkers.then(work)`. -/
def chain (daemon : Daemon) (job : Job) (handled : Bool) : Daemon :=
  { daemon with
    works := daemon.works ++ [{ job, after := daemon.commandWorkerQueue, handled }] }

/-- `runSerializedServiceWork` for a command: it is chained before its drain deadline
is computed, and the queue moves on only after that. -/
def runSerializedCommand (daemon : Daemon) (files : ServiceFiles) (request : RequestId)
    (body : CommandBody) (now : Int) : Daemon × Except ServiceError WorkId :=
  if daemon.shuttingDown then (daemon, .error .serviceUnavailable)
  else
    let work := daemon.works.length
    match commandDrainDeadlineMilliseconds files body now with
    | .error error => (daemon.chain (.command request body) false, .error error)
    | .ok _ =>
        ({ daemon.chain (.command request body) true with
          activeCommandWorkers := daemon.activeCommandWorkers ++ [work]
          commandWorkerQueue := some work }, .ok work)

/-- `POST /v1/command`, from the parsed body on. -/
def receiveCommand (daemon : Daemon) (files : ServiceFiles) (body : CommandBody) (now : Int) :
    Daemon :=
  let request := daemon.arrivals
  let arrived := { daemon with arrivals := daemon.arrivals + 1 }
  match assertCommandFreshForDispatch files body now with
  | .error _ => { arrived with refused := request :: daemon.refused }
  | .ok () =>
      match arrived.runSerializedCommand files request body now with
      | (admitted, .ok _) => admitted
      | (admitted, .error _) => { admitted with refused := request :: daemon.refused }

/-- The timer of the scheduled idle reconciliation. -/
def idleTick (daemon : Daemon) (healthy : Bool) : Daemon :=
  if daemon.activeIdleReconciliation ≠ none ∨ daemon.shuttingDown ∨ healthy = false then daemon
  else
    { daemon.chain .idleReconciliation true with
      commandWorkerQueue := some daemon.works.length
      activeIdleReconciliation := some daemon.works.length }

/-! ## Running -/

/-- A promise settles; a rejection that nobody handles ends the process. -/
def settleWork (daemon : Daemon) (id : WorkId) (work : Work) (outcome : Outcome) : Daemon :=
  let settled :=
    { daemon with works := daemon.works.set id { work with progress := .settled outcome } }
  if work.handled = false ∧ outcome ≠ .completed then
    { settled with socketRemoved := true, exited := true }
  else settled

/-- The turn of a work has come: a command is checked once more, then its worker runs. -/
def startWork (daemon : Daemon) (files : ServiceFiles) (id : WorkId) (now : Int) :
    Option Daemon :=
  match daemon.works[id]? with
  | none => none
  | some work =>
      if work.progress ≠ .waiting ∨ daemon.isReady work = false then none
      else
        let started := { daemon with started := daemon.started ++ [id] }
        let running := some { started with
          works := daemon.works.set id { work with progress := .running } }
        match work.job with
        | .idleReconciliation => running
        | .command _ body =>
            match assertCommandFreshForDispatch files body now with
            | .error error => some (started.settleWork id work (.rejected error))
            | .ok () => running

/-- The worker of a running work comes to its end. -/
def finishWork (daemon : Daemon) (id : WorkId) (succeeds : Bool) : Option Daemon :=
  match daemon.works[id]? with
  | none => none
  | some work =>
      if work.progress ≠ .running then none
      else some (daemon.settleWork id work (if succeeds then .completed else .failed))

/-- `forgetCommandWorker`, and the `finally` of an idle reconciliation. -/
def forgetWork (daemon : Daemon) (id : WorkId) : Option Daemon :=
  if daemon.isSettled id = false then none
  else some { daemon with
    activeCommandWorkers := daemon.activeCommandWorkers.filter (· ≠ id)
    activeIdleReconciliation := daemon.activeIdleReconciliation.filter (· ≠ id) }

/-! ## Shutdown -/

/-- `closeCommandAdmissionForShutdown`. -/
def closeAdmission (daemon : Daemon) : Daemon :=
  { daemon with shuttingDown := true }

def commandsPhase (daemon : Daemon) : ShutdownPhase :=
  if daemon.activeCommandWorkers = [] then .finishing
  else .awaitingCommands daemon.activeCommandWorkers

/-- `shutdown` up to its first wait. -/
def beginShutdown (daemon : Daemon) : Daemon :=
  let phase := match daemon.activeIdleReconciliation with
    | some work => .awaitingIdle work
    | none => daemon.commandsPhase
  { daemon with shutdowns := daemon.shutdowns ++ [phase] }

/-- A call of `shutdown` goes on once what it waits for has settled. -/
def advanceShutdown (daemon : Daemon) (index : Nat) : Option Daemon :=
  match daemon.shutdowns[index]? with
  | none => none
  | some (.awaitingIdle work) =>
      if daemon.isSettled work then
        some { daemon with shutdowns := daemon.shutdowns.set index daemon.commandsPhase }
      else none
  | some (.awaitingCommands works) =>
      if works.all daemon.isSettled then
        some { daemon with shutdowns := daemon.shutdowns.set index .finishing }
      else none
  | some .finishing => some { daemon with socketRemoved := true }

end Daemon

/-! ## Runs -/

inductive Event where
  | command (files : ServiceFiles) (body : CommandBody) (now : Int)
  | idleTick (healthy : Bool)
  | start (files : ServiceFiles) (work : WorkId) (now : Int)
  | finish (work : WorkId) (succeeds : Bool)
  | forget (work : WorkId)
  | stopRequest
  | stopAnswered
  | signal
  | advanceShutdown (index : Nat)

/-- One turn; `none` when the event cannot happen. -/
def step (daemon : Daemon) (event : Event) : Option Daemon :=
  if daemon.exited then none
  else match event with
  | .command files body now => some (daemon.receiveCommand files body now)
  | .idleTick healthy => some (daemon.idleTick healthy)
  | .start files work now => daemon.startWork files work now
  | .finish work succeeds => daemon.finishWork work succeeds
  | .forget work => daemon.forgetWork work
  | .stopRequest => some daemon.closeAdmission
  | .stopAnswered => if daemon.shuttingDown then some daemon.beginShutdown else none
  | .signal => if daemon.shuttingDown then some daemon else some daemon.closeAdmission.beginShutdown
  | .advanceShutdown index => daemon.advanceShutdown index

def run (daemon : Daemon) (events : List Event) : Option Daemon :=
  events.foldlM step daemon

end SimulatorBroker.Service
