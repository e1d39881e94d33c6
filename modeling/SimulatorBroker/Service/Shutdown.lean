import SimulatorBroker.Service.Queue

/-!
# Stop requests, signals and shutdown runs

Command admission is closed in one place and the shutdown that must follow is started
in another: a stop request closes it in its handler and starts the shutdown in the
completion callback of its answer, which runs once the answer is fully written before
the connection breaks.  One event is one turn of the event loop.  The shutdown runs
are followed here turn by turn; the record of them in the queue stays empty.
-/

namespace SimulatorBroker.Service

abbrev ConnectionId : Type := Nat

abbrev SnapshotId : Type := Nat

/-- Shutdown runs are numbered in the order in which they were called for. -/
abbrev RunId : Type := Nat

/-- Where a call of `shutdown` stands; `scheduled` is the `setImmediate` before it. -/
inductive ShutdownStage where
  | scheduled
  | awaitingIdle (work : WorkId)
  | awaitingCommands (works : List WorkId)
  | commandsTurn
  | awaitingSnapshots (workers : List SnapshotId)
  | snapshotsTurn
  | closing
  | finished
  deriving DecidableEq, Repr

structure ShutdownRun where
  exitProcess : Bool
  stage : ShutdownStage := .scheduled
  deriving DecidableEq, Repr

inductive StopStage where
  | reading
  | answering
  deriving DecidableEq, Repr

/-- A stop request whose body is being read, or whose answer is being written with the
completion callback that schedules the shutdown. -/
structure StopRequest where
  connection : ConnectionId
  stage : StopStage := .reading
  deriving DecidableEq, Repr

inductive EndpointFile where
  | metadata
  | socket
  deriving DecidableEq, Repr

/-- The daemon; `removals` are those of its shutdown runs. -/
structure BrokerService where
  queue : Daemon := {}
  snapshotWorkers : List Bool := []
  activeSnapshotWorkers : List SnapshotId := []
  accepted : Nat := 0
  connections : List ConnectionId := []
  stopRequests : List StopRequest := []
  runs : List ShutdownRun := []
  listening : Bool := true
  removals : List (RunId × EndpointFile) := []
  deriving DecidableEq, Repr

namespace BrokerService

def shuttingDown (service : BrokerService) : Bool := service.queue.shuttingDown

def exited (service : BrokerService) : Bool := service.queue.exited

/-- `process.exit`. -/
def exit (service : BrokerService) : BrokerService :=
  { service with queue := { service.queue with exited := true } }

def closeCommandAdmissionForShutdown (service : BrokerService) : BrokerService :=
  { service with queue := service.queue.closeAdmission }

/-! ## The run of a shutdown -/

def setStage (service : BrokerService) (run : RunId) (stage : ShutdownStage) : BrokerService :=
  { service with runs := service.runs.modify run fun found => { found with stage } }

/-- The metadata file goes, everything open is destroyed and the server is closed.  A
removal that fails rejects the call, and its handler ends the process. -/
def removeMetadata (service : BrokerService) (run : RunId) (fault : Bool) : BrokerService :=
  if fault then service.exit
  else
    { service.setStage run .closing with
      connections := []
      stopRequests := []
      listening := false
      removals := service.removals ++ [(run, .metadata)] }

/-- The server has closed: the socket file goes. -/
def removeSocket (service : BrokerService) (run : RunId) (exitProcess fault : Bool) :
    BrokerService :=
  if fault then service.exit
  else
    let removed :=
      { service.setStage run .finished with
        removals := service.removals ++ [(run, .socket)] }
    if exitProcess then removed.exit else removed

def drainSnapshots (service : BrokerService) (run : RunId) (fault : Bool) : BrokerService :=
  if service.activeSnapshotWorkers = [] then service.removeMetadata run fault
  else service.setStage run (.awaitingSnapshots service.activeSnapshotWorkers)

def drainCommands (service : BrokerService) (run : RunId) (fault : Bool) : BrokerService :=
  if service.queue.activeCommandWorkers = [] then service.drainSnapshots run fault
  else service.setStage run (.awaitingCommands service.queue.activeCommandWorkers)

/-- `shutdown` up to its first wait. -/
def beginShutdown (service : BrokerService) (run : RunId) (fault : Bool) : BrokerService :=
  match service.queue.activeIdleReconciliation with
  | some work => service.setStage run (.awaitingIdle work)
  | none => service.drainCommands run fault

def isSnapshotSettled (service : BrokerService) (worker : SnapshotId) : Bool :=
  (service.snapshotWorkers[worker]?).getD false

/-- A run goes on once what it waits for has come. -/
def resume (service : BrokerService) (run : RunId) (fault : Bool) : Option BrokerService :=
  match service.runs[run]? with
  | none => none
  | some found =>
      match found.stage with
      | .scheduled => some (service.beginShutdown run fault)
      | .awaitingIdle work =>
          if service.queue.isSettled work ∧ service.queue.activeIdleReconciliation ≠ some work then
            some (service.drainCommands run fault)
          else none
      | .awaitingCommands works =>
          if works.all service.queue.isSettled then some (service.setStage run .commandsTurn)
          else none
      | .commandsTurn => some (service.drainSnapshots run fault)
      | .awaitingSnapshots workers =>
          if workers.all service.isSnapshotSettled then
            some (service.setStage run .snapshotsTurn)
          else none
      | .snapshotsTurn => some (service.removeMetadata run fault)
      | .closing =>
          if service.connections = [] then
            some (service.removeSocket run found.exitProcess fault)
          else none
      | .finished => none

/-- A call of `shutdown` is on its way. -/
def callFor (service : BrokerService) (exitProcess : Bool) : BrokerService :=
  { service with runs := service.runs ++ [{ exitProcess }] }

/-- SIGINT and SIGTERM. -/
def signal (service : BrokerService) (fault : Bool) : BrokerService :=
  if service.shuttingDown then service
  else
    (service.closeCommandAdmissionForShutdown.callFor true).beginShutdown
      service.runs.length fault

/-! ## Connections and stop requests -/

/-- A connection made while admission is closed is destroyed at once. -/
def connect (service : BrokerService) : Option BrokerService :=
  if service.listening then
    let accepted := { service with accepted := service.accepted + 1 }
    if service.shuttingDown then some accepted
    else some { accepted with connections := service.connections ++ [service.accepted] }
  else none

/-- Whatever a broken connection carried is gone, completion callbacks included. -/
def disconnect (service : BrokerService) (connection : ConnectionId) : Option BrokerService :=
  if connection ∈ service.connections then
    some { service with
      connections := service.connections.filter (· ≠ connection)
      stopRequests := service.stopRequests.filter (·.connection ≠ connection) }
  else none

def stopRequest (service : BrokerService) (connection : ConnectionId) : Option BrokerService :=
  if connection ∈ service.connections then
    some { service with stopRequests := service.stopRequests ++ [{ connection }] }
  else none

/-- `POST /v1/service/stop` from the end of its body on.  A body that cannot be read, or
that expects another service, is answered with an error and without a callback. -/
def receiveStop (service : BrokerService) (index : Nat) (valid : Bool) : Option BrokerService :=
  match service.stopRequests[index]? with
  | none => none
  | some request =>
      if request.stage = .reading then
        if valid then
          some { service.closeCommandAdmissionForShutdown with
            stopRequests := service.stopRequests.set index { request with stage := .answering } }
        else some { service with stopRequests := service.stopRequests.eraseIdx index }
      else none

/-- The answer to a stop request is fully written. -/
def stopAnswered (service : BrokerService) (index : Nat) : Option BrokerService :=
  match service.stopRequests[index]? with
  | none => none
  | some request =>
      if request.stage = .answering then
        some { service.callFor false with
          stopRequests := service.stopRequests.eraseIdx index }
      else none

/-! ## Snapshot workers -/

def runTrackedAppSnapshotWorker (service : BrokerService) : BrokerService :=
  if service.shuttingDown then service
  else
    { service with
      snapshotWorkers := service.snapshotWorkers ++ [false]
      activeSnapshotWorkers := service.activeSnapshotWorkers ++ [service.snapshotWorkers.length] }

/-- A snapshot worker ends, with a result or with an error: its request handles both. -/
def finishSnapshot (service : BrokerService) (worker : SnapshotId) : Option BrokerService :=
  if service.snapshotWorkers[worker]? = some false then
    some { service with snapshotWorkers := service.snapshotWorkers.set worker true }
  else none

/-- `forgetSnapshotWorker`. -/
def forgetSnapshot (service : BrokerService) (worker : SnapshotId) : Option BrokerService :=
  if service.isSnapshotSettled worker then
    some { service with
      activeSnapshotWorkers := service.activeSnapshotWorkers.filter (· ≠ worker) }
  else none

/-- The queue moves, and nothing else. -/
def withQueue (service : BrokerService) (queue : Daemon) : BrokerService :=
  { service with queue }

end BrokerService

/-! ## Runs -/

/-- The turns of the daemon.  A fault is a removal that fails in this turn. -/
inductive ServiceEvent where
  | command (files : ServiceFiles) (body : CommandBody) (now : Int)
  | idleTick (healthy : Bool)
  | start (files : ServiceFiles) (work : WorkId) (now : Int)
  | finish (work : WorkId) (succeeds : Bool)
  | forget (work : WorkId)
  | snapshot
  | finishSnapshot (worker : SnapshotId)
  | forgetSnapshot (worker : SnapshotId)
  | connect
  | disconnect (connection : ConnectionId)
  | stopRequest (connection : ConnectionId)
  | receiveStop (index : Nat) (valid : Bool)
  | stopAnswered (index : Nat)
  | signal (fault : Bool)
  | resume (run : RunId) (fault : Bool)
  | uncaughtException

/-- One turn; `none` when the event cannot happen. -/
def BrokerService.step (service : BrokerService) (event : ServiceEvent) : Option BrokerService :=
  if service.exited then none
  else match event with
  | .command files body now =>
      some (service.withQueue (service.queue.receiveCommand files body now))
  | .idleTick healthy => some (service.withQueue (service.queue.idleTick healthy))
  | .start files work now => (service.queue.startWork files work now).map service.withQueue
  | .finish work succeeds => (service.queue.finishWork work succeeds).map service.withQueue
  | .forget work => (service.queue.forgetWork work).map service.withQueue
  | .snapshot => some service.runTrackedAppSnapshotWorker
  | .finishSnapshot worker => service.finishSnapshot worker
  | .forgetSnapshot worker => service.forgetSnapshot worker
  | .connect => service.connect
  | .disconnect connection => service.disconnect connection
  | .stopRequest connection => service.stopRequest connection
  | .receiveStop index valid => service.receiveStop index valid
  | .stopAnswered index => service.stopAnswered index
  | .signal fault => some (service.signal fault)
  | .resume run fault => service.resume run fault
  | .uncaughtException => some service.exit

def BrokerService.run (service : BrokerService) (events : List ServiceEvent) :
    Option BrokerService :=
  events.foldlM BrokerService.step service

end SimulatorBroker.Service
