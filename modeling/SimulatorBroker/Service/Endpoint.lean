import Mathlib.Logic.Function.Basic
import SimulatorBroker.Service.Shutdown

/-!
# The endpoint that daemons share

Daemons and `service stop` and `service start` processes work on one socket file and one
metadata file.  Every step of a process that touches a file, the startup lock or the
socket is one event.  A file is known by the daemon that created it.  A probe connects
when the socket file at the path belongs to a live process that listens; a new listen
needs the path to be free, and closing a server unlinks its path.
-/

namespace SimulatorBroker.Service

abbrev DaemonId : Type := Nat

abbrev ClientId : Type := Nat

/-- What the current turn of a process still has to do; `remove` is the second half of a
`look` that has seen its file. -/
inductive Task where
  | look (file : EndpointFile)
  | remove (file : EndpointFile)
  | close
  | exit
  deriving DecidableEq, Repr

def removeIfExists (file : EndpointFile) : List Task := [.look file]

def removeEndpoint : List Task := removeIfExists .metadata ++ removeIfExists .socket

/-- The files of the endpoint, by creator, and the holder of the startup lock. -/
structure Endpoint where
  files : EndpointFile → Option DaemonId := fun _ => none
  lock : Option DaemonId := none

namespace Endpoint

def create (endpoint : Endpoint) (file : EndpointFile) (owner : DaemonId) : Endpoint :=
  { endpoint with files := Function.update endpoint.files file (some owner) }

@[simp] theorem create_self (endpoint : Endpoint) (file : EndpointFile) (owner : DaemonId) :
    (endpoint.create file owner).files file = some owner := Function.update_self _ _ _

def unlink (endpoint : Endpoint) (file : EndpointFile) : Endpoint :=
  { endpoint with files := Function.update endpoint.files file none }

theorem unlink_of_ne {endpoint : Endpoint} {file other : EndpointFile} (hother : other ≠ file) :
    (endpoint.unlink file).files other = endpoint.files other := Function.update_of_ne hother _ _

/-- The lock of a process that has gone counts as free. -/
def release (endpoint : Endpoint) (holder : DaemonId) : Endpoint :=
  { endpoint with lock := endpoint.lock.filter (· ≠ holder) }

end Endpoint

/-! ## Daemons -/

/-- The stages of `startBrokerService`, and how it ends. -/
inductive DaemonStage where
  | absent
  | waiting
  | probing
  | preparing
  | failed
  | binding
  | publishing
  | opened
  | running
  | crashing
  | ended
  deriving DecidableEq, Repr

/-- A shutdown run between its turns. -/
structure PendingRun where
  exitProcess : Bool
  closing : Bool := false
  deriving DecidableEq, Repr

structure BrokerDaemon where
  stage : DaemonStage := .absent
  turn : List Task := []
  listening : Bool := false
  stopping : Bool := false
  answers : Nat := 0
  runs : List PendingRun := []
  deriving DecidableEq, Repr

inductive DaemonAction where
  | spawn
  | lock
  | giveUp
  | probe
  | reconcile (succeeds : Bool)
  | listen
  | publish
  | ready
  | signal
  | answered
  | lost
  | resume (run : Nat)
  | act
  | uncaughtException
  | leave
  | kill
  deriving DecidableEq, Repr

namespace BrokerDaemon

/-- Finished starting, and not begun to shut down. -/
def Serving (daemon : BrokerDaemon) : Prop :=
  daemon.stage = .running ∧ daemon.stopping = false

instance (daemon : BrokerDaemon) : Decidable daemon.Serving :=
  inferInstanceAs (Decidable (_ ∧ _))

def gone : BrokerDaemon where
  stage := .ended

/-- The head of the turn. -/
def perform (daemon : BrokerDaemon) (self : DaemonId) (endpoint : Endpoint) :
    Option (Endpoint × BrokerDaemon) :=
  match daemon.turn with
  | [] => none
  | .look file :: rest =>
      some (endpoint,
        { daemon with turn := if endpoint.files file = none then rest else .remove file :: rest })
  | .remove file :: rest => some (endpoint.unlink file, { daemon with turn := rest })
  | .close :: rest =>
      some (if daemon.listening then endpoint.unlink .socket else endpoint,
        { daemon with turn := rest, listening := false, answers := 0 })
  | .exit :: _ => some (endpoint.release self, gone)

/-- SIGINT and SIGTERM: without a handler the process is gone. -/
def signal (daemon : BrokerDaemon) (self : DaemonId) (endpoint : Endpoint) :
    Option (Endpoint × BrokerDaemon) :=
  match daemon.stage with
  | .waiting | .probing | .preparing | .failed | .binding => some (endpoint.release self, gone)
  | .running =>
      if daemon.turn = [] then
        if daemon.stopping then some (endpoint, daemon)
        else
          some (endpoint,
            { daemon with stopping := true, runs := daemon.runs ++ [{ exitProcess := true }] })
      else none
  | _ => none

/-- A shutdown run goes on. -/
def resume (daemon : BrokerDaemon) (run : Nat) : Option BrokerDaemon :=
  match daemon.runs[run]? with
  | none => none
  | some { exitProcess, closing := false } =>
      some { daemon with
        turn := removeIfExists .metadata ++ [.close]
        runs := daemon.runs.set run { exitProcess, closing := true } }
  | some { exitProcess, closing := true } =>
      some { daemon with
        turn := removeIfExists .socket ++ if exitProcess then [.exit] else []
        runs := daemon.runs.eraseIdx run }

/-- One step of a daemon; `connects` says whether a probe would connect. -/
def next (daemon : BrokerDaemon) (self : DaemonId) (endpoint : Endpoint) (connects : Bool) :
    DaemonAction → Option (Endpoint × BrokerDaemon)
  | .spawn =>
      if daemon.stage = .absent then some (endpoint, { stage := .waiting }) else none
  | .lock =>
      if daemon.stage = .waiting ∧ endpoint.lock = none then
        some ({ endpoint with lock := some self }, { stage := .probing })
      else none
  | .giveUp => if daemon.stage = .waiting then some (endpoint, gone) else none
  | .probe =>
      if daemon.stage = .probing then
        if connects then some (endpoint.release self, gone)
        else some (endpoint, { stage := .preparing, turn := removeIfExists .socket })
      else none
  | .reconcile succeeds =>
      if daemon.stage = .preparing ∧ daemon.turn = [] then
        if succeeds then some (endpoint, { stage := .binding })
        else some (endpoint.release self, { stage := .failed, turn := removeEndpoint })
      else none
  | .listen =>
      if daemon.stage = .binding then
        if endpoint.files .socket = none then
          some (endpoint.create .socket self, { stage := .publishing, listening := true })
        else some (endpoint.release self, gone)
      else none
  | .publish =>
      if daemon.stage = .publishing then
        some (endpoint.create .metadata self, { daemon with stage := .opened })
      else none
  | .ready =>
      if daemon.stage = .opened then
        some (endpoint.release self, { daemon with stage := .running })
      else none
  | .signal => daemon.signal self endpoint
  | .answered =>
      if daemon.stage = .running ∧ daemon.turn = [] ∧ 0 < daemon.answers then
        some (endpoint, { daemon with
          answers := daemon.answers - 1
          runs := daemon.runs ++ [{ exitProcess := false }] })
      else none
  | .lost =>
      if 0 < daemon.answers then some (endpoint, { daemon with answers := daemon.answers - 1 })
      else none
  | .resume run =>
      if daemon.stage = .running ∧ daemon.turn = [] then
        (daemon.resume run).map fun daemon => (endpoint, daemon)
      else none
  | .act => daemon.perform self endpoint
  | .uncaughtException =>
      if daemon.stage = .publishing ∨ daemon.stage = .opened ∨ daemon.stage = .running then
        some (endpoint, { stage := .crashing, turn := removeEndpoint, stopping := true,
                          listening := daemon.listening })
      else none
  | .leave =>
      if daemon.turn = [] ∧ (daemon.stage = .failed ∨ daemon.stage = .crashing ∨
          daemon.stage = .running ∧ daemon.listening = false ∧ daemon.runs = []) then
        some (endpoint.release self, gone)
      else none
  | .kill =>
      if daemon.stage = .absent then none else some (endpoint.release self, gone)

end BrokerDaemon

/-! ## `service stop` and `service start` -/

inductive ClientStage where
  | absent
  | checking
  | inspecting
  | requesting (expected : DaemonId)
  | waiting
  | cleaning
  | spawning
  | ended
  deriving DecidableEq, Repr

structure ServiceClient where
  starts : Bool := false
  stage : ClientStage := .absent
  turn : List Task := []
  deriving DecidableEq, Repr

inductive ClientAction where
  | launch (starts : Bool)
  | check (healthy : Bool)
  | inspect
  | requestFails
  | wait
  | act
  | cleaned
  | leave
  deriving DecidableEq, Repr

namespace ServiceClient

/-- The clean-up of `stopService`. -/
def cleanUp (client : ServiceClient) : ServiceClient :=
  { client with stage := .cleaning, turn := removeEndpoint }

def perform (client : ServiceClient) (endpoint : Endpoint) : Option (Endpoint × ServiceClient) :=
  match client.turn with
  | .look file :: rest =>
      some (endpoint,
        { client with turn := if endpoint.files file = none then rest else .remove file :: rest })
  | .remove file :: rest => some (endpoint.unlink file, { client with turn := rest })
  | _ => none

/-- One step of a client; `answering` is the daemon that a probe reaches. -/
def next (client : ServiceClient) (endpoint : Endpoint) (answering : Option DaemonId) :
    ClientAction → Option (Endpoint × ServiceClient)
  | .launch starts =>
      if client.stage = .absent then
        some (endpoint, { starts, stage := if starts then .checking else .inspecting })
      else none
  | .check healthy =>
      if client.stage = .checking then
        match answering with
        | none => some (endpoint, { client with stage := .spawning })
        | some _ =>
            some (endpoint, { client with stage := if healthy then .ended else .inspecting })
      else none
  | .inspect =>
      if client.stage = .inspecting then
        match answering with
        | none => some (endpoint, client.cleanUp)
        | some daemon => some (endpoint, { client with stage := .requesting daemon })
      else none
  | .requestFails =>
      match client.stage with
      | .requesting _ => some (endpoint, { client with stage := .waiting })
      | _ => none
  | .wait =>
      if client.stage = .waiting then
        match answering with
        | none => some (endpoint, client.cleanUp)
        | some _ => some (endpoint, client)
      else none
  | .act => client.perform endpoint
  | .cleaned =>
      if client.stage = .cleaning ∧ client.turn = [] then
        some (endpoint, { client with stage := if client.starts then .spawning else .ended })
      else none
  | .leave => if client.stage = .absent then none else some (endpoint, { stage := .ended })

end ServiceClient

/-! ## The system -/

structure ServiceSystem where
  endpoint : Endpoint := {}
  daemons : DaemonId → BrokerDaemon := fun _ => {}
  clients : ClientId → ServiceClient := fun _ => {}

/-- Clients act alone, stop a daemon, or spawn one. -/
inductive SystemEvent where
  | daemon (self : DaemonId) (action : DaemonAction)
  | client (self : ClientId) (action : ClientAction)
  | requestStop (self : ClientId)
  | spawnFrom (self : ClientId) (daemon : DaemonId)
  deriving DecidableEq, Repr

namespace ServiceSystem

/-- The live process that a probe reaches. -/
def answering (system : ServiceSystem) : Option DaemonId :=
  (system.endpoint.files .socket).filter fun daemon => (system.daemons daemon).listening

def setDaemon (system : ServiceSystem) (self : DaemonId) (endpoint : Endpoint)
    (daemon : BrokerDaemon) : ServiceSystem :=
  { system with endpoint, daemons := Function.update system.daemons self daemon }

@[simp] theorem setDaemon_self (system : ServiceSystem) (self : DaemonId) (endpoint : Endpoint)
    (daemon : BrokerDaemon) : (system.setDaemon self endpoint daemon).daemons self = daemon :=
  Function.update_self _ _ _

theorem setDaemon_of_ne (system : ServiceSystem) {self other : DaemonId} (hother : other ≠ self)
    (endpoint : Endpoint) (daemon : BrokerDaemon) :
    (system.setDaemon self endpoint daemon).daemons other = system.daemons other :=
  Function.update_of_ne hother _ _

def setClient (system : ServiceSystem) (self : ClientId) (endpoint : Endpoint)
    (client : ServiceClient) : ServiceSystem :=
  { system with endpoint, clients := Function.update system.clients self client }

@[simp] theorem setClient_self (system : ServiceSystem) (self : ClientId) (endpoint : Endpoint)
    (client : ServiceClient) : (system.setClient self endpoint client).clients self = client :=
  Function.update_self _ _ _

theorem setClient_of_ne (system : ServiceSystem) {self other : ClientId} (hother : other ≠ self)
    (endpoint : Endpoint) (client : ServiceClient) :
    (system.setClient self endpoint client).clients other = system.clients other :=
  Function.update_of_ne hother _ _

/-- A valid stop request is accepted by the daemon that the client expects; another one
answers that its identity differs. -/
def requestStop (system : ServiceSystem) (self : ClientId) : Option ServiceSystem :=
  let client := system.clients self
  match client.stage, system.answering with
  | .requesting expected, some found =>
      let daemon := system.daemons found
      if daemon.stage = .running ∧ daemon.turn = [] then
        if found = expected then
          some ((system.setClient self system.endpoint { client with stage := .waiting }).setDaemon
            found system.endpoint
            { daemon with stopping := true, answers := daemon.answers + 1 })
        else some (system.setClient self system.endpoint { client with stage := .ended })
      else none
  | _, _ => none

def spawnFrom (system : ServiceSystem) (self : ClientId) (daemon : DaemonId) :
    Option ServiceSystem :=
  if (system.clients self).stage = .spawning ∧ (system.daemons daemon).stage = .absent then
    some ((system.setClient self system.endpoint
      { system.clients self with stage := .ended }).setDaemon daemon system.endpoint
        { stage := .waiting })
  else none

def step (system : ServiceSystem) : SystemEvent → Option ServiceSystem
  | .daemon self action =>
      ((system.daemons self).next self system.endpoint system.answering.isSome action).map
        fun (endpoint, daemon) => system.setDaemon self endpoint daemon
  | .client self action =>
      ((system.clients self).next system.endpoint system.answering action).map
        fun (endpoint, client) => system.setClient self endpoint client
  | .requestStop self => system.requestStop self
  | .spawnFrom self daemon => system.spawnFrom self daemon

def run (system : ServiceSystem) (events : List SystemEvent) : Option ServiceSystem :=
  events.foldlM step system

end ServiceSystem

end SimulatorBroker.Service
