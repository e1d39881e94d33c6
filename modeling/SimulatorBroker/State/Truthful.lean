import SimulatorBroker.State.Surroundings

/-!
# A truthful run of a command

A script fixes what the files do not: the project, the processes, the disk usage, which
calls fail and how much time each call takes.  Together with the world it answers every
operation, always with an answer that the broker's handler allows.
-/

namespace SimulatorBroker.State

open SimulatorBroker.Effects

/-- How a call is made to fail; a lock can also be busy. -/
inductive Fault where
  | thrown
  | busy
  deriving DecidableEq, Repr

structure Script where
  project : ProjectConfig := { projectId := "", purposes := [] }
  alive : Pid → Bool := fun _ => true
  samples : List ProcessRecord := []
  cleanupComplete : Bool := true
  diskBytes : Option Nat := none
  fault : Nat → Option Fault := fun _ => none
  elapse : Nat → Nat := fun _ => 0

/-- No process of the lease is running. -/
def quietObservation (record : Lease) (reason : ContainmentReason) : Observation where
  checkedAt := record.startedAt
  downstreamOwnedProcessCount := 0
  memoryCeilingBytes := record.runtime.memoryCeilingBytes
  ownedProcessCount := 0
  ownedRssBytes := 0
  processCount := 0
  reason := reason
  simulatorProcessCount := 0

/-- The error of a lock that is busy. -/
def busyError : LockName → BrokerError
  | .lease => .broker .aliasBusy
  | .capacity => .broker .capacityApplyBlocked
  | .reset => .broker .resetLockTimeout

/-- What stands at an artifact path can be read. -/
def readable : Option ArtifactContent → Bool
  | some (.other isJson _) => isJson
  | _ => true

namespace Script

/-- The error that a fault gives a call, where it can throw. -/
def faultError (op : BrokerOp) (world : World) (fault : Fault) : Option BrokerError :=
  match op, fault with
  | .now, _ | .randomUuid, _ | .processExists _, _ | .hostConfigExists, _ => none
  | .linkArtifact path _, _ => some { alreadyExists := (world.store.artifacts path).isSome }
  | .lock name, .busy => some (busyError name)
  | _, _ => some {}

/-- The error of a call that cannot succeed. -/
def forcedError (op : BrokerOp) (world : World) : Option BrokerError :=
  match op with
  | .linkArtifact path _ =>
      if (world.store.artifacts path).isSome then some { alreadyExists := true } else none
  | .readArtifact path => if readable (world.store.artifacts path) then none else some {}
  | _ => none

def error? (script : Script) (position : Nat) (op : BrokerOp) (world : World) :
    Option BrokerError :=
  (forcedError op world).or ((script.fault position).bind (faultError op world))

/-- The value that a call returns. -/
def value (script : Script) (world : World) : (op : BrokerOp) → op.Ret
  | .now => world.outside.clock
  | .randomUuid => world.outside.nextId
  | .readHostConfig => world.store.hostConfig
  | .hostConfigExists => world.store.hostConfig.isSome
  | .readRegistry => world.store.registry
  | .listLeases => world.store.leases
  | .readLease leaseId => world.store.lease? leaseId
  | .readArtifact path => world.store.artifacts path
  | .listPins => world.store.pins
  | .readKnownProjects => world.store.knownProjects
  | .readProject => script.project
  | .readIdlePolicy => world.store.idlePolicy
  | .listTransactions => world.store.transactions
  | .readEvents => world.store.events
  | .listDeviceTypes => world.outside.deviceTypes
  | .listDevices => world.outside.devices
  | .listRuntimes => world.outside.runtimes
  | .createDevice _ _ _ => world.outside.nextDevice
  | .measureDeviceDiskBytes _ => script.diskBytes
  | .processExists pid => script.alive pid
  | .sampleProcesses => script.samples
  | .containLeaseProcesses record reason =>
      .contained {
        observation := quietObservation record reason
        cleanupFailures := []
        remainingOwnedPids := if script.cleanupComplete then [] else [record.ownerPid] }
  | .lock _ | .unlock _ | .fs _ | .rename _ | .linkArtifact _ _ | .unlinkLease _ _
  | .unlinkArtifact _ | .unlinkPin _ | .unlinkIdlePolicy | .appendEvent _ | .renameDevice _ _
  | .shutdownDevice _ _ | .eraseDevice _ _ | .deleteDevice _ _ | .bootDevice _
  | .waitForBooted _ => ()

/-- The time of the call passes. -/
def pass (script : Script) (position : Nat) (world : World) : World :=
  { world with
    outside := { world.outside with clock := world.outside.clock + script.elapse position } }

def respond (script : Script) : Responder brokerSignature BrokerError World :=
  fun position op world =>
    match script.error? position op world with
    | some error => (.error error, script.pass position world)
    | none => (.ok (script.value world op), script.pass position (op.effect world))

theorem settles_pass (script : Script) (position : Nat) (world : World) :
    Settles .arbitrary world (script.pass position world) where
  store := rfl
  ledger := rfl
  drift := ⟨Nat.le_add_right _ _, le_rfl, le_rfl, id⟩

theorem raw_default : ({} : BrokerError).Raw := ⟨⟨rfl, rfl, rfl⟩, rfl⟩

theorem ofSampler_default : ({} : BrokerError).OfSampler := ⟨⟨rfl, rfl, rfl⟩, Or.inl rfl⟩

theorem errorOf_faultError {op : BrokerOp} {world : World} {fault : Fault} {error : BrokerError}
    (herror : faultError op world fault = some error) : ErrorOf op world error := by
  cases op with
  | now => cases herror
  | randomUuid => cases herror
  | processExists pid => cases herror
  | hostConfigExists => cases herror
  | linkArtifact path record =>
      cases herror
      exact ⟨⟨⟨rfl, rfl, rfl⟩, rfl⟩, by simp [Option.isSome_iff_ne_none]⟩
  | lock name =>
      cases fault with
      | thrown =>
          cases herror
          cases name with
          | lease => exact Or.inl ofSampler_default
          | capacity => exact Or.inl ofSampler_default
          | reset => exact Or.inl ofSampler_default
      | busy =>
          cases herror
          cases name with
          | lease => exact Or.inr (Or.inl rfl)
          | capacity => exact Or.inr (Or.inl rfl)
          | reset => exact Or.inr rfl
  | readHostConfig | readRegistry | listLeases | listPins | readKnownProjects | readIdlePolicy
  | listTransactions | readProject =>
      cases herror
      exact Or.inl raw_default
  | sampleProcesses =>
      cases herror
      exact ofSampler_default
  | containLeaseProcesses record reason =>
      cases herror
      exact ofSampler_default
  | _ =>
      cases herror
      exact raw_default

theorem errorOf_forcedError {op : BrokerOp} {world : World} {error : BrokerError}
    (herror : forcedError op world = some error) : ErrorOf op world error := by
  cases op with
  | linkArtifact path record =>
      simp only [forcedError, Option.ite_none_right_eq_some, Option.some.injEq] at herror
      obtain ⟨hsome, rfl⟩ := herror
      exact ⟨⟨⟨rfl, rfl, rfl⟩, rfl⟩, by simpa [Option.isSome_iff_ne_none] using hsome⟩
  | readArtifact path =>
      simp only [forcedError, Option.ite_none_left_eq_some, Option.some.injEq] at herror
      obtain ⟨-, rfl⟩ := herror
      exact raw_default
  | _ => cases herror

theorem errorOf_error? {script : Script} {position : Nat} {op : BrokerOp} {world : World}
    {error : BrokerError} (herror : script.error? position op world = some error) :
    ErrorOf op world error := by
  rcases Option.or_eq_some_iff.mp herror with hforced | ⟨-, hfault⟩
  · exact errorOf_forcedError hforced
  · obtain ⟨fault, -, hfault⟩ := Option.bind_eq_some_iff.mp hfault
    exact errorOf_faultError hfault

theorem answered_value {script : Script} {position : Nat} {op : BrokerOp} {world : World}
    (hnone : script.error? position op world = none) :
    Answered .arbitrary op world (script.value world op) := by
  have hforced : forcedError op world = none := (Option.or_eq_none_iff.mp hnone).1
  cases op with
  | linkArtifact path record => simpa [forcedError, Answered] using hforced
  | readArtifact path =>
      refine ⟨rfl, fun content hcontent => ?_⟩
      have hcontent : world.store.artifacts path = some (.other false content) := hcontent
      simp [forcedError, hcontent, readable] at hforced
  | listLeases => exact .refl _
  | listPins => exact .refl _
  | listTransactions => exact .refl _
  | processExists pid =>
      rintro lease - ⟨⟩
  | sampleProcesses =>
      rintro lease - ⟨⟩
  | containLeaseProcesses record reason =>
      rintro - observation ⟨⟩
  | _ => trivial

/-- Every answer of a script is one that the handler allows. -/
theorem sound_respond (script : Script) : script.respond.Sound (brokerHandler .arbitrary) := by
  intro position op world
  simp only [respond]
  split
  · next error herror =>
    exact .error trivial (errorOf_error? herror) (settles_pass script position world)
  · next hnone => exact .ok (answered_value hnone) (settles_pass script position _)

end Script

/-! ## Narrower surroundings -/

/-- Any other program may do anything, and the calls that fail are among those allowed. -/
def Surroundings.allowing (allows : BrokerOp → World → Bool) : Surroundings :=
  { Surroundings.arbitrary with mayFail := fun op world => allows op world = true }

/-- An error, where the call may fail. -/
def allowedAnswer (allows : BrokerOp → World → Bool) (op : BrokerOp) (world : World) :
    Except BrokerError op.Ret → Bool
  | .ok _ => true
  | .error _ => allows op world

theorem answers_allowing {allows : BrokerOp → World → Bool} {op : BrokerOp} {before after : World}
    {answer : Except BrokerError op.Ret} (hallowed : allowedAnswer allows op before answer = true)
    (hstep : Answers .arbitrary op before answer after) :
    Answers (.allowing allows) op before answer after := by
  cases hstep with
  | ok hanswered hsettles =>
      refine .ok ?_ ⟨hsettles.store, hsettles.ledger, hsettles.drift⟩
      cases op with
      | _ => exact hanswered
  | error _ herror hsettles =>
      exact .error hallowed herror ⟨hsettles.store, hsettles.ledger, hsettles.drift⟩
  | late _ herror hlate hsettles =>
      exact .late hallowed herror hlate ⟨hsettles.store, hsettles.ledger, hsettles.drift⟩

/-! ## A host -/

/-- One alias, bound to a healthy simulator; nothing has been leased yet. -/
def singleHost : World where
  store := {
    hostConfig := some {
      hostId := "mac"
      aliases := [{
        aliasName := "build-1", capabilities := ["build-fast"], deviceFamily := .iPhone
        displayName := "Build 1", iosVersion := "18.0", resetPolicy := .none, simulatorId := 0 }] } }
  outside := {
    nextDevice := 1
    devices := [{
      udid := 0, deviceTypeIdentifier := "iPhone-16", name := "Build 1"
      runtimeIdentifier := "iOS-18-0" }]
    deviceTypes := [{ identifier := "iPhone-16", name := "iPhone 16", productFamily := some .iPhone }]
    runtimes := [{ identifier := "iOS-18-0", version := some "18.0" }] }

/-- A project with a purpose that any build slot serves. -/
def buildProject : ProjectConfig where
  projectId := "app"
  purposes := [{ id := "tests", capability := "build-fast" }]

end SimulatorBroker.State
