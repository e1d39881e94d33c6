import SimulatorBroker.State.World

/-!
# The surroundings of a command

Which answers an operation may get, what may fail, and what may happen outside
the broker between two operations.  The surroundings are a parameter: a statement
about every environment leaves them free, one that assumes something of the
environment says so about them.
-/

namespace SimulatorBroker.State

open SimulatorBroker.Effects

/-- `drift` is what may happen outside between two operations, `ownerAlive` are
the leases whose owner process lives throughout, `mayFail` are the operations
that may throw. -/
structure Surroundings where
  drift : Outside → Outside → Prop
  later : ∀ {before after}, drift before after → before.Later after
  ownerAlive : LeaseId → Prop
  mayFail : BrokerOp → World → Prop

/-- Any other program may do anything, and every call may fail. -/
def Surroundings.arbitrary : Surroundings where
  drift := Outside.Later
  later := id
  ownerAlive _ := False
  mayFail _ _ := True

/-! ## Answers -/

/-- The values an operation may return. -/
def Answered (surroundings : Surroundings) : (op : BrokerOp) → World → op.Ret → Prop
  | .now, world, value => value = world.outside.clock
  | .randomUuid, world, value => value = world.outside.nextId
  | .linkArtifact path _, world, _ => world.store.artifacts path = none
  | .readHostConfig, world, value => value = world.store.hostConfig
  | .hostConfigExists, world, value => value = world.store.hostConfig.isSome
  | .readRegistry, world, value => value = world.store.registry
  | .listLeases, world, value => value.Perm world.store.leases
  | .readLease leaseId, world, value => value = world.store.lease? leaseId
  | .readArtifact path, world, value =>
      value = world.store.artifacts path ∧ ∀ content, value ≠ some (.other false content)
  | .listPins, world, value => value.Perm world.store.pins
  | .readKnownProjects, world, value => value = world.store.knownProjects
  | .readIdlePolicy, world, value => value = world.store.idlePolicy
  | .listTransactions, world, value => value.Perm world.store.transactions
  | .readEvents, world, value => value = world.store.events
  | .listDeviceTypes, world, value => value = world.outside.deviceTypes
  | .listDevices, world, value => value = world.outside.devices
  | .listRuntimes, world, value => value = world.outside.runtimes
  | .createDevice _ _ _, world, value => value = world.outside.nextDevice
  | .processExists pid, world, value =>
      ∀ lease ∈ world.store.leases, surroundings.ownerAlive lease.leaseId →
        lease.ownerPid = pid → value = true
  | .sampleProcesses, world, value =>
      ∀ lease ∈ world.store.leases, surroundings.ownerAlive lease.leaseId →
        OwnerSampled lease world.outside.clock value
  | .containLeaseProcesses _ reason, _, value =>
      reason ≠ .memoryCeiling → ∀ observation, value ≠ .notContained observation
  | _, _, _ => True

/-! ## Errors -/

/-- An error thrown by Node or by `simctl`, not by the broker's own code. -/
structure BrokerError.Foreign (error : BrokerError) : Prop where
  notBroker : error.isBrokerError = false
  notCommitted : error.hostConfigCommitted = false
  noFailures : error.rollbackFailures = []

/-- A foreign error without a reason code of its own. -/
structure BrokerError.Raw (error : BrokerError) : Prop extends error.Foreign where
  noReason : error.reasonCode = none

/-- A process sample fails like any spawned command, or by its time limit. -/
def BrokerError.OfSampler (error : BrokerError) : Prop :=
  error.Foreign ∧ (error.reasonCode = none ∨ error.reasonCode = some .processSamplerTimeout)

/-- The errors an operation may throw. -/
def ErrorOf : BrokerOp → World → BrokerError → Prop
  | .now, _, _ | .randomUuid, _, _ | .processExists _, _, _ | .hostConfigExists, _, _ => False
  | .lock .lease, _, error =>
      error.OfSampler ∨ error = .broker .aliasBusy ∨ error = .broker .setupInterrupted
  | .lock .capacity, _, error =>
      error.OfSampler ∨ error = .broker .capacityApplyBlocked ∨ error = .broker .setupInterrupted
  | .lock .reset, _, error => error.OfSampler ∨ error = .broker .resetLockTimeout
  | .linkArtifact path _, world, error =>
      error.Raw ∧ (error.alreadyExists = true ↔ world.store.artifacts path ≠ none)
  | .readHostConfig, _, error | .readRegistry, _, error | .listLeases, _, error
  | .listPins, _, error | .readKnownProjects, _, error | .readIdlePolicy, _, error
  | .listTransactions, _, error => error.Raw ∨ error = .broker .invalidConfig
  | .readProject, _, error =>
      error.Raw ∨ error = .broker .invalidConfig ∨ error = .broker .missingProjectFile
  | .sampleProcesses, _, error | .containLeaseProcesses _ _, _, error => error.OfSampler
  | _, _, error => error.Raw

/-! ## The step relation -/

/-- Nothing of the broker changed since; outside, the surroundings drifted. -/
structure Settles (surroundings : Surroundings) (before after : World) : Prop where
  store : after.store = before.store
  ledger : after.ledger = before.ledger
  drift : surroundings.drift before.outside after.outside

/-- The operation returns a value and has its effect, or throws. -/
inductive Answers (surroundings : Surroundings) (op : BrokerOp) (world : World) :
    Except BrokerError op.Ret → World → Prop where
  | ok {value : op.Ret} {after : World} :
      Answered surroundings op world value → Settles surroundings (op.effect world) after →
      Answers surroundings op world (.ok value) after
  | error {error : BrokerError} {after : World} :
      surroundings.mayFail op world → ErrorOf op world error →
      Settles surroundings world after → Answers surroundings op world (.error error) after
  | late {error : BrokerError} {after : World} :
      surroundings.mayFail op world → ErrorOf op world error → op.mayFailLate = true →
      Settles surroundings (op.effect world) after →
      Answers surroundings op world (.error error) after

def brokerHandler (surroundings : Surroundings) :
    Handler brokerSignature BrokerError World where
  step op world answer after := Answers surroundings op world answer after

/-! ## Rules for single operations -/

section Rules

variable {surroundings : Surroundings} {guard : BrokerOp → World → Prop} {world : World}

/-- One operation: its guard, every value with its effect, every error. -/
theorem wp_perform {op : BrokerOp} {post : op.Ret → World → Prop}
    {raise : BrokerError → World → Prop}
    (hguard : guard op world)
    (hok : ∀ value after, Answered surroundings op world value →
      Settles surroundings (op.effect world) after → post value after)
    (herror : ∀ error after, surroundings.mayFail op world → ErrorOf op world error →
      (Settles surroundings world after ∨
        op.mayFailLate = true ∧ Settles surroundings (op.effect world) after) →
      raise error after) :
    wp (brokerHandler surroundings) guard (perform op) post raise world := by
  refine wp_request.mpr ⟨hguard, ?_, ?_⟩
  · rintro value after (⟨hanswered, hsettles⟩ | _ | _)
    exact hok value after hanswered hsettles
  · rintro error after (_ | ⟨hmayFail, hof, hsettles⟩ | ⟨hmayFail, hof, hlate, hsettles⟩)
    · exact herror error after hmayFail hof (.inl hsettles)
    · exact herror error after hmayFail hof (.inr ⟨hlate, hsettles⟩)

end Rules

end SimulatorBroker.State
