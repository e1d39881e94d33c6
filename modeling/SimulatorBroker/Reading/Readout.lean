import SimulatorBroker.Broker.Commands
import SimulatorBroker.State.Surroundings

/-!
# Runs that read the same things

A readout fixes what the clock, the process table, the simulators, the project
file and the directory listings answer, so that two commands can be compared on
one state.
-/

namespace SimulatorBroker.Reading

open SimulatorBroker.Effects
open SimulatorBroker.State
open SimulatorBroker.Broker

/-- The answers that do not come from a single file of the store. -/
structure Readout where
  clock : Timestamp
  inventory : SimctlInventory
  leases : List Lease
  pins : List Pin
  processExists : Pid → Bool
  project : ProjectConfig
  sample : List ProcessRecord

def Follows (readout : Readout) : (op : BrokerOp) → Except BrokerError op.Ret → Prop
  | .now, .ok value => value = readout.clock
  | .listDeviceTypes, .ok value => value = readout.inventory.deviceTypes
  | .listDevices, .ok value => value = readout.inventory.devices
  | .listRuntimes, .ok value => value = readout.inventory.runtimes
  | .listLeases, .ok value => value = readout.leases
  | .listPins, .ok value => value = readout.pins
  | .processExists pid, .ok value => value = readout.processExists pid
  | .readProject, .ok value => value = readout.project
  | .sampleProcesses, .ok value => value = readout.sample
  | _, _ => True

def readoutHandler (surroundings : Surroundings) (readout : Readout) :
    Handler brokerSignature BrokerError World where
  step op world answer after := Answers surroundings op world answer after ∧ Follows readout op answer

/-- In every run with that readout, a return satisfies `post` and an error `raise`. -/
def Returns {α : Type} (surroundings : Surroundings) (readout : Readout) (body : Broker α)
    (post : α → World → Prop) (raise : BrokerError → World → Prop) (world : World) : Prop :=
  wp (readoutHandler surroundings readout) (fun _ _ => True) body post raise world

variable {α β ι : Type} {surroundings : Surroundings} {readout : Readout} {world : World}
  {post : α → World → Prop} {raise : BrokerError → World → Prop}

theorem Returns.pure {value : α} (hpost : post value world) :
    Returns surroundings readout (Pure.pure value) post raise world :=
  hpost

theorem Returns.throw {error : BrokerError} (hraise : raise error world) :
    Returns surroundings readout (MonadExcept.throw error : Broker α) post raise world :=
  hraise

theorem Returns.seq {post : β → World → Prop} {body : Broker α} {rest : α → Broker β}
    {middle : α → World → Prop}
    (hbody : Returns surroundings readout body middle raise world)
    (hrest : ∀ value after, middle value after →
      Returns surroundings readout (rest value) post raise after) :
    Returns surroundings readout (body >>= rest) post raise world :=
  (wp_bind body rest).mpr (wp.weaken hbody hrest fun _ _ herror => herror)

theorem Returns.weaken {body : Broker α} {post' : α → World → Prop}
    {raise' : BrokerError → World → Prop}
    (hbody : Returns surroundings readout body post raise world)
    (hpost : ∀ value after, post value after → post' value after)
    (hraise : ∀ error after, raise error after → raise' error after) :
    Returns surroundings readout body post' raise' world :=
  wp.weaken hbody hpost hraise

theorem Returns.attempt {body : Broker α} {post : Except BrokerError α → World → Prop}
    (hbody : Returns surroundings readout body (fun value after => post (.ok value) after)
      (fun error after => post (.error error) after) world) :
    Returns surroundings readout body.attempt post raise world :=
  (wp_attempt body).mpr hbody

/-- One operation: its values with their effect, its errors with or without. -/
theorem Returns.op {op : BrokerOp} {post : op.Ret → World → Prop}
    (hok : ∀ value after, Answered surroundings op world value → Follows readout op (.ok value) →
      Settles surroundings (op.effect world) after → post value after)
    (herror : ∀ error after, ErrorOf op world error →
      Settles surroundings world after ∨ Settles surroundings (op.effect world) after →
        raise error after) :
    Returns surroundings readout (perform op) post raise world := by
  refine wp_request.mpr ⟨trivial, ?_, ?_⟩
  · rintro value after ⟨hanswers, hfollows⟩
    cases hanswers with
    | ok hanswered hsettles => exact hok value after hanswered hfollows hsettles
  · rintro error after ⟨hanswers, -⟩
    cases hanswers with
    | error _ hof hsettles => exact herror error after hof (.inl hsettles)
    | late _ hof _ hsettles => exact herror error after hof (.inr hsettles)

/-- An operation that changes no file: the store stays as it was. -/
theorem Returns.read {op : BrokerOp} {post : op.Ret → World → Prop}
    (heffect : (op.effect world).store = world.store)
    (hok : ∀ value after, Answered surroundings op world value → Follows readout op (.ok value) →
      after.store = world.store → post value after)
    (herror : ∀ error after, ErrorOf op world error → after.store = world.store →
      raise error after) :
    Returns surroundings readout (perform op) post raise world := by
  refine .op (fun value after hanswered hfollows hsettles =>
    hok value after hanswered hfollows (hsettles.store.trans heffect)) ?_
  rintro error after hof (hsettles | hsettles)
  · exact herror error after hof hsettles.store
  · exact herror error after hof (hsettles.store.trans heffect)

/-! ## Errors of a kind -/

/-- Whatever happens, the program throws only errors that satisfy `p`. -/
def Throws (surroundings : Surroundings) (readout : Readout) (p : BrokerError → Prop)
    (body : Broker α) : Prop :=
  ∀ world, Returns surroundings readout body (fun _ _ => True) (fun error _ => p error) world

variable {p : BrokerError → Prop}

theorem Throws.pure (value : α) : Throws surroundings readout p (Pure.pure value : Broker α) :=
  fun _ => trivial

theorem Throws.throw {error : BrokerError} (herror : p error) :
    Throws surroundings readout p (MonadExcept.throw error : Broker α) :=
  fun _ => herror

theorem Throws.bind {body : Broker α} {rest : α → Broker β}
    (hbody : Throws surroundings readout p body)
    (hrest : ∀ value, Throws surroundings readout p (rest value)) :
    Throws surroundings readout p (body >>= rest) :=
  fun world => (hbody world).seq fun value after _ => hrest value after

theorem Throws.op {op : BrokerOp} (herror : ∀ world error, ErrorOf op world error → p error) :
    Throws surroundings readout p (perform op) :=
  fun world => .op (fun _ _ _ _ _ => trivial) fun error _ hof _ => herror world error hof

theorem Throws.any (body : Broker α) : Throws surroundings readout (fun _ => True) body := by
  intro world
  induction body generalizing world with
  | done value => exact trivial
  | fail error => exact trivial
  | perform op next ih => exact ⟨trivial, fun answer after _ => ih answer after⟩

theorem Throws.catch {body : Broker α} {handler : BrokerError → Broker α}
    (hhandler : ∀ error, Throws surroundings readout p (handler error)) :
    Throws surroundings readout p (MonadExcept.tryCatch body handler) :=
  fun world => (wp_tryCatch body handler).mpr
    ((Throws.any body world).weaken (fun _ _ _ => trivial) fun error after _ =>
      hhandler error after)

/-- The handler sees only errors of the kind. -/
theorem Throws.tryCatch {body : Broker α} {handler : BrokerError → Broker α}
    (hbody : Throws surroundings readout p body)
    (hhandler : ∀ error, p error → Throws surroundings readout p (handler error)) :
    Throws surroundings readout p (MonadExcept.tryCatch body handler) :=
  fun world => (wp_tryCatch body handler).mpr
    ((hbody world).weaken (fun _ _ _ => trivial) fun error after herror =>
      hhandler error herror after)

theorem Throws.attempt {body : Broker α} : Throws surroundings readout p body.attempt :=
  fun world => (wp_attempt body).mpr (Throws.any body world)

theorem Throws.ensuring {body : Broker α} {cleanup : Broker Unit}
    (hbody : Throws surroundings readout p body)
    (hcleanup : Throws surroundings readout p cleanup) :
    Throws surroundings readout p (body.ensuring cleanup) := by
  intro world
  refine (wp_ensuring body cleanup).mpr ?_
  exact (hbody world).weaken
    (fun _ after _ => (hcleanup after).weaken (fun _ _ _ => trivial) fun _ _ h => h)
    (fun _ after herror => (hcleanup after).weaken (fun _ _ _ => herror) fun _ _ h => h)

theorem Throws.foldlM {body : β → ι → Broker β}
    (hbody : ∀ state item, Throws surroundings readout p (body state item)) (items : List ι)
    (state : β) : Throws surroundings readout p (items.foldlM body state) := by
  induction items generalizing state with
  | nil => exact .pure state
  | cons item rest ih =>
      rw [List.foldlM_cons]
      exact .bind (hbody state item) ih

end SimulatorBroker.Reading
