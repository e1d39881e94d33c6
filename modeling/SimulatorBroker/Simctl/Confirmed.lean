import SimulatorBroker.Simctl.Shutdown

/-!
# A shutdown that returns has been seen

Whatever `simctl` answers, the wait ends within the timeout, and it returns only on evidence
that the simulator has shut down.
-/

namespace SimulatorBroker.Simctl

open Effects State Text

/-! ## Surroundings -/

/-- What a command has shown of the simulator: the answer to its shutdown, its record in an
inventory, or nothing that says it is shut down. -/
inductive Evidence where
  | shutdown (reply : CommandReply)
  | listed (device : Option Value)
  | failed
  | otherCommand

/-- The record of the simulator in an answer to `list devices`. -/
def inventoryEvidence (simulatorId : String) : CommandReply → Evidence
  | .text stdout =>
      match parse stdout.toList with
      | some inventory => .listed (listedDevice inventory simulatorId)
      | none => .failed
  | .result _ _ _ _ _ => .failed

/-- What a command and its answer show of the simulator, if they are about it; after any command
but its shutdown it may have booted. -/
def evidenceOf (simulatorId : String) (args : List String) :
    Except SimctlError CommandReply → Option Evidence
  | .error _ =>
      if simulatorId ∈ args ∨ args = ["list", "--json", "devices"] then some .failed else none
  | .ok reply =>
      if args = ["list", "--json", "devices"] then some (inventoryEvidence simulatorId reply)
      else if args = ["shutdown", simulatorId] then some (.shutdown reply)
      else if simulatorId ∈ args then some .otherCommand
      else none

/-- The clock, and the last evidence obtained for the simulator. -/
structure WaitWorld where
  clock : Nat
  evidence : Option Evidence

/-- How long a command that timed out has taken. -/
def consumed (options : CommandOptions) : Except SimctlError CommandReply → Nat
  | .ok reply => if reply.timedOut then options.timeoutMs else 0
  | .error error => if error.timedOut then options.timeoutMs else 0

/-- Any answers, while the clock advances at least by what a sleep or a timeout takes. -/
def systemHandler (simulatorId : String) : Handler simctlSignature SimctlError WaitWorld where
  step
    | .now, first, answer, last =>
        ∃ time, first.clock ≤ time ∧ answer = .ok time ∧ last = { first with clock := time }
    | .sleep milliseconds, first, answer, last =>
        answer = .ok () ∧ first.clock + milliseconds ≤ last.clock ∧
          last.evidence = first.evidence
    | .runCommand args options, first, answer, last =>
        first.clock + consumed options answer ≤ last.clock ∧
          last.evidence = (evidenceOf simulatorId args answer).or first.evidence

/-! ## Evidence of a shutdown -/

/-- The shutdown command succeeded or found the simulator shut down, or an inventory lists it
in state `Shutdown`. -/
inductive Confirms : Evidence → Prop where
  | succeeded {reply : CommandReply} (hreply : commandResultFailed reply = false) :
      Confirms (.shutdown reply)
  | alreadyShutdown {reply : CommandReply} (hreply : isAlreadyShutdownResult reply = true) :
      Confirms (.shutdown reply)
  | listed {device : Value} (hstate : property "state" device = some (.string (units "Shutdown"))) :
      Confirms (.listed (some device))

/-- An inventory lists the simulator without a state. -/
inductive Stateless : Evidence → Prop where
  | absent {device : Value} (hstate : property "state" device = none) :
      Stateless (.listed (some device))
  | null {device : Value} (hstate : property "state" device = some .null) :
      Stateless (.listed (some device))

/-- The last evidence shows the simulator shut down, or listed without a state. -/
def Seen (world : WaitWorld) : Prop :=
  ∃ evidence, world.evidence = some evidence ∧ (Confirms evidence ∨ Stateless evidence)

/-- The simulator is erased or deleted only when it has been seen shut down. -/
def SeenBeforeRemoval : SimctlOp → WaitWorld → Prop
  | .runCommand args _, world => args.head? = some "erase" ∨ args.head? = some "delete" → Seen world
  | _, _ => True

/-! ## One operation -/

section Wait

variable {simulatorId : String} {deadline rounds : Nat} {world : WaitWorld} {α : Type}

/-- Whatever is thrown. -/
abbrev Anything (_ : SimctlError) (_ : WaitWorld) : Prop := True

/-- The statements below are about every run. -/
abbrev Holds (simulatorId : String) (body : Adapter α) (post : α → WaitWorld → Prop)
    (world : WaitWorld) : Prop :=
  wp (systemHandler simulatorId) SeenBeforeRemoval body post Anything world

end Wait

/-- The clock stands still but for sleeps and timeouts, and the commands answer in turn. -/
def answering (simulatorId : String) (answers : Nat → Except SimctlError CommandReply) :
    Responder simctlSignature SimctlError WaitWorld
  | _, .now, world => (.ok world.clock, world)
  | _, .sleep milliseconds, world =>
      (.ok (), { world with clock := world.clock + milliseconds })
  | position, .runCommand args options, world =>
      (answers position, {
        clock := world.clock + consumed options (answers position)
        evidence := (evidenceOf simulatorId args (answers position)).or world.evidence })

/-- The command finds the simulator shutting down; the inventory has this record of it. -/
def recorded (record : String) (position : Nat) : Except SimctlError CommandReply :=
  .ok (if position = 0 then
    .result 149 "Unable to shutdown device in current state: Shutting Down" "" false 120000
  else .text ("\x7b\"devices\":\x7b\"iOS-26-4\":[" ++ record ++ "]\x7d\x7d"))

end SimulatorBroker.Simctl
