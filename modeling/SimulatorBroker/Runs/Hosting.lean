import SimulatorBroker.Hosting.Reconcile
import SimulatorBroker.Runs.Holders

/-!
# The host config in every run

The file answers for simulators: a simulator it once answered for is answered for still, or is gone.
And a file that every reader accepts is never replaced by one that a reader refuses.
-/

namespace SimulatorBroker.Runs

open SimulatorBroker.Effects
open SimulatorBroker.State
open SimulatorBroker.Broker
open SimulatorBroker.Safety
open SimulatorBroker.Hosting

variable {paths : BrokerPaths} {surroundings : Surroundings} {distinct : Prop}
  {first world after : World} {timestamp : Timestamp}

/-! ## One command -/

/-- What a command brings along for the host config is acceptable: the host id of an operator, and
the versions and capabilities that a planner chooses. -/
def Nameable : Command → Prop
  | .init options => HostIdOk options.hostId
  | .setup planner options => HostIdOk options.hostId ∧ PlansVersions planner
  | .reconcileCapacity planner _ => PlansNeeds planner
  | _ => True

theorem keeps_of_section {α : Type} {body : Broker α} (hdrawn : Drawn surroundings distinct world)
    (hsection : Section body) : Keeps surroundings distinct body world := by
  cases hsection with
  | refused error => exact .throw hdrawn
  | lease hstatic => exact keeps_withLock hdrawn fun _ hlocked => keeps_of_static hlocked hstatic

theorem keeps_doctorBroker (hdrawn : Drawn surroundings distinct world) :
    Keeps surroundings distinct (doctorBroker paths) world := by
  rw [doctorBroker_eq]
  refine keeps_after hdrawn (static_of_passive passive_hostConfigIsReported)
    fun readable _ _ hread => ?_
  split
  · exact .seq (keeps_of_section hread section_hostStatusBroker) (fun _ _ h => h) fun _ _ h => .pure h
  · exact .pure hread

theorem keeps_underBothLocks {α : Type} {work : Broker α}
    (hdrawn : Drawn surroundings distinct world)
    (hwork : ∀ before, Drawn surroundings distinct before →
      Keeps surroundings distinct work before) :
    Keeps surroundings distinct (withLock .capacity (withLock .lease work)) world :=
  keeps_withLock hdrawn fun _ hlocked => keeps_withLock hlocked hwork

theorem keeps_body {command : Command} (hdrawn : Drawn surroundings distinct world)
    (hnameable : distinct → Nameable command) :
    Keeps surroundings distinct (command.body paths timestamp) world := by
  by_cases hchanges : Command.mayChangeFleet command = true
  · cases command with
    | lifecycle action options =>
        cases action with
        | repair => exact keeps_underBothLocks hdrawn fun _ => keeps_runLifecycleAction
        | _ => cases hchanges
    | repairPurpose options =>
        exact keeps_underBothLocks hdrawn fun _ => keeps_repairPurposeSimulators
    | deleteSimulator name => exact keeps_underBothLocks hdrawn fun _ => keeps_deleteSimulator
    | deletePurpose purposeId =>
        exact keeps_underBothLocks hdrawn fun _ => keeps_deletePurposeSimulators
    | init options => exact keeps_initBroker hdrawn hnameable
    | setup planner options =>
        exact keeps_underBothLocks hdrawn fun _ hboth =>
          keeps_applySetup hboth (fun hdistinct => (hnameable hdistinct).1)
            fun hdistinct => (hnameable hdistinct).2
    | reconcileCapacity planner options => exact keeps_reconcileCapacityBroker hdrawn hnameable
    | _ => cases hchanges
  · have hstatic : Command.mayChangeFleet command = false := by simpa using hchanges
    cases command with
    | doctor => exact keeps_doctorBroker hdrawn
    | checkCapacity options => exact keeps_of_static hdrawn static_buildCapacityEvaluation
    | _ => exact keeps_of_section hdrawn (section_body hstatic nofun nofun)

/-- Wherever a command stops, every operation up to there was admitted. -/
theorem admitted_body {command : Command} (hdrawn : Drawn surroundings distinct world)
    (hnameable : distinct → Nameable command) :
    wp (brokerHandler surroundings)
      (fun op after => Admits surroundings distinct op after ∧ Drawn surroundings distinct after)
      (command.body paths timestamp) (fun _ after => Drawn surroundings distinct after)
      (fun _ after => Drawn surroundings distinct after) world := by
  have hbody : Keeps surroundings distinct (command.body paths timestamp) world :=
    keeps_body hdrawn hnameable
  refine (wp.invariant (fun op before answer last hbefore hadmits hstep =>
    hbefore.answers hadmits hstep) (hbody.refine fun _ _ _ _ hstep => hstep.1) hdrawn).weaken ?_ ?_
  · exact fun _ _ h => h.1
  · exact fun _ _ h => h.1

theorem Drawn.steps {command : Command} {rest : Broker command.Reply}
    (hdrawn : Drawn surroundings distinct world) (hnameable : distinct → Nameable command)
    (hsteps : Steps (brokerHandler surroundings) (command.body paths timestamp) world rest after) :
    Drawn surroundings distinct after := by
  have hadmitted : wp (brokerHandler surroundings)
      (fun op after => Admits surroundings distinct op after ∧ Drawn surroundings distinct after)
      (command.body paths timestamp) _ _ world := admitted_body hdrawn hnameable
  exact (hadmitted.mono (fun _ _ h => h.2) (fun _ _ h => h) fun _ _ h => h).stopped hsteps

/-! ## A simulator that was answered for -/

/-- The host config on disk answers for the simulator. -/
def AnswersFor (world : World) (simulatorId : SimulatorId) : Prop :=
  ∃ disk, world.store.hostConfig = some disk ∧ simulatorId ∈ managedIds disk

/-- The file answers for the simulator, which was drawn, or it is gone. -/
structure Accounted (world : World) (simulatorId : SimulatorId) : Prop where
  drawn : simulatorId < world.outside.nextDevice
  held : AnswersFor world simulatorId ∨ Absent world.outside simulatorId

variable {simulatorId : SimulatorId}

theorem Accounted.moved {renamed : Option (SimulatorId × String)}
    (haccounted : Accounted world simulatorId) (hnever : NeverReturns surroundings)
    (hmoved : Moved surroundings renamed world after) : Accounted after simulatorId where
  drawn := haccounted.drawn.trans_le hmoved.later.nextDevice
  held := by
    rcases haccounted.held with ⟨disk, hdisk, hmem⟩ | habsent
    · exact .inl ⟨disk, hmoved.hostConfig.trans hdisk, hmem⟩
    · exact .inr (hmoved.gone hnever simulatorId haccounted.drawn habsent)

theorem onward_settles (hsettles : Settles surroundings world after) :
    Onward surroundings world after :=
  moved_settles hsettles

/-- What an operation does that is not the replacement of the file. -/
theorem exists_moved {op : BrokerOp} (hfile : ∀ config, op ≠ .rename (.hostConfig config)) :
    ∃ renamed, Moved surroundings renamed world (op.effect world) := by
  by_cases hrename : ∃ simulatorId name, op = .renameDevice simulatorId name
  · obtain ⟨simulatorId, name, rfl⟩ := hrename
    exact ⟨some (simulatorId, name), moved_effect hfile fun _ _ hop => by cases hop; rfl⟩
  · exact ⟨none, moved_effect hfile fun simulatorId name hop =>
      absurd ⟨simulatorId, name, hop⟩ hrename⟩

theorem Accounted.effect {op : BrokerOp} (haccounted : Accounted world simulatorId)
    (hnever : NeverReturns surroundings) (hadmits : Admits surroundings distinct op world) :
    Accounted (op.effect world) simulatorId := by
  by_cases hfile : ∃ config, op = .rename (.hostConfig config)
  · obtain ⟨config, rfl⟩ := hfile
    constructor
    · exact haccounted.drawn
    · rcases haccounted.held with ⟨disk, hdisk, hmem⟩ | habsent
      · exact ((hadmits.file config rfl).1.kept hnever disk hdisk simulatorId hmem).imp_left
          fun hnew => ⟨config, rfl, hnew⟩
      · exact .inr habsent
  · have hother : ∃ renamed, Moved surroundings renamed world (op.effect world) :=
      exists_moved fun config hop => hfile ⟨config, hop⟩
    obtain ⟨renamed, hmoved⟩ := hother
    exact haccounted.moved hnever hmoved

theorem Accounted.answers {op : BrokerOp} {answer : Except BrokerError op.Ret}
    (haccounted : Accounted world simulatorId) (hnever : NeverReturns surroundings)
    (hadmits : Admits surroundings distinct op world)
    (hanswers : Answers surroundings op world answer after) : Accounted after simulatorId := by
  have heffect := haccounted.effect hnever hadmits
  cases hanswers with
  | ok _ hsettles => exact heffect.moved hnever (onward_settles hsettles)
  | error _ _ hsettles => exact haccounted.moved hnever (onward_settles hsettles)
  | late _ _ _ hsettles => exact heffect.moved hnever (onward_settles hsettles)

/-- From any moment of a command on. -/
theorem Accounted.steps {α : Type} {body rest : Broker α} {post : α → World → Prop}
    {raise : BrokerError → World → Prop} (haccounted : Accounted world simulatorId)
    (hnever : NeverReturns surroundings)
    (hadmitted : wp (brokerHandler surroundings)
      (fun op after => Admits surroundings distinct op after ∧ Drawn surroundings distinct after)
      body post raise world)
    (hsteps : Steps (brokerHandler surroundings) body world rest after) :
    Accounted after simulatorId := by
  have hkept : ∀ op before answer last, Accounted before simulatorId →
      Admits surroundings distinct op before ∧ Drawn surroundings distinct before →
      (brokerHandler surroundings).step op before answer last → Accounted last simulatorId :=
    fun op before answer last hbefore hguard hstep => hbefore.answers hnever hguard.1 hstep
  have haccounts := wp.invariant hkept (hadmitted.refine fun _ _ _ _ hstep => hstep.1) haccounted
  exact (haccounts.mono (fun _ _ h => h.2) (fun _ _ h => h.2) fun _ _ h => h.2).stopped hsteps

/-! ## A host that is left alone -/

/-- The simulators there are, and those the file answers for, were drawn. -/
structure Founded (world : World) : Prop where
  devices : world.outside.DevicesDrawn
  managed : ∀ disk, world.store.hostConfig = some disk → ∀ simulatorId ∈ managedIds disk,
    simulatorId < world.outside.nextDevice

theorem founded_singleHost : Founded singleHost := by
  constructor
  · intro device hdevice
    rw [List.mem_singleton.mp hdevice]
    decide
  · rintro disk ⟨⟩ simulatorId hmem
    rw [List.mem_singleton.mp hmem]
    decide

/-- No other program creates, renames or deletes a simulator; every call may fail. -/
def Surroundings.undisturbed : Surroundings :=
  { Surroundings.arbitrary with
    drift := fun before after => before.Later after ∧ after.devices = before.devices
    later := And.left }

theorem keepsNames_undisturbed : KeepsNames Surroundings.undisturbed := by
  rintro before after ⟨-, hdevices⟩ simulatorId - name hname
  unfold nameOf at hname ⊢
  rwa [hdevices] at hname

theorem neverReturns_undisturbed : NeverReturns Surroundings.undisturbed := by
  rintro before after ⟨-, hdevices⟩ simulatorId - habsent device hdevice
  rw [hdevices] at hdevice
  exact habsent device hdevice

/-- A script only lets time pass. -/
theorem sound_undisturbed (script : Script) :
    script.respond.Sound (brokerHandler Surroundings.undisturbed) := by
  intro position op world
  have hpass : ∀ before, Settles Surroundings.undisturbed before (script.pass position before) :=
    fun before => ⟨rfl, rfl, (Script.settles_pass script position before).drift, rfl⟩
  have hanswers := script.sound_respond position op world
  unfold Script.respond at hanswers ⊢
  cases herror : script.error? position op world with
  | some error => exact .error trivial (Script.errorOf_error? herror) (hpass world)
  | none =>
      refine .ok ?_ (hpass (op.effect world))
      have hanswered := Script.answered_value herror
      cases op with
      | _ => exact hanswered

/-- The configured simulator cannot be deleted: the call fails. -/
def stuckScript : Script where
  fault position := if position = 28 then some .thrown else none

/-- What the delete of the alias leaves when the simulator stays. -/
def stuckOutcome : Except BrokerError Bool × World :=
  ((Command.deleteSimulator "build-1").body {} 0).run stuckScript.respond 0 singleHost

/-! ## In every run -/

/-- Any commands, one after the other. -/
abbrev AnyRun (paths : BrokerPaths) (surroundings : Surroundings) : World → World → Prop :=
  RunFrom paths surroundings fun _ _ _ => True

theorem drawn_of_anyRun (hfounded : Founded first) (hrun : AnyRun paths surroundings first world) :
    Drawn surroundings False world := by
  induction hrun with
  | refl => exact ⟨hfounded.devices, hfounded.managed, fun _ => False.elim⟩
  | command _ _ _ hsteps ih => exact Drawn.steps ih False.elim hsteps
  | time _ hsettles ih => exact ih.onward (moved_settles hsettles)

theorem Accounted.anyRun (haccounted : Accounted world simulatorId)
    (hnever : NeverReturns surroundings) (hdrawn : Drawn surroundings False world)
    (hrun : AnyRun paths surroundings world after) : Accounted after simulatorId := by
  suffices hboth : Drawn surroundings False after ∧ Accounted after simulatorId from hboth.2
  induction hrun with
  | refl => exact ⟨hdrawn, haccounted⟩
  | command _ _ _ hsteps ih =>
      obtain ⟨hdrawn, haccounted⟩ := ih
      exact ⟨Drawn.steps hdrawn False.elim hsteps,
        haccounted.steps hnever (admitted_body hdrawn False.elim) hsteps⟩
  | time _ hsettles ih =>
      exact ⟨ih.1.onward (moved_settles hsettles),
        ih.2.moved hnever (onward_settles hsettles)⟩

/-- A simulator the host config answered for at any moment of a run, inside a command or between
two, whether bound to an alias or still to be retired, is answered for at every later moment of it,
or is gone. -/
theorem accounted_of_anyRun {command : Command} {rest rest' : Broker command.Reply}
    {middle stopped : World} (hnever : NeverReturns surroundings) (hfounded : Founded first)
    (hbefore : AnyRun paths surroundings first world)
    (hreached : Steps (brokerHandler surroundings) (command.body paths timestamp) world rest middle)
    (hanswers : AnswersFor middle simulatorId)
    (hcontinued : Steps (brokerHandler surroundings) rest middle rest' stopped)
    (hrun : AnyRun paths surroundings stopped after) :
    AnswersFor after simulatorId ∨ Absent after.outside simulatorId := by
  have hdrawn := drawn_of_anyRun hfounded hbefore
  have hmiddle : Drawn surroundings False middle := Drawn.steps hdrawn False.elim hreached
  have hstopped : Drawn surroundings False stopped :=
    Drawn.steps hdrawn False.elim (hreached.trans hcontinued)
  have haccounted : Accounted middle simulatorId := by
    obtain ⟨disk, hdisk, hmem⟩ := hanswers
    exact ⟨hmiddle.managed disk hdisk simulatorId hmem, .inl ⟨disk, hdisk, hmem⟩⟩
  have hlast : Accounted stopped simulatorId :=
    haccounted.steps hnever ((admitted_body hdrawn False.elim).steps hreached) hcontinued
  exact (hlast.anyRun hnever hstopped hrun).held

/-- The alias is not deleted, and its simulator is still bound. -/
theorem accounted_stuckOutcome :
    AnswersFor stuckOutcome.2 0 ∨ Absent stuckOutcome.2.outside 0 := by
  have hsteps := (sound_undisturbed stuckScript).run_steps
    ((Command.deleteSimulator "build-1").body {} 0) 0 singleHost
  have hanswers : AnswersFor singleHost 0 := ⟨_, rfl, List.mem_cons_self⟩
  exact accounted_of_anyRun neverReturns_undisturbed founded_singleHost .refl (.refl _ _) hanswers
    hsteps .refl

/-- Commands whose host id, versions and capabilities a reader accepts keep the file one that every
reader accepts, in which no simulator bears the name of another alias. -/
theorem sound_of_nameableRun (hkeeps : KeepsNames surroundings) (hfounded : Founded first)
    (hsound : ∀ disk, first.store.hostConfig = some disk → Sound first.outside disk)
    (hrun : RunFrom paths surroundings (fun _ _ command => Nameable command) first world) :
    ∀ disk, world.store.hostConfig = some disk → Sound world.outside disk := by
  suffices hdrawn : Drawn surroundings True world from hdrawn.sound hkeeps trivial
  induction hrun with
  | refl => exact ⟨hfounded.devices, hfounded.managed, fun _ _ => hsound⟩
  | command _ hnameable _ hsteps ih => exact Drawn.steps ih (fun _ => hnameable) hsteps
  | time _ hsettles ih => exact ih.onward (moved_settles hsettles)

/-- A machine on which no simulator was ever created. -/
def newMachine : World where
  outside :=
    let deviceTypes : List DeviceType := [
      { identifier := "iPhone-16", name := "iPhone 16", productFamily := some .iPhone },
      { identifier := "iPad-Air", name := "iPad Air", productFamily := some .iPad }]
    { deviceTypes
      runtimes := [{
        identifier := "CoreSimulator.SimRuntime.iOS-18-0", version := some "18.0"
        supportedDeviceTypes := deviceTypes }] }

/-- The starter aliases are set up. -/
abbrev initializing : Command :=
  .init { bootstrapConfig := true, hostId := "mac", iosVersion := "18.0" }

def initializedWorld : World := ((initializing.body {} 0).run ({} : Script).respond 0 newMachine).2

theorem sound_initializedWorld : initializedWorld.store.hostConfig.isSome = true ∧
    ∀ disk, initializedWorld.store.hostConfig = some disk →
      Sound initializedWorld.outside disk := by
  have hsteps := (sound_undisturbed {}).run_steps (initializing.body {} 0) 0 newMachine
  have hnameable : Nameable initializing := by
    show isNonEmptyString "mac" = true
    decide
  have hfounded : Founded newMachine :=
    ⟨by simp [newMachine, Outside.DevicesDrawn], by simp [newMachine]⟩
  have hnothing : ∀ disk, newMachine.store.hostConfig = some disk →
      Sound newMachine.outside disk := by
    simp [newMachine]
  constructor
  · decide +kernel
  · exact sound_of_nameableRun keepsNames_undisturbed hfounded hnothing
      (.command .refl hnameable (Nat.zero_le _) hsteps)

end SimulatorBroker.Runs
