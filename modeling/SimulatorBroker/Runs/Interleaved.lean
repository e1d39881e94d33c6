import SimulatorBroker.Broker.Sections
import SimulatorBroker.Effects.Turns
import SimulatorBroker.Runs.Hosting

/-!
# Commands in several processes

Each process runs a command of its own; the operations of all of them come in any order, and a
process may end between any two of its own.  Only the lease lock keeps them apart: a process that
holds it excludes the others until it releases it or ends.
-/

namespace SimulatorBroker.Runs

open SimulatorBroker.Effects
open SimulatorBroker.State
open SimulatorBroker.Broker
open SimulatorBroker.Safety
open SimulatorBroker.Hosting

variable {paths : BrokerPaths} {surroundings : Surroundings} {first world after : World}
  {admits : Command → Prop} {P : Type}

/-! ## The processes -/

/-- A command, and the clock it reads before it waits for the lock. -/
abbrev Task : Type := Command × Timestamp

def leaseLock : Exclusion brokerSignature where
  acquire := .lock .lease
  release := .unlock .lease
  passive op := passive op = true

/-- The command of a task; its reply is of no interest. -/
def taskRound (paths : BrokerPaths) (task : Task) : Broker (Task ⊕ Unit) :=
  task.1.body paths task.2 >>= fun _ => pure (.inr ())

/-- A capacity reconcile journals its refusals under the capacity lock alone. -/
def Command.runsBeside : Command → Bool
  | .reconcileCapacity _ _ => false
  | _ => true

/-- The processes of a host; all worlds are to be reached from the first one by admitted commands. -/
def processes (paths : BrokerPaths) (surroundings : Surroundings) (admits : Command → Prop)
    (first : World) : Crew brokerSignature BrokerError Task Unit World where
  handler := brokerHandler surroundings
  lock := leaseLock
  round := taskRound paths
  ready task world := admits task.1 ∧ Command.runsBeside task.1 = true ∧
    task.2 ≤ world.outside.clock
  comesAs task inner := inner = task ∨ task.1 = .doctor ∧ inner = (.hostStatus, task.2)
  drift := Settles surroundings
  reached := RunFrom paths surroundings (fun _ _ command => admits command) first

/-- Time may stand still, and what passes by itself passes in any number of steps. -/
structure Steady (surroundings : Surroundings) : Prop where
  refl : ∀ outside, surroundings.drift outside outside
  trans : ∀ {first middle last}, surroundings.drift first middle →
    surroundings.drift middle last → surroundings.drift first last

theorem Steady.settles (hsteady : Steady surroundings) (world : World) :
    Settles surroundings world world :=
  ⟨rfl, rfl, hsteady.refl _⟩

theorem Steady.settles_trans {middle : World} (hsteady : Steady surroundings)
    (hfirst : Settles surroundings first middle) (hlast : Settles surroundings middle after) :
    Settles surroundings first after :=
  ⟨hlast.store.trans hfirst.store, hlast.ledger.trans hfirst.ledger,
    hsteady.trans hfirst.drift hlast.drift⟩

theorem Steady.absorbs {op : BrokerOp} {answer : Except BrokerError op.Ret} {middle : World}
    (hsteady : Steady surroundings) (hanswers : Answers surroundings op world answer middle)
    (hsettles : Settles surroundings middle after) :
    Answers surroundings op world answer after := by
  cases hanswers with
  | ok hanswered hbefore => exact .ok hanswered (hsteady.settles_trans hbefore hsettles)
  | error hmayFail herror hbefore =>
      exact .error hmayFail herror (hsteady.settles_trans hbefore hsettles)
  | late hmayFail herror hlate hbefore =>
      exact .late hmayFail herror hlate (hsteady.settles_trans hbefore hsettles)

/-- An operation without an effect only lets time pass. -/
theorem settles_answers {op : BrokerOp} {answer : Except BrokerError op.Ret}
    (heffect : op.effect world = world) (hanswers : Answers surroundings op world answer after) :
    Settles surroundings world after := by
  cases hanswers with
  | ok _ hsettles => rwa [heffect] at hsettles
  | error _ _ hsettles => exact hsettles
  | late _ _ _ hsettles => rwa [heffect] at hsettles

theorem effect_of_passive {op : BrokerOp} (hpassive : passive op = true) :
    op.effect world = world := by
  cases op with
  | rename file => cases hpassive
  | lock name => rfl
  | unlock name => rfl
  | _ => first | rfl | cases hpassive

theorem clock_answers {op : BrokerOp} {answer : Except BrokerError op.Ret}
    (hanswers : Answers surroundings op world answer after) :
    world.outside.clock ≤ after.outside.clock := by
  have heffect := (later_effect op world).clock
  cases hanswers with
  | ok _ hsettles => exact heffect.trans (surroundings.later hsettles.drift).clock
  | error _ _ hsettles => exact (surroundings.later hsettles.drift).clock
  | late _ _ _ hsettles => exact heffect.trans (surroundings.later hsettles.drift).clock

/-! ## Waiting for the lock -/

/-- A call that returns nothing and changes nothing can be made again at any other moment. -/
theorem step_again {op : BrokerOp} {value : op.Ret} (hsteady : Steady surroundings)
    (heffect : op.effect world = world) (hanswered : Answered surroundings op world value) :
    (brokerHandler surroundings).step op world (.ok value) world := by
  refine .ok hanswered ?_
  rw [heffect]
  exact hsteady.settles world

/-- What a task performs at its start, it could perform at any moment. -/
def Replays (paths : BrokerPaths) (surroundings : Surroundings) (task : Task)
    (body : Broker (Task ⊕ Unit)) : Prop :=
  ∀ world, Steps (brokerHandler surroundings) (taskRound paths task) world body world

theorem Replays.next {task : Task} (op : BrokerOp) {value : op.Ret}
    {next : Except BrokerError op.Ret → Broker (Task ⊕ Unit)} (hsteady : Steady surroundings)
    (heffect : ∀ world, op.effect world = world)
    (hanswered : ∀ world, Answered surroundings op world value)
    (hreplays : Replays paths surroundings task (.perform op next)) :
    Replays paths surroundings task (next (.ok value)) :=
  fun world => (hreplays world).trans
    (.head (step_again hsteady (heffect world) (hanswered world)) (.refl _ _))

/-- The directories that a lock needs are made before it is asked for. -/
theorem Replays.ensured {task : Task}
    {next : Except BrokerError Unit → Broker (Task ⊕ Unit)} (hsteady : Steady surroundings)
    (hreplays : Replays paths surroundings task (.perform (.fs .ensureDir) next)) :
    Replays paths surroundings task (next (.ok ())) :=
  Replays.next (.fs .ensureDir) hsteady (fun _ => rfl) (fun _ => trivial) hreplays

theorem Replays.locked {task : Task} {name : LockName}
    {next : Except BrokerError Unit → Broker (Task ⊕ Unit)} (hsteady : Steady surroundings)
    (hreplays : Replays paths surroundings task (.perform (.lock name) next)) :
    Replays paths surroundings task (next (.ok ())) :=
  Replays.next (.lock name) hsteady (fun _ => rfl) (fun _ => trivial) hreplays

theorem spares_of_unlocking {α : Type} {work : Broker α} (hwork : Unlocking work) :
    work.All fun op => op ≠ leaseLock.acquire ∧ op ≠ leaseLock.release := by
  refine hwork.mono fun op hspares => ⟨?_, ?_⟩
  · rintro rfl
    cases hspares
  · rintro rfl
    cases hspares

theorem apart_of_passive {op : BrokerOp} (hpassive : leaseLock.passive op) :
    op ≠ leaseLock.acquire ∧ op ≠ leaseLock.release := by
  constructor
  · rintro rfl
    cases hpassive
  · rintro rfl
    cases hpassive

/-- The section of a task, and what follows it. -/
theorem inside_section {α : Type} {work : Broker α}
    {rest : Except BrokerError α → Broker (Task ⊕ Unit)} (hwork : Unlocking work)
    (hrest : ∀ outcome, (rest outcome).All leaseLock.passive) :
    ((work.ensuring (perform (.unlock .lease))).attempt >>= rest).Inside leaseLock := by
  have hsection : (work.ensuring (perform (.unlock .lease))).Inside leaseLock := by
    refine Program.inside_ensuring (spares_of_unlocking hwork) fun after hafter => ?_
    refine ⟨nofun, fun _ answer => ?_, fun hop => absurd rfl hop⟩
    cases answer with
    | ok value => exact hafter value
    | error error => exact .fail error
  exact hsection.attempt.bind fun outcome =>
    ⟨hrest outcome, Program.inside_of_passive (fun _ => apart_of_passive) (hrest outcome)⟩

theorem enters_attempt {α : Type} {work : Broker α} {task state : Task}
    {rest : Except BrokerError α → Broker (Task ⊕ Unit)} (hsteady : Steady surroundings)
    (hwork : Unlocking work) (hrest : ∀ outcome, (rest outcome).All leaseLock.passive)
    (hcomes : (processes paths surroundings admits first).comesAs state task)
    (hreplays : Replays paths surroundings task ((withLock .lease work).attempt >>= rest)) :
    (processes paths surroundings admits first).Enters state
      ((withLock .lease work).attempt >>= rest) := by
  refine .reads rfl fun answer => ?_
  cases answer with
  | error error => exact .passive (hrest (.error error))
  | ok value =>
      refine .takes task hcomes ?_ (fun _ => inside_section hwork hrest)
        fun error => hrest (.error error)
      exact hreplays.ensured hsteady

theorem enters_of_bracketed {α : Type} {body : Broker α} {task state : Task}
    {rest : α → Broker (Task ⊕ Unit)} (hsteady : Steady surroundings)
    (hbracketed : Bracketed body) (hrest : ∀ value, (rest value).All leaseLock.passive)
    (hcomes : (processes paths surroundings admits first).comesAs state task)
    (hreplays : Replays paths surroundings task (body >>= rest)) :
    (processes paths surroundings admits first).Enters state (body >>= rest) := by
  have hthen : ∀ outcome : Except BrokerError α,
      (Program.ofOutcome outcome >>= rest).All leaseLock.passive := by
    intro outcome
    cases outcome with
    | ok value => exact hrest value
    | error error => exact .fail error
  cases hbracketed with
  | refused error => exact .passive (.fail error)
  | lease hwork =>
      rw [Program.bind_eq_attempt] at hreplays ⊢
      exact enters_attempt hsteady hwork hthen hcomes hreplays
  | @both work hwork =>
      refine .reads rfl fun answer => ?_
      cases answer with
      | error error => exact .passive (.fail error)
      | ok value =>
          refine .reads rfl fun answer => ?_
          cases answer with
          | error error => exact .passive (.fail error)
          | ok value =>
              have hlocked : Replays paths surroundings task
                  ((withLock .lease work).ensuring (perform (.unlock .capacity)) >>= rest) :=
                (hreplays.ensured hsteady).locked hsteady
              rw [Program.ensuring_bind] at hlocked
              show Crew.Enters _ state
                ((withLock .lease work).ensuring (perform (.unlock .capacity)) >>= rest)
              rw [Program.ensuring_bind]
              exact enters_attempt hsteady hwork
                (fun outcome => .bind (.request rfl) fun _ => hthen outcome) hcomes hlocked

theorem ends_taskRound (task : Task) :
    (taskRound paths task).Yields fun result => result.isRight = true :=
  Program.yields_bind fun _ => (rfl : (Sum.inr () : Task ⊕ Unit).isRight = true)

theorem replays_taskRound (task : Task) :
    Replays paths surroundings task (taskRound paths task) := fun world => .refl _ world

/-- Every command of a process comes to the lock as one that begins there would, or changes
nothing. -/
theorem enters_taskRound {task : Task} (hsteady : Steady surroundings)
    (hready : (processes paths surroundings admits first).ready task world) :
    (processes paths surroundings admits first).Enters task (taskRound paths task) := by
  obtain ⟨command, timestamp⟩ := task
  obtain ⟨-, hbeside, -⟩ := hready
  by_cases hbracketed : Command.isBracketed command = true
  · exact enters_of_bracketed hsteady (bracketed_body hbracketed) (fun _ => .pure _)
      (.inl rfl) (replays_taskRound _)
  · cases command with
    | doctor =>
        have hstatus : ((hostStatusBroker paths >>= fun state => pure (some state)) >>= fun _ =>
            pure (.inr ())) = taskRound paths (.hostStatus, timestamp) :=
          Program.bind_assoc _ _ _
        have hround : taskRound paths (.doctor, timestamp) = hostConfigIsReported >>=
            fun readable => (if readable then hostStatusBroker paths >>= fun state =>
              pure (some state) else pure none) >>= fun _ => pure (.inr ()) :=
          Program.bind_assoc _ _ _
        rw [hround]
        refine Crew.Enters.bind passive_hostConfigIsReported fun readable => ?_
        cases readable with
        | false => exact .passive (.pure _)
        | true =>
            simp only [if_true]
            rw [hstatus]
            have hcomes : (processes paths surroundings admits first).comesAs (.doctor, timestamp)
                (.hostStatus, timestamp) :=
              .inr ⟨rfl, rfl⟩
            exact enters_of_bracketed hsteady (bracketed_body rfl) (fun _ => .pure _)
              hcomes (replays_taskRound _)
    | checkCapacity options =>
        refine .passive (.bind ?_ fun _ => .pure _)
        refine all_buildCapacityEvaluation (fun _ => id) fun _ inventory => ?_
        exact passive_readBrokerStateSnapshot
    | reconcileCapacity planner options => cases hbeside
    | _ => exact absurd rfl hbracketed

theorem sound_processes (hsteady : Steady surroundings)
    (hdoctor : admits .doctor → admits .hostStatus) :
    (processes paths surroundings admits first).Sound where
  refl := hsteady.settles
  trans := hsteady.settles_trans
  absorbs := hsteady.absorbs
  passive hpassive hstep := settles_answers (effect_of_passive hpassive) hstep
  acquires hstep := settles_answers (rfl : BrokerOp.effect (.lock .lease) _ = _) hstep
  apart _ := apart_of_passive
  distinct := nofun
  readyStep := by
    rintro task op world answer after ⟨hadmits, hbeside, hpast⟩ hstep
    exact ⟨hadmits, hbeside, hpast.trans (clock_answers hstep)⟩
  readyAs := by
    rintro task inner world ⟨hadmits, hbeside, hpast⟩ (rfl | ⟨hcommand, rfl⟩)
    · exact ⟨hadmits, hbeside, hpast⟩
    · exact ⟨hdoctor (hcommand ▸ hadmits), rfl, hpast⟩
  readyDrift := by
    rintro task world after ⟨hadmits, hbeside, hpast⟩ hsettles
    exact ⟨hadmits, hbeside, hpast.trans (surroundings.later hsettles.drift).clock⟩
  enters hready := enters_taskRound hsteady hready
  ends := ends_taskRound
  reachedDrift := .time
  reachedTurn := by
    rintro task world rest after hreached ⟨hadmits, -, hpast⟩ hsteps
    obtain ⟨rest, -, hsteps⟩ := Steps.of_map hsteps
    exact .command hreached hadmits hpast hsteps

/-! ## What the processes do together -/

/-- The processes and the world, with the one that holds the lease lock. -/
abbrev Processes (P : Type) : Type := Pool brokerSignature BrokerError Task Unit P (Held P World)

/-- No process yet. -/
def unstarted (P : Type) (first : World) : Processes P where
  world := ⟨first, none⟩
  threads _ := none

theorem serialized_unstarted :
    (processes paths surroundings admits first).Serialized (unstarted P first) where
  world := .refl
  yields self running hrunning := by cases hrunning
  turn self running hrunning := by cases hrunning

/-- What a process performs next, with the command it came to the lock as. -/
structure Turn (paths : BrokerPaths) (surroundings : Surroundings) (admits : Command → Prop)
    (first : World) (task : Task) (op : BrokerOp) (world : World) (inner : Task) (base : World) :
    Prop where
  command : inner = task ∨ task.1 = .doctor ∧ inner = (.hostStatus, task.2)
  reached : RunFrom paths surroundings (fun _ _ command => admits command) first base
  admitted : admits inner.1
  past : inner.2 ≤ base.outside.clock
  performs : Performs (brokerHandler surroundings) (inner.1.body paths inner.2) base op world

theorem turn_of_serialized {pool : Processes P} {self : P} {task : Task} {op : BrokerOp}
    {next : Except BrokerError op.Ret → Broker (Task ⊕ Unit)} (hsteady : Steady surroundings)
    (hdoctor : admits .doctor → admits .hostStatus)
    (hserialized : (processes paths surroundings admits first).Serialized pool)
    (hrunning : pool.threads self = some { state := task, body := .perform op next }) :
    passive op = true ∨ op = .lock .lease ∨ pool.world.holder = some self ∧
      ∃ inner base, Turn paths surroundings admits first task op pool.world.world inner base := by
  rcases hserialized.performs (sound_processes hsteady hdoctor) hrunning with
    hpassive | hacquire | ⟨hholds, inner, base, hcomes, hreached, ⟨hadmits, -, hpast⟩, hperforms⟩
  · exact .inl hpassive
  · exact .inr (.inl hacquire)
  · exact .inr (.inr ⟨hholds, inner, base, hcomes, hreached, hadmits, hpast, hperforms.of_map⟩)

/-! ## Leases -/

theorem RunFrom.anyRun {admits : World → Timestamp → Command → Prop}
    (hrun : RunFrom paths surroundings admits first world) :
    AnyRun paths surroundings first world := by
  induction hrun with
  | refl => exact .refl
  | command _ _ hpast hsteps ih => exact .command ih trivial hpast hsteps
  | time _ hsettles ih => exact .time ih hsettles

theorem RunFrom.run {admits : World → Timestamp → Command → Prop} (hfresh : Fresh first)
    (hrun : RunFrom paths surroundings admits first world) : Run paths surroundings world := by
  induction hrun with
  | refl => exact .fresh hfresh
  | command _ _ hpast hsteps ih => exact .command ih hpast hsteps
  | time _ hsettles ih => exact .time ih hsettles

theorem keepsExclusive_of_passive {op : BrokerOp} (hpassive : passive op = true) :
    KeepsExclusive world op := by
  cases op with
  | rename file => cases hpassive
  | _ => trivial

theorem respectsHolders_of_passive {context : Context} {op : BrokerOp}
    (hpassive : passive op = true) : RespectsHolders context world op := by
  cases op with
  | shutdownDevice simulatorId site => cases hpassive
  | eraseDevice simulatorId site => cases hpassive
  | deleteDevice simulatorId site => cases hpassive
  | _ => trivial

theorem Turn.safe {task inner : Task} {op : BrokerOp} {base : World} (hfresh : Fresh first)
    (hturn : Turn paths surroundings admits first task op world inner base) :
    KeepsExclusive world op ∧
      RespectsHolders (Command.context inner.1 paths surroundings inner.2 base) world op := by
  have hconsistent := (hturn.reached.run hfresh).consistent
  obtain ⟨hok, hnow⟩ := (sound_body hconsistent hturn.past).guarded hturn.performs
  exact ⟨keepsExclusive_of_stepOk (fun _ => id) (fun _ => id) trivial hnow hok,
    respectsHolders_of_stepOk hok⟩

/-! ## The host config -/

/-- What changes nothing. -/
theorem Accounted.settles {simulatorId : SimulatorId} (haccounted : Accounted world simulatorId)
    (hnever : NeverReturns surroundings) (hsettles : Settles surroundings world after) :
    Accounted after simulatorId :=
  haccounted.moved hnever (onward_settles hsettles)

theorem Accounted.performed {pool : Processes P} {self : P} {task : Task} {op : BrokerOp}
    {simulatorId : SimulatorId}
    {next : Except BrokerError op.Ret → Broker (Task ⊕ Unit)}
    {answer : Except BrokerError op.Ret} (haccounted : Accounted pool.world.world simulatorId)
    (hnever : NeverReturns surroundings) (hfounded : Founded first) (hsteady : Steady surroundings)
    (hdoctor : admits .doctor → admits .hostStatus)
    (hserialized : (processes paths surroundings admits first).Serialized pool)
    (hrunning : pool.threads self = some { state := task, body := .perform op next })
    (hanswers : Answers surroundings op pool.world.world answer after) :
    Accounted after simulatorId := by
  rcases turn_of_serialized hsteady hdoctor hserialized hrunning with
    hpassive | rfl | ⟨-, inner, base, hturn⟩
  · exact haccounted.settles hnever (settles_answers (effect_of_passive hpassive) hanswers)
  · exact haccounted.settles hnever (settles_answers rfl hanswers)
  · have hdrawn : Drawn surroundings False base := drawn_of_anyRun hfounded hturn.reached.anyRun
    obtain ⟨hadmits, -⟩ := (admitted_body hdrawn False.elim).guarded hturn.performs
    exact haccounted.answers hnever hadmits hanswers

/-! ## Together -/

variable [DecidableEq P]

/-- The processes start, perform one operation after another, end, and time passes. -/
abbrev Together (paths : BrokerPaths) (surroundings : Surroundings) (admits : Command → Prop)
    (first : World) : Processes P → Processes P → Prop :=
  Pool.Reaches (processes paths surroundings admits first).scheduler

theorem serialized_together {pool : Processes P} (hsteady : Steady surroundings)
    (hdoctor : admits .doctor → admits .hostStatus)
    (htogether : Together paths surroundings admits first (unstarted P first) pool) :
    (processes paths surroundings admits first).Serialized pool :=
  serialized_unstarted.reaches (sound_processes hsteady hdoctor) htogether

theorem Accounted.together {pool after : Processes P} {simulatorId : SimulatorId}
    (haccounted : Accounted pool.world.world simulatorId) (hnever : NeverReturns surroundings)
    (hfounded : Founded first) (hsteady : Steady surroundings)
    (hdoctor : admits .doctor → admits .hostStatus)
    (hserialized : (processes paths surroundings admits first).Serialized pool)
    (htogether : Together paths surroundings admits first pool after) :
    Accounted after.world.world simulatorId := by
  induction htogether with
  | refl => exact haccounted
  | @tail middle last hbefore hstep ih =>
      have hmiddle := hserialized.reaches (sound_processes hsteady hdoctor) hbefore
      cases hstep with
      | start => exact ih
      | act thread state op next answer last hbody hact =>
          exact ih.performed hnever hfounded hsteady hdoctor hmiddle hbody hact.1
      | again => exact ih
      | stop thread => simpa [Pool.set] using ih
      | outside last houtside => exact ih.settles hnever houtside.1

/-! ## Two processes -/

theorem steady_arbitrary : Steady .arbitrary where
  refl := .refl
  trans := .trans

theorem steady_undisturbed : Steady Surroundings.undisturbed where
  refl outside := ⟨.refl outside, rfl⟩
  trans hfirst hlast := ⟨hfirst.1.trans hlast.1, hlast.2.trans hfirst.2⟩

/-- Who holds the lock after an operation of `self`. -/
def holderAfter (self : P) (op : BrokerOp) (answered : Bool) (holder : Option P) : Option P :=
  match op with
  | .lock .lease => if answered then some self else holder
  | .unlock .lease => none
  | _ => holder

/-- The lock is granted while it is free, and released by its holder. -/
def locksInTurn (self : P) (op : BrokerOp) (held : Held P World)
    (answer : Except BrokerError op.Ret) : Bool :=
  match op, answer with
  | .lock .lease, .ok _ => held.holder.isNone
  | .unlock .lease, _ => decide (held.holder = some self)
  | _, _ => true

theorem lockStep_holderAfter {self : P} {op : BrokerOp} {held : Held P World}
    {answer : Except BrokerError op.Ret} (hlocks : locksInTurn self op held answer = true) :
    LockStep leaseLock self op answer.isOk held.holder
      (holderAfter self op answer.isOk held.holder) := by
  have hkept : ∀ (other : BrokerOp) (answered : Bool) (holder : Option P), other ≠ .lock .lease →
      LockStep leaseLock self other answered holder holder :=
    fun _ answered holder hother => .kept hother answered holder
  cases op with
  | lock name =>
      cases name with
      | lease =>
          cases answer with
          | ok value =>
              rw [Option.isNone_iff_eq_none.mp hlocks]
              exact .acquired rfl
          | error error => exact .refused rfl _
      | _ => exact hkept _ _ _ nofun
  | unlock name =>
      cases name with
      | lease =>
          rw [of_decide_eq_true hlocks]
          exact .released rfl _
      | _ => exact hkept _ _ _ nofun
  | _ => exact hkept _ _ _ nofun

/-- The answers of a script to `self`, and who then holds the lock. -/
def answersTo (self : P) (script : Script) :
    Responder brokerSignature BrokerError (Held P World) :=
  fun position op held =>
    let (answer, after) := script.respond position op held.world
    (answer, ⟨after, holderAfter self op answer.isOk held.holder⟩)

/-- A process performs the next operations of its command, and locks in its turn. -/
theorem Together.runs {before pool : Processes P} {self : P} {task : Task}
    {body : Broker (Task ⊕ Unit)} {script : Script} (fuel : Nat)
    (htogether : Together paths surroundings admits first before pool)
    (hsound : script.respond.Sound (brokerHandler surroundings))
    (hbody : pool.threads self = some { state := task, body })
    (hlocks : body.answersIn (answersTo self script) (locksInTurn self) 0 pool.world = true) :
    Together paths surroundings admits first before
      (pool.set (body.runFor (answersTo self script) fuel 0 pool.world).2 self
        (some { state := task
                body := (body.runFor (answersTo self script) fuel 0 pool.world).1 })) := by
  let noted : Handler brokerSignature BrokerError (Held P World) :=
    { step := fun op held answer last =>
        (brokerHandler surroundings).step op held.world answer last.world ∧
          last.holder = holderAfter self op answer.isOk held.holder }
  have hnoted : (answersTo self script).Sound noted := fun position op held =>
    ⟨hsound position op held.world, rfl⟩
  refine htogether.trans (Pool.reaches_of_steps
    (hnoted.runFor_steps_of_answersIn ?_ fuel body 0 pool.world hlocks) pool rfl hbody)
  intro op held answer last hanswer hstep
  obtain ⟨hworld, hholder⟩ := hstep
  refine ⟨hworld, ?_⟩
  rw [hholder]
  exact lockStep_holderAfter hanswer

/-- The world of a process that has begun the command alone, and who holds the lock. -/
def contended (script : Script) (command : Command) (fuel : Nat) (first : World) :
    Held Bool World :=
  ((taskRound {} (command, 0)).runFor (answersTo true script) fuel 0 ⟨first, none⟩).2

/-- One process has begun the command; another one waits. -/
theorem exists_contended {script : Script} {command : Command} (first : World) (fuel : Nat)
    (hsound : script.respond.Sound (brokerHandler surroundings))
    (hbeside : Command.runsBeside command = true)
    (hlocks : (taskRound {} (command, 0)).answersIn (answersTo true script) (locksInTurn true) 0
      ⟨first, none⟩ = true) :
    ∃ pool : Processes Bool,
      Together {} surroundings (fun _ => True) first (unstarted Bool first) pool ∧
        pool.world = contended script command fuel first ∧ (pool.threads false).isSome = true := by
  have hunstarted : Together {} surroundings (fun _ => True) first (unstarted Bool first)
      (unstarted Bool first) := .refl
  have hwaits := hunstarted.tail (.start _ false (.hostStatus, 0) rfl
    ⟨trivial, rfl, Nat.zero_le _⟩)
  have hstarts := hwaits.tail (.start _ true (command, 0) rfl ⟨trivial, hbeside, Nat.zero_le _⟩)
  exact ⟨_, Together.runs fuel hstarts hsound rfl hlocks, rfl, rfl⟩

/-- The first process has written its lease, and still holds the lock. -/
theorem exists_contendedLease : ∃ pool : Processes Bool,
    Together {} .arbitrary (fun _ => True) singleHost (unstarted Bool singleHost) pool ∧
      pool.world.holder = some true ∧ (pool.threads false).isSome = true ∧
      pool.world.world.store.leases.map (·.aliasName) = ["build-1"] := by
  obtain ⟨pool, htogether, hworld, hwaits⟩ := exists_contended singleHost 40
    holderScript.sound_respond (rfl : Command.runsBeside holding = true) (by decide +kernel)
  refine ⟨pool, htogether, ?_, hwaits, ?_⟩
  · rw [hworld]
    decide +kernel
  · rw [hworld]
    decide +kernel

/-! ## In every order -/

/-- Whatever a process changes, it changes while it holds the lock, as a command that began where
others had left. -/
structure Serial (paths : BrokerPaths) (surroundings : Surroundings) (admits : Command → Prop)
    (first : World) (pool : Processes P) : Prop where
  world : RunFrom paths surroundings (fun _ _ command => admits command) first pool.world.world
  turn : ∀ self task op next,
    pool.threads self = some { state := task, body := .perform op next } →
      passive op = true ∨ op = .lock .lease ∨ pool.world.holder = some self ∧
        ∃ inner base, Turn paths surroundings admits first task op pool.world.world inner base

/-- What the processes do together, in any order and wherever they end, commands do one after the
other. -/
theorem serial_of_together {pool : Processes P} (hsteady : Steady surroundings)
    (hdoctor : admits .doctor → admits .hostStatus)
    (htogether : Together paths surroundings admits first (unstarted P first) pool) :
    Serial paths surroundings admits first pool := by
  have hserialized := serialized_together hsteady hdoctor htogether
  exact ⟨hserialized.world, fun self task op next hrunning =>
    turn_of_serialized hsteady hdoctor hserialized hrunning⟩

theorem serial_contended : ∃ pool : Processes Bool, pool.world.holder = some true ∧
    (pool.threads false).isSome = true ∧
    pool.world.world.store.leases.map (·.aliasName) = ["build-1"] ∧
    Serial {} .arbitrary (fun _ => True) singleHost pool := by
  obtain ⟨pool, htogether, hholder, hwaits, hleases⟩ := exists_contendedLease
  exact ⟨pool, hholder, hwaits, hleases, serial_of_together steady_arbitrary id htogether⟩

/-- Leases exclude each other, and the next operation of every process leaves it so and respects the
holders. -/
structure Guarded (paths : BrokerPaths) (surroundings : Surroundings) (pool : Processes P) :
    Prop where
  exclusive : Exclusive paths pool.world.world
  next : ∀ self task op next,
    pool.threads self = some { state := task, body := .perform op next } →
      KeepsExclusive pool.world.world op ∧ ∃ (inner : Task) (base : World),
        (inner = task ∨ task.1 = .doctor ∧ inner = (.hostStatus, task.2)) ∧
        RespectsHolders (Command.context inner.1 paths surroundings inner.2 base)
          pool.world.world op

/-- From a fresh world on, in any order of the operations. -/
theorem guarded_of_together {pool : Processes P} (hsteady : Steady surroundings)
    (hfresh : Fresh first)
    (htogether : Together paths surroundings (fun _ => True) first (unstarted P first) pool) :
    Guarded paths surroundings pool := by
  have hserialized := serialized_together hsteady (fun _ => trivial) htogether
  constructor
  · exact exclusive_of_consistent (hserialized.world.run hfresh).consistent
  · intro self task op next hrunning
    rcases turn_of_serialized hsteady (fun _ => trivial) hserialized hrunning with
      hpassive | rfl | ⟨-, inner, base, hturn⟩
    · exact ⟨keepsExclusive_of_passive hpassive, task, first, .inl rfl,
        respectsHolders_of_passive hpassive⟩
    · exact ⟨trivial, task, first, .inl rfl, trivial⟩
    · obtain ⟨hkeeps, hrespects⟩ := hturn.safe hfresh
      exact ⟨hkeeps, inner, base, hturn.command, hrespects⟩

theorem guarded_contended : ∃ pool : Processes Bool, pool.world.holder = some true ∧
    (pool.threads false).isSome = true ∧
    pool.world.world.store.leases.map (·.aliasName) = ["build-1"] ∧
    Guarded {} .arbitrary pool := by
  obtain ⟨pool, htogether, hholder, hwaits, hleases⟩ := exists_contendedLease
  exact ⟨pool, hholder, hwaits, hleases,
    guarded_of_together steady_arbitrary fresh_singleHost htogether⟩

/-- A simulator that the host config answered for at any moment is answered for at every later one,
or is gone. -/
theorem accounted_of_together {pool after : Processes P} {simulatorId : SimulatorId}
    (hsteady : Steady surroundings) (hnever : NeverReturns surroundings) (hfounded : Founded first)
    (hbefore : Together paths surroundings (fun _ => True) first (unstarted P first) pool)
    (hanswers : AnswersFor pool.world.world simulatorId)
    (hafter : Together paths surroundings (fun _ => True) first pool after) :
    AnswersFor after.world.world simulatorId ∨ Absent after.world.world.outside simulatorId := by
  have hserialized := serialized_together hsteady (fun _ => trivial) hbefore
  have hdrawn : Drawn surroundings False pool.world.world :=
    drawn_of_anyRun hfounded hserialized.world.anyRun
  have haccounted : Accounted pool.world.world simulatorId := by
    obtain ⟨disk, hdisk, hmem⟩ := hanswers
    exact ⟨hdrawn.managed disk hdisk simulatorId hmem, .inl ⟨disk, hdisk, hmem⟩⟩
  exact (haccounted.together hnever hfounded hsteady (fun _ => trivial) hserialized hafter).held

theorem accounted_contended : ∃ pool : Processes Bool, pool.world.holder = some true ∧
    pool.world.world.store.configuredAliases = [] ∧
    (AnswersFor pool.world.world 0 ∨ Absent pool.world.world.outside 0) := by
  obtain ⟨pool, htogether, hworld, -⟩ := exists_contended singleHost 34 (sound_undisturbed {})
    (rfl : Command.runsBeside (.deleteSimulator "build-1") = true) (by decide +kernel)
  have hanswers : AnswersFor singleHost 0 := ⟨_, rfl, List.mem_cons_self⟩
  refine ⟨pool, ?_, ?_, accounted_of_together steady_undisturbed neverReturns_undisturbed
    founded_singleHost .refl hanswers htogether⟩
  · rw [hworld]
    decide +kernel
  · rw [hworld]
    decide +kernel

end SimulatorBroker.Runs
