import SimulatorBroker.Effects.Ghost
import SimulatorBroker.Runs.System

/-!
# Lease counts

The registry counts the leases of an alias that ended since its last recorded erase, and keeps
the time of the latest end.  The count is exact after every command, returned or thrown, as long
as what a state load has reclaimed gets written; the time is, as long as each lease that ends is
given the time at which its file is removed.
-/

namespace SimulatorBroker.Runs

open SimulatorBroker.Effects
open SimulatorBroker.State
open SimulatorBroker.Broker
open SimulatorBroker.Safety

/-! ## When leases end -/

/-- The moment at which the latest lease of each alias ended, as long as the alias has an entry,
and whether each was given that moment by the operation that ended it. -/
structure LastEnds where
  endedAt : AliasName → Option Timestamp := fun _ => none
  timely : Bool := true

/-- The file of a lease that ends is removed now. -/
def LastEnds.ended (ends : LastEnds) (name : AliasName) (releasedAt now : Timestamp) :
    LastEnds where
  endedAt := Function.update ends.endedAt name (some now)
  timely := ends.timely && decide (releasedAt = now)

/-- An alias without an entry is forgotten. -/
def LastEnds.registryWritten (ends : LastEnds) (registry : Registry) : LastEnds :=
  { ends with
    endedAt := fun name => if registry.aliases name = none then none else ends.endedAt name }

/-- The clock is read where the file is removed. -/
def noteEnd : (op : BrokerOp) → World → Except BrokerError op.Ret → LastEnds → LastEnds
  | .unlinkLease leaseId site, world, .ok _, ends =>
      match world.store.lease? leaseId, site.releasedAt with
      | some lease, some releasedAt => ends.ended lease.aliasName releasedAt world.outside.clock
      | _, _ => ends
  | .rename (.registry content _), _, .ok _, ends => ends.registryWritten content
  | _, _, _, ends => ends

def timedHandler (surroundings : Surroundings) :
    Handler brokerSignature BrokerError (World × LastEnds) :=
  (brokerHandler surroundings).noting noteEnd

/-- What the ledger was told is what the clock read. -/
def Prompt (moment : World × LastEnds) : Prop :=
  moment.2.timely = true → moment.1.ledger.lastReleasedAt = moment.2.endedAt

theorem noteEnd_error {op : BrokerOp} {world : World} {error : BrokerError} {ends : LastEnds} :
    noteEnd op world (.error error) ends = ends := by
  cases op with
  | rename file => cases file <;> rfl
  | _ => rfl

theorem ledger_effect_of_mayFailLate {op : BrokerOp} {world : World}
    (hlate : op.mayFailLate = true) : (op.effect world).ledger = world.ledger := by
  cases op with
  | rename file => cases hlate
  | unlinkLease leaseId site => cases hlate
  | _ => rfl

theorem prompt_effect {op : BrokerOp} {world : World} {value : op.Ret} {ends : LastEnds}
    (hprompt : Prompt (world, ends)) :
    Prompt (op.effect world, noteEnd op world (.ok value) ends) := by
  cases op with
  | rename file =>
      cases file with
      | registry content note =>
          intro htimely
          have hsame : world.ledger.lastReleasedAt = ends.endedAt := hprompt htimely
          refine funext fun name => ?_
          show (if content.aliases name = none then none else world.ledger.lastReleasedAt name) =
            if content.aliases name = none then none else ends.endedAt name
          rw [hsame]
      | _ => exact hprompt
  | unlinkLease leaseId site =>
      intro htimely
      simp only [noteEnd] at htimely ⊢
      simp only [BrokerOp.effect]
      cases hlease : world.store.lease? leaseId with
      | none =>
          simp only [hlease] at htimely ⊢
          exact hprompt htimely
      | some lease =>
          cases hsite : site.releasedAt with
          | none =>
              simp only [hlease, hsite] at htimely ⊢
              exact hprompt htimely
          | some releasedAt =>
              simp only [hlease, hsite, LastEnds.ended, Bool.and_eq_true, decide_eq_true_eq]
                at htimely ⊢
              have hsame : world.ledger.lastReleasedAt = ends.endedAt := hprompt htimely.1
              show Function.update _ _ _ = Function.update _ _ _
              rw [hsame, htimely.2]
  | _ => exact hprompt

theorem prompt_step {surroundings : Surroundings} {op : BrokerOp}
    {before after : World × LastEnds} {answer : Except BrokerError op.Ret}
    (hstep : (timedHandler surroundings).step op before answer after)
    (hprompt : Prompt before) : Prompt after := by
  obtain ⟨world, ends⟩ := before
  obtain ⟨next, noted⟩ := after
  obtain ⟨hanswers, rfl⟩ : Answers surroundings op world answer next ∧
    noted = noteEnd op world answer ends := hstep
  cases hanswers with
  | ok _ hsettles =>
      intro htimely
      exact (congrArg Ledger.lastReleasedAt hsettles.ledger).trans (prompt_effect hprompt htimely)
  | error _ _ hsettles =>
      rw [noteEnd_error]
      intro htimely
      exact (congrArg Ledger.lastReleasedAt hsettles.ledger).trans (hprompt htimely)
  | late _ _ hlate hsettles =>
      rw [noteEnd_error]
      intro htimely
      exact (congrArg Ledger.lastReleasedAt
        (hsettles.ledger.trans (ledger_effect_of_mayFailLate hlate))).trans (hprompt htimely)

/-! ## Every run -/

/-- The worlds between commands, each of which returned or threw. -/
inductive CompletedRun (paths : BrokerPaths) (surroundings : Surroundings) :
    World × LastEnds → Prop where
  | fresh {world : World} (fresh : Fresh world) : CompletedRun paths surroundings (world, {})
  | command {moment after : World × LastEnds} {command : Command} {timestamp : Timestamp}
      {outcome : Except BrokerError command.Reply} (before : CompletedRun paths surroundings moment)
      (past : timestamp ≤ moment.1.outside.clock)
      (steps : Steps (timedHandler surroundings) (command.body paths timestamp) moment
        (.ofOutcome outcome) after) : CompletedRun paths surroundings after
  | time {world after : World} {ends : LastEnds}
      (before : CompletedRun paths surroundings (world, ends))
      (settles : Settles surroundings world after) : CompletedRun paths surroundings (after, ends)

section Runs

variable {paths : BrokerPaths} {surroundings : Surroundings} {world : World}
  {moment : World × LastEnds}

theorem CompletedRun.run (hrun : CompletedRun paths surroundings moment) :
    Run paths surroundings moment.1 := by
  induction hrun with
  | fresh hfresh => exact .fresh hfresh
  | command _ hpast hsteps ih => exact .command ih hpast hsteps.forget
  | time _ hsettles ih => exact .time ih hsettles

theorem CompletedRun.prompt (hrun : CompletedRun paths surroundings moment) : Prompt moment := by
  induction hrun with
  | fresh hfresh => exact fun _ => congrArg Ledger.lastReleasedAt hfresh.ledger
  | command _ _ hsteps ih => exact hsteps.invariant (fun _ _ _ _ => prompt_step) ih
  | time _ hsettles ih =>
      exact fun htimely => (congrArg Ledger.lastReleasedAt hsettles.ledger).trans (ih htimely)

theorem Fresh.exact (hfresh : Fresh world) : Exact world where
  counted name entry hentry := by simp [Store.entry, hfresh.registry] at hentry
  absent := by simp [hfresh.ledger]
  written := by simp [hfresh.ledger]

/-- The context of a command in those very surroundings. -/
def countingContext (command : Command) (paths : BrokerPaths) (surroundings : Surroundings)
    (timestamp : Timestamp) (world : World) : Context :=
  { Command.context command paths surroundings timestamp world with surroundings }

/-- One command, to its end. -/
theorem exact_command {command : Command} {timestamp : Timestamp} {after : World}
    {outcome : Except BrokerError command.Reply} (hrecords : RecordsEnds surroundings)
    (hconsistent : Consistent paths world) (hexact : Exact world)
    (hpast : timestamp ≤ world.outside.clock)
    (hsteps : Steps (brokerHandler surroundings) (command.body paths timestamp) world
      (.ofOutcome outcome) after) : Exact after := by
  have hmoment : Moment (countingContext command paths surroundings timestamp world) world :=
    moment_of_consistent (fun _ => id) (fun _ => id) trivial hconsistent
  have hready : Ready (countingContext command paths surroundings timestamp world) timestamp
      world := ⟨le_rfl, hpast, le_rfl, fun _ => hexact⟩
  have hok : CommandOk (countingContext command paths surroundings timestamp world) timestamp
      world command := commandOk_of_reference (fun _ => id) (fun _ => id) le_rfl rfl rfl
  have hsound := (safe_body hready hok).sound hmoment
  have hwithin : wp (brokerHandler surroundings) (fun _ _ => True) (command.body paths timestamp)
      (fun _ after => Exact after) (fun _ after => Exact after) world := by
    refine (wp.refine ?_ hsound).mono (fun _ _ _ => trivial) (fun _ _ h => h.1 hrecords)
      fun _ _ h => h.1 hrecords
    exact fun _ _ _ _ hstep => ⟨hstep, trivial⟩
  cases outcome with
  | ok value => exact hwithin.returned hsteps
  | error error => exact hwithin.raised hsteps

theorem CompletedRun.exact (hrecords : RecordsEnds surroundings)
    (hrun : CompletedRun paths surroundings moment) : Exact moment.1 := by
  induction hrun with
  | fresh hfresh => exact hfresh.exact
  | command hbefore hpast hsteps ih =>
      exact exact_command hrecords hbefore.run.consistent ih hpast hsteps.forget
  | time _ hsettles ih => exact (Settles.kept hsettles).exact ih

end Runs

/-! ## A release -/

theorem CompletedRun.script {paths : BrokerPaths} {allows : BrokerOp → World → Bool}
    {moment : World × LastEnds} (hrun : CompletedRun paths (.allowing allows) moment)
    (script : Script) (command : Command) {timestamp : Timestamp}
    (hpast : timestamp ≤ moment.1.outside.clock)
    (hanswers : (command.body paths timestamp).answersIn (script.respond.noting noteEnd)
      (fun op world => allowedAnswer allows op world.1) 0 moment = true) :
    CompletedRun paths (.allowing allows)
      ((command.body paths timestamp).run (script.respond.noting noteEnd) 0 moment).2 :=
  .command hrun hpast (Responder.Sound.run_steps_of_answersIn
    (H := timedHandler .arbitrary) script.sound_respond.noting
    (fun _ _ _ _ hallowed hstep =>
      show _ ∧ _ from ⟨answers_allowing hallowed hstep.1, hstep.2⟩) _ 0 moment hanswers)

end SimulatorBroker.Runs
