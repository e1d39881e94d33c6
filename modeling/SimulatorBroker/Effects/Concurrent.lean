import Mathlib.Logic.Function.Basic
import Mathlib.Logic.Relation
import SimulatorBroker.Effects.Weakest

/-!
# Programs that run beside each other

A thread performs rounds; a round is a program that ends with the state of the next one
or with a result.  The threads of a pool share one world and take their operations one
at a time in any order.  A thread is verified alone, against a relation that covers what
the others may do between two of its operations, and the others must keep to it.
-/

namespace SimulatorBroker.Effects

universe u v

open Relation (ReflTransGen)

/-- Each operation is followed by whatever the surroundings do. -/
def Handler.beside {σ : Signature} {ε : Type} {W : Type u} (H : Handler σ ε W)
    (rely : W → W → Prop) : Handler σ ε W where
  step op first answer last := ∃ middle, H.step op first answer middle ∧ ReflTransGen rely middle last

/-- The steps that meet a condition on the world before them. -/
def Handler.restrict {σ : Signature} {ε : Type} {W : Type u} (H : Handler σ ε W)
    (allowed : σ.Op → W → Prop) : Handler σ ε W where
  step op first answer last := allowed op first ∧ H.step op first answer last

/-- The state a round started from, and what is left of it. -/
structure Thread (σ : Signature) (ε S α : Type) where
  state : S
  body : Program σ ε (S ⊕ α)

/-- Threads over one world; a thread that has not started or has stopped is missing. -/
structure Pool (σ : Signature) (ε S α : Type) (P : Type v) (W : Type u) where
  world : W
  threads : P → Option (Thread σ ε S α)

variable {σ : Signature} {ε S α : Type} {P : Type v} {W : Type u}

/-- What drives a pool: how each thread performs an operation, its rounds, where it may
start, and what happens to the world when it stops or by itself. -/
structure Scheduler (σ : Signature) (ε S α : Type) (P : Type v) (W : Type u) where
  handler : P → Handler σ ε W
  round : P → S → Program σ ε (S ⊕ α)
  starts : P → S → W → Prop
  stop : P → W → W
  outside : W → W → Prop

namespace Pool

variable [DecidableEq P]

def set (pool : Pool σ ε S α P W) (world : W) (thread : P) (state : Option (Thread σ ε S α)) :
    Pool σ ε S α P W where
  world := world
  threads := Function.update pool.threads thread state

theorem set_self (pool : Pool σ ε S α P W) (world : W) (thread : P)
    (state : Option (Thread σ ε S α)) : (pool.set world thread state).threads thread = state :=
  Function.update_self _ _ _

theorem set_of_ne (pool : Pool σ ε S α P W) (world : W) {thread other : P}
    (hother : other ≠ thread) (state : Option (Thread σ ε S α)) :
    (pool.set world thread state).threads other = pool.threads other :=
  Function.update_of_ne hother _ _

inductive Step (scheduler : Scheduler σ ε S α P W) :
    Pool σ ε S α P W → Pool σ ε S α P W → Prop where
  | start (pool : Pool σ ε S α P W) (thread : P) (state : S)
      (hfree : pool.threads thread = none) (hstarts : scheduler.starts thread state pool.world) :
      Step scheduler pool (pool.set pool.world thread
        (some { state, body := scheduler.round thread state }))
  | act (pool : Pool σ ε S α P W) (thread : P) (state : S) (op : σ.Op)
      (next : Except ε (σ.Ret op) → Program σ ε (S ⊕ α)) (answer : Except ε (σ.Ret op)) (after : W)
      (hbody : pool.threads thread = some { state, body := .perform op next })
      (hstep : (scheduler.handler thread).step op pool.world answer after) :
      Step scheduler pool (pool.set after thread (some { state, body := next answer }))
  | again (pool : Pool σ ε S α P W) (thread : P) (state next : S)
      (hbody : pool.threads thread = some { state, body := .done (.inl next) }) :
      Step scheduler pool (pool.set pool.world thread
        (some { state := next, body := scheduler.round thread next }))
  | stop (pool : Pool σ ε S α P W) (thread : P) :
      Step scheduler pool (pool.set (scheduler.stop thread pool.world) thread none)
  | outside (pool : Pool σ ε S α P W) (after : W) (houtside : scheduler.outside pool.world after) :
      Step scheduler pool { pool with world := after }

/-- A pool reached from another one. -/
abbrev Reaches (scheduler : Scheduler σ ε S α P W) :
    Pool σ ε S α P W → Pool σ ε S α P W → Prop :=
  ReflTransGen (Step scheduler)

/-- A thread goes on while the others wait. -/
theorem reaches_of_steps {scheduler : Scheduler σ ε S α P W} {thread : P} {state : S}
    {body rest : Program σ ε (S ⊕ α)} {before after : W}
    (hsteps : Steps (scheduler.handler thread) body before rest after) (pool : Pool σ ε S α P W)
    (hworld : pool.world = before) (hbody : pool.threads thread = some { state, body }) :
    Reaches scheduler pool (pool.set after thread (some { state, body := rest })) := by
  induction hsteps generalizing pool with
  | refl body world =>
      have hsame : pool.set world thread (some { state, body }) = pool := by
        rw [← hworld, ← hbody]
        exact congrArg (Pool.mk pool.world) (Function.update_eq_self thread pool.threads)
      rw [hsame]
  | @head op next first middle last answer rest hstep _ ih =>
      have hact : Step scheduler pool
          (pool.set middle thread (some { state, body := next answer })) :=
        .act pool thread state op next answer middle hbody (hworld ▸ hstep)
      have hrest := ih _ rfl (pool.set_self middle thread (some { state, body := next answer }))
      refine .head hact ?_
      simpa [set] using hrest

end Pool

/-! ## Verifying one thread at a time -/

/-- What is known of each thread, and what each one lets the others do. -/
structure Contract (σ : Signature) (ε S α : Type) (P : Type v) (W : Type u) where
  rely : P → W → W → Prop
  guard : P → σ.Op → W → Prop
  enters : P → S → W → Prop
  results : P → α → W → Prop
  raises : P → S → ε → W → Prop

namespace Contract

def post (contract : Contract σ ε S α P W) (thread : P) : S ⊕ α → W → Prop
  | .inl state, world => contract.enters thread state world
  | .inr result, world => contract.results thread result world

/-- What is left of a round keeps the contract, whatever the others do first. -/
def Holds (contract : Contract σ ε S α P W) (scheduler : Scheduler σ ε S α P W) (thread : P)
    (running : Thread σ ε S α) (world : W) : Prop :=
  ∀ later, ReflTransGen (contract.rely thread) world later →
    wp ((scheduler.handler thread).beside (contract.rely thread)) (contract.guard thread)
      running.body (contract.post thread) (contract.raises thread running.state) later

/-- The obligations of a contract: each round keeps it, and every step of one thread is
covered by what the others rely on. -/
structure Sound (contract : Contract σ ε S α P W) (scheduler : Scheduler σ ε S α P W) : Prop where
  starts : ∀ thread state world, scheduler.starts thread state world →
    contract.enters thread state world
  stable : ∀ thread state world later, contract.enters thread state world →
    contract.rely thread world later → contract.enters thread state later
  rounds : ∀ thread state world, contract.enters thread state world →
    wp ((scheduler.handler thread).beside (contract.rely thread)) (contract.guard thread)
      (scheduler.round thread state) (contract.post thread) (contract.raises thread state) world
  guarantees : ∀ thread other op world answer after, other ≠ thread →
    contract.guard thread op world → (scheduler.handler thread).step op world answer after →
    contract.rely other world after
  stops : ∀ thread other world, other ≠ thread →
    contract.rely other world (scheduler.stop thread world)
  outside : ∀ thread world after, scheduler.outside world after →
    contract.rely thread world after

variable {contract : Contract σ ε S α P W} {scheduler : Scheduler σ ε S α P W}

namespace Sound

theorem stable_run (hsound : contract.Sound scheduler) {thread : P} {state : S} {world later : W}
    (henters : contract.enters thread state world)
    (hrely : ReflTransGen (contract.rely thread) world later) :
    contract.enters thread state later := by
  induction hrely with
  | refl => exact henters
  | tail _ hstep ih => exact hsound.stable thread state _ _ ih hstep

theorem holds_round (hsound : contract.Sound scheduler) {thread : P} {state : S} {world : W}
    (henters : contract.enters thread state world) :
    contract.Holds scheduler thread { state, body := scheduler.round thread state } world :=
  fun _ hrely => hsound.rounds thread state _ (hsound.stable_run henters hrely)

theorem holds_later {thread : P} {running : Thread σ ε S α} {world later : W}
    (hholds : contract.Holds scheduler thread running world)
    (hrely : contract.rely thread world later) :
    contract.Holds scheduler thread running later :=
  fun _ hrest => hholds _ (.head hrely hrest)

variable [DecidableEq P]

/-- Every thread of the pool keeps its contract. -/
def AllHold (contract : Contract σ ε S α P W) (scheduler : Scheduler σ ε S α P W)
    (pool : Pool σ ε S α P W) : Prop :=
  ∀ thread running, pool.threads thread = some running →
    contract.Holds scheduler thread running pool.world

/-- One thread moves on and keeps its contract, and the others can rely on its step. -/
theorem set {pool : Pool σ ε S α P W} {thread : P} {state : Option (Thread σ ε S α)} {after : W}
    (hall : AllHold contract scheduler pool)
    (hself : ∀ running, state = some running → contract.Holds scheduler thread running after)
    (hothers : ∀ other, other ≠ thread → contract.rely other pool.world after) :
    AllHold contract scheduler (pool.set after thread state) := by
  intro other running hrunning
  by_cases hsame : other = thread
  · subst hsame
    rw [Pool.set_self] at hrunning
    exact hself running hrunning
  · rw [pool.set_of_ne after hsame] at hrunning
    exact holds_later (hall other running hrunning) (hothers other hsame)

theorem step (hsound : contract.Sound scheduler)
    (hidle : ∀ thread world, contract.rely thread world world) {pool next : Pool σ ε S α P W}
    (hall : AllHold contract scheduler pool) (hstep : Pool.Step scheduler pool next) :
    AllHold contract scheduler next := by
  cases hstep with
  | start thread state hfree hstarts =>
      refine set hall ?_ (fun other _ => hidle other pool.world)
      rintro running ⟨⟩
      exact hsound.holds_round (hsound.starts thread state pool.world hstarts)
  | act thread state op following answer after hbody hstep =>
      obtain ⟨hguard, hnext⟩ := hall thread _ hbody pool.world .refl
      refine set hall ?_ ?_
      · rintro running ⟨⟩ later hrely
        exact hnext answer later ⟨after, hstep, hrely⟩
      · intro other hother
        exact hsound.guarantees thread other op pool.world answer after hother hguard hstep
  | again thread state following hbody =>
      have henters := hall thread _ hbody pool.world .refl
      refine set hall ?_ (fun other _ => hidle other pool.world)
      rintro running ⟨⟩
      exact hsound.holds_round henters
  | stop thread =>
      refine set hall ?_ (fun other hother => hsound.stops thread other pool.world hother)
      rintro running ⟨⟩
  | outside after houtside =>
      intro thread running hrunning
      exact holds_later (hall thread running hrunning)
        (hsound.outside thread pool.world after houtside)

/-- In every pool reached from an empty one, every thread keeps its contract. -/
theorem reaches (hsound : contract.Sound scheduler)
    (hidle : ∀ thread world, contract.rely thread world world) {world : W}
    {pool : Pool σ ε S α P W}
    (hreaches : Pool.Reaches scheduler { world, threads := fun _ => none } pool) :
    AllHold contract scheduler pool := by
  induction hreaches with
  | refl =>
      rintro thread running ⟨⟩
  | tail _ hstep ih => exact hsound.step hidle ih hstep

/-- A round that has thrown has thrown what its contract allows. -/
theorem raised (hsound : contract.Sound scheduler)
    (hidle : ∀ thread world, contract.rely thread world world) {world : W}
    {pool : Pool σ ε S α P W} {thread : P} {state : S} {error : ε}
    (hreaches : Pool.Reaches scheduler { world, threads := fun _ => none } pool)
    (hbody : pool.threads thread = some { state, body := .fail error }) :
    contract.raises thread state error pool.world :=
  hsound.reaches hidle hreaches thread _ hbody pool.world .refl

/-- An operation that a thread is about to perform is one its contract allows. -/
theorem guarded (hsound : contract.Sound scheduler)
    (hidle : ∀ thread world, contract.rely thread world world) {world : W}
    {pool : Pool σ ε S α P W} {thread : P} {state : S} {op : σ.Op}
    {next : Except ε (σ.Ret op) → Program σ ε (S ⊕ α)}
    (hreaches : Pool.Reaches scheduler { world, threads := fun _ => none } pool)
    (hbody : pool.threads thread = some { state, body := .perform op next }) :
    contract.guard thread op pool.world :=
  (hsound.reaches hidle hreaches thread _ hbody pool.world .refl).1

end Sound

end Contract

end SimulatorBroker.Effects
