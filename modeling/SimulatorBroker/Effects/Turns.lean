import SimulatorBroker.Effects.Concurrent
import SimulatorBroker.Effects.Frame

/-!
# Taking turns

Threads that change the world only while they hold one lock take turns.  What they do together they
could have done one after the other: every world of a pool is one that whole programs reach, each
begun in a world where the one before it was left.
-/

namespace SimulatorBroker.Effects

universe u v

open Relation (ReflTransGen)

/-- The operations that take and release the lock, and those that may be performed without it. -/
structure Exclusion (σ : Signature) where
  acquire : σ.Op
  release : σ.Op
  passive : σ.Op → Prop

/-- The world, and the thread that holds the lock. -/
structure Held (P : Type v) (W : Type u) where
  world : W
  holder : Option P

variable {σ : Signature} {ε S α β γ : Type} {P : Type v} {W : Type u} {L : Exclusion σ}

/-- What an operation of `self` does to the lock; a release that fails may leave it taken. -/
inductive LockStep (L : Exclusion σ) (self : P) (op : σ.Op) : Bool → Option P → Option P → Prop where
  | acquired (hop : op = L.acquire) : LockStep L self op true none (some self)
  | refused (hop : op = L.acquire) (holder : Option P) : LockStep L self op false holder holder
  | released (hop : op = L.release) (answered : Bool) : LockStep L self op answered (some self) none
  | kept (hop : op ≠ L.acquire) (answered : Bool) (holder : Option P) :
      LockStep L self op answered holder holder

namespace LockStep

variable {self : P} {op : σ.Op} {answered : Bool} {before after : Option P}

theorem other (hlock : LockStep L self op answered before after) (hacquire : op ≠ L.acquire)
    (hrelease : op ≠ L.release) : after = before := by
  cases hlock with
  | acquired hop => exact absurd hop hacquire
  | refused hop => rfl
  | released hop => exact absurd hop hrelease
  | kept hop => rfl

theorem of_refused (hlock : LockStep L self L.acquire false before after)
    (hdistinct : L.acquire ≠ L.release) : after = before := by
  cases hlock with
  | refused hop => rfl
  | released hop => exact absurd hop hdistinct
  | kept hop => rfl

theorem of_acquired (hlock : LockStep L self L.acquire true before after)
    (hdistinct : L.acquire ≠ L.release) : before = none ∧ after = some self := by
  cases hlock with
  | acquired hop => exact ⟨rfl, rfl⟩
  | released hop => exact absurd hop hdistinct
  | kept hop => exact absurd rfl hop

end LockStep

/-- The operations of `self`, with the lock. -/
def Handler.held (H : Handler σ ε W) (L : Exclusion σ) (self : P) : Handler σ ε (Held P W) where
  step op first answer last := H.step op first.world answer last.world ∧
    LockStep L self op answer.isOk first.holder last.holder

/-! ## Programs inside the lock -/

namespace Program

/-- The program never touches the lock until it releases it; from then on it is passive. -/
def Inside (L : Exclusion σ) : Program σ ε α → Prop
  | .done _ => True
  | .fail _ => True
  | .perform op next => op ≠ L.acquire ∧
      (op = L.release → ∀ answer, (next answer).All L.passive) ∧
      (op ≠ L.release → ∀ answer, Inside L (next answer))

theorem Inside.of_spares {body : Program σ ε α} {rest : α → Program σ ε β}
    (hbody : body.All fun op => op ≠ L.acquire ∧ op ≠ L.release)
    (hrest : ∀ value, (rest value).Inside L) : (body >>= rest).Inside L := by
  induction body with
  | done value => exact hrest value
  | fail error => trivial
  | perform op next ih =>
      obtain ⟨⟨hacquire, hrelease⟩, hnext⟩ := hbody
      exact ⟨hacquire, fun hop => absurd hop hrelease, fun _ answer => ih answer (hnext answer)⟩

/-- What follows is passive. -/
theorem Inside.bind {body : Program σ ε α} {rest : α → Program σ ε β} (hbody : body.Inside L)
    (hrest : ∀ value, (rest value).All L.passive ∧ (rest value).Inside L) :
    (body >>= rest).Inside L := by
  induction body with
  | done value => exact (hrest value).2
  | fail error => trivial
  | perform op next ih =>
      obtain ⟨hacquire, hreleased, hkept⟩ := hbody
      refine ⟨hacquire, fun hop answer => ?_, fun hop answer => ih answer (hkept hop answer)⟩
      exact .bind (hreleased hop answer) fun value => (hrest value).1

theorem Inside.attempt {body : Program σ ε α} (hbody : body.Inside L) :
    body.attempt.Inside L := by
  induction body with
  | done value => trivial
  | fail error => trivial
  | perform op next ih =>
      obtain ⟨hacquire, hreleased, hkept⟩ := hbody
      exact ⟨hacquire, fun hop answer => .attempt (hreleased hop answer),
        fun hop answer => ih answer (hkept hop answer)⟩

theorem inside_of_passive {body : Program σ ε α}
    (hpassive : ∀ op, L.passive op → op ≠ L.acquire ∧ op ≠ L.release)
    (hbody : body.All L.passive) : body.Inside L := by
  induction body with
  | done value => trivial
  | fail error => trivial
  | perform op next ih =>
      obtain ⟨hop, hnext⟩ := hbody
      obtain ⟨hacquire, hrelease⟩ := hpassive op hop
      exact ⟨hacquire, fun heq => absurd heq hrelease, fun _ answer => ih answer (hnext answer)⟩

/-- A section: the lock is released when it is over, whichever way. -/
theorem inside_ensuring {body : Program σ ε α} {cleanup : Program σ ε Unit}
    (hbody : body.All fun op => op ≠ L.acquire ∧ op ≠ L.release)
    (hcleanup : ∀ rest : Unit → Program σ ε α, (∀ value, (rest value).All L.passive) →
      (cleanup >>= rest).Inside L) :
    (body.ensuring cleanup).Inside L := by
  refine .of_spares hbody.attempt fun outcome => hcleanup _ fun _ => ?_
  cases outcome with
  | ok value => exact .pure _
  | error error => exact .fail _

theorem bind_eq_attempt (body : Program σ ε α) (rest : α → Program σ ε β) :
    body >>= rest = body.attempt >>= fun outcome => .ofOutcome outcome >>= rest := by
  induction body with
  | done value => rfl
  | fail error => rfl
  | perform op next ih => exact congrArg (Program.perform op) (funext fun answer => ih answer)

theorem ensuring_bind (body : Program σ ε α) (cleanup : Program σ ε Unit)
    (rest : α → Program σ ε β) :
    body.ensuring cleanup >>= rest =
      body.attempt >>= fun outcome => cleanup >>= fun _ => .ofOutcome outcome >>= rest := by
  unfold ensuring
  rw [bind_assoc]
  refine congrArg (body.attempt >>= ·) (funext fun outcome => ?_)
  rw [bind_assoc]
  cases outcome <;> rfl

/-- Every value the program returns. -/
def Yields (q : α → Prop) : Program σ ε α → Prop
  | .done value => q value
  | .fail _ => True
  | .perform _ next => ∀ answer, Yields q (next answer)

theorem yields_bind {q : β → Prop} {body : Program σ ε α} {rest : α → Program σ ε β}
    (hrest : ∀ value, (rest value).Yields q) : (body >>= rest).Yields q := by
  induction body with
  | done value => exact hrest value
  | fail error => trivial
  | perform op next ih => exact fun answer => ih answer

end Program

/-- The steps of a program whose result is replaced. -/
theorem Steps.of_map {H : Handler σ ε W} {f : α → β} {body : Program σ ε α}
    {rest : Program σ ε β} {first last : W}
    (hsteps : Steps H (body >>= fun value => pure (f value)) first rest last) :
    ∃ inner : Program σ ε α, rest = (inner >>= fun value => pure (f value)) ∧
      Steps H body first inner last := by
  generalize hmapped : (body >>= fun value => pure (f value)) = mapped at hsteps
  induction hsteps generalizing body with
  | refl => exact ⟨body, hmapped.symm, .refl _ _⟩
  | head hstep _ ih =>
      cases body with
      | done value => cases hmapped
      | fail error => cases hmapped
      | perform op next =>
          cases hmapped
          obtain ⟨inner, hrest, hinner⟩ := ih rfl
          exact ⟨inner, hrest, .head hstep hinner⟩

theorem Performs.of_map {H : Handler σ ε W} {f : α → β} {body : Program σ ε α} {op : σ.Op}
    {first last : W} (hperforms : Performs H (body >>= fun value => pure (f value)) first op last) :
    Performs H body first op last := by
  obtain ⟨next, hsteps⟩ := hperforms
  obtain ⟨inner, hrest, hinner⟩ := hsteps.of_map
  cases inner with
  | done value => cases hrest
  | fail error => cases hrest
  | perform op' next' =>
      cases hrest
      exact ⟨next', hinner⟩

/-! ## Turns -/

/-- Programs that take turns under a lock: how they perform operations, the program of each task and
where it may begin, as which task it comes to the lock, what passes by itself, and the worlds that
whole programs reach. -/
structure Crew (σ : Signature) (ε S α : Type) (W : Type u) where
  handler : Handler σ ε W
  lock : Exclusion σ
  round : S → Program σ ε (S ⊕ α)
  ready : S → W → Prop
  comesAs : S → S → Prop
  drift : W → W → Prop
  reached : W → Prop

namespace Crew

/-- Before the lock: the program stays passive, or comes to take the lock as a program would that
begins there and then. -/
inductive Enters (crew : Crew σ ε S α W) (state : S) : Program σ ε (S ⊕ α) → Prop where
  | passive {body : Program σ ε (S ⊕ α)} (passive : body.All crew.lock.passive) :
      Enters crew state body
  | reads {op : σ.Op} {next : Except ε (σ.Ret op) → Program σ ε (S ⊕ α)}
      (passive : crew.lock.passive op) (rest : ∀ answer, Enters crew state (next answer)) :
      Enters crew state (.perform op next)
  | takes {next : Except ε (σ.Ret crew.lock.acquire) → Program σ ε (S ⊕ α)} (task : S)
      (comesAs : crew.comesAs state task)
      (replays : ∀ world, Steps crew.handler (crew.round task) world
        (.perform crew.lock.acquire next) world)
      (inside : ∀ value, (next (.ok value)).Inside crew.lock)
      (refused : ∀ error, (next (.error error)).All crew.lock.passive) :
      Enters crew state (.perform crew.lock.acquire next)

theorem Enters.bind {crew : Crew σ ε S α W} {state : S} {body : Program σ ε β}
    {rest : β → Program σ ε (S ⊕ α)} (hbody : body.All crew.lock.passive)
    (hrest : ∀ value, crew.Enters state (rest value)) : crew.Enters state (body >>= rest) := by
  induction body with
  | done value => exact hrest value
  | fail error => exact .passive (.fail error)
  | perform op next ih => exact .reads hbody.1 fun answer => ih answer (hbody.2 answer)

/-- What is asked of a crew. -/
structure Sound (crew : Crew σ ε S α W) : Prop where
  refl : ∀ world, crew.drift world world
  trans : ∀ {first middle last}, crew.drift first middle → crew.drift middle last →
    crew.drift first last
  absorbs : ∀ {op first answer middle last}, crew.handler.step op first answer middle →
    crew.drift middle last → crew.handler.step op first answer last
  passive : ∀ {op first answer last}, crew.lock.passive op →
    crew.handler.step op first answer last → crew.drift first last
  acquires : ∀ {first answer last}, crew.handler.step crew.lock.acquire first answer last →
    crew.drift first last
  apart : ∀ op, crew.lock.passive op → op ≠ crew.lock.acquire ∧ op ≠ crew.lock.release
  distinct : crew.lock.acquire ≠ crew.lock.release
  readyStep : ∀ {state op first answer last}, crew.ready state first →
    crew.handler.step op first answer last → crew.ready state last
  readyAs : ∀ {state task world}, crew.ready state world → crew.comesAs state task →
    crew.ready task world
  readyDrift : ∀ {state first last}, crew.ready state first → crew.drift first last →
    crew.ready state last
  enters : ∀ {state world}, crew.ready state world → crew.Enters state (crew.round state)
  ends : ∀ state, (crew.round state).Yields fun result => result.isRight = true
  reachedDrift : ∀ {first last}, crew.reached first → crew.drift first last → crew.reached last
  reachedTurn : ∀ {state first rest last}, crew.reached first → crew.ready state first →
    Steps crew.handler (crew.round state) first rest last → crew.reached last

/-- A thread outside the lock, or the one inside, which began where other programs were left. -/
inductive Turn (crew : Crew σ ε S α W) (self : P) (state : S) (held : Held P W)
    (body : Program σ ε (S ⊕ α)) : Prop where
  | outside (isReady : crew.ready state held.world) (enters : crew.Enters state body)
  | inside (task : S) (base : W) (holds : held.holder = some self)
      (isReady : crew.ready state held.world) (comesAs : crew.comesAs state task)
      (reached : crew.reached base) (began : crew.ready task base)
      (steps : ∀ later, crew.drift held.world later →
        Steps crew.handler (crew.round task) base body later)
      (within : body.Inside crew.lock)

/-- Every world was reached by whole programs, and every thread is in its turn or waits for it. -/
structure Serialized (crew : Crew σ ε S α W) (pool : Pool σ ε S α P (Held P W)) : Prop where
  world : crew.reached pool.world.world
  yields : ∀ self running, pool.threads self = some running →
    running.body.Yields fun result => result.isRight = true
  turn : ∀ self running, pool.threads self = some running →
    crew.Turn self running.state pool.world running.body

variable {crew : Crew σ ε S α W}

theorem Turn.moved {self : P} {state : S} {held after : Held P W} {body : Program σ ε (S ⊕ α)}
    (hturn : crew.Turn self state held body) (hsound : crew.Sound)
    (hready : crew.ready state held.world → crew.ready state after.world)
    (hmine : held.holder = some self →
      after.holder = some self ∧ crew.drift held.world after.world) :
    crew.Turn self state after body := by
  cases hturn with
  | outside hisReady henters => exact .outside (hready hisReady) henters
  | inside task base hholds hisReady hcomes hreached hbegan hsteps hwithin =>
      obtain ⟨hholder, hdrift⟩ := hmine hholds
      exact .inside task base hholder (hready hisReady) hcomes hreached hbegan
        (fun later hlater => hsteps later (hsound.trans hdrift hlater)) hwithin

/-- The turn of a thread that performs an operation, and what the others see of it. -/
structure Performed (crew : Crew σ ε S α W) (thread : P) (state : S) (held after : Held P W)
    (body : Program σ ε (S ⊕ α)) : Prop where
  reached : crew.reached after.world
  turn : crew.Turn thread state after body
  others : ∀ other, other ≠ thread → held.holder = some other →
    after.holder = some other ∧ crew.drift held.world after.world

/-- A passive operation leaves the lock to who has it. -/
theorem Performed.of_passive {self : P} {state : S} {held after : Held P W} {op : σ.Op}
    {body : Program σ ε (S ⊕ α)} {answer : Except ε (σ.Ret op)} (hsound : crew.Sound)
    (hpassive : crew.lock.passive op) (hreached : crew.reached held.world)
    (hstep : (crew.handler.held crew.lock self).step op held answer after)
    (hturn : crew.Turn self state after body) : crew.Performed self state held after body := by
  obtain ⟨hworld, hlock⟩ := hstep
  have hdrift := hsound.passive hpassive hworld
  obtain ⟨hacquire, hrelease⟩ := hsound.apart op hpassive
  have hholder := hlock.other hacquire hrelease
  exact ⟨hsound.reachedDrift hreached hdrift, hturn, fun other _ hother =>
    ⟨hholder.trans hother, hdrift⟩⟩

theorem Turn.enter {self : P} {held after : Held P W} {state : S} {op : σ.Op}
    {next : Except ε (σ.Ret op) → Program σ ε (S ⊕ α)} {answer : Except ε (σ.Ret op)}
    (hready : crew.ready state held.world) (henters : crew.Enters state (.perform op next))
    (hsound : crew.Sound) (hreached : crew.reached held.world)
    (hstep : (crew.handler.held crew.lock self).step op held answer after) :
    crew.Performed self state held after (next answer) := by
  have hlater : crew.ready state after.world := hsound.readyStep hready hstep.1
  cases henters with
  | passive hpassive =>
      exact .of_passive hsound hpassive.1 hreached hstep
        (.outside hlater (.passive (hpassive.2 answer)))
  | reads hpassive hrest =>
      exact .of_passive hsound hpassive hreached hstep (.outside hlater (hrest answer))
  | takes task hcomes hreplays hinside hrefused =>
      obtain ⟨hworld, hlock⟩ := hstep
      have hdrift := hsound.acquires hworld
      have hnext := hsound.reachedDrift hreached hdrift
      cases answer with
      | error error =>
          have hholder := LockStep.of_refused hlock hsound.distinct
          exact ⟨hnext, .outside hlater (.passive (hrefused error)), fun other _ hother =>
            ⟨hholder.trans hother, hdrift⟩⟩
      | ok value =>
          obtain ⟨hnone, hholds⟩ := LockStep.of_acquired hlock hsound.distinct
          constructor
          · exact hnext
          · refine .inside task held.world hholds hlater hcomes hreached
              (hsound.readyAs hready hcomes) ?_ (hinside value)
            exact fun world hworld' => (hreplays held.world).trans
              (.head (hsound.absorbs hworld hworld') (.refl _ _))
          · intro other _ hother
            rw [hnone] at hother
            cases hother

/-- An operation of a thread, wherever it is. -/
theorem Turn.perform {self : P} {state : S} {held after : Held P W} {op : σ.Op}
    {next : Except ε (σ.Ret op) → Program σ ε (S ⊕ α)} {answer : Except ε (σ.Ret op)}
    (hturn : crew.Turn self state held (.perform op next)) (hsound : crew.Sound)
    (hreached : crew.reached held.world)
    (hstep : (crew.handler.held crew.lock self).step op held answer after) :
    crew.Performed self state held after (next answer) := by
  cases hturn with
  | outside hready henters => exact Turn.enter hready henters hsound hreached hstep
  | inside task base hholds hready hcomes hbase hbegan hsteps hwithin =>
      obtain ⟨hworld, hlock⟩ := hstep
      obtain ⟨hacquire, hreleased, hkept⟩ := hwithin
      have hlater : crew.ready state after.world := hsound.readyStep hready hworld
      have hcontinued : ∀ later, crew.drift after.world later →
          Steps crew.handler (crew.round task) base (next answer) later :=
        fun later hdrift => (hsteps _ (hsound.refl _)).trans
          (.head (hsound.absorbs hworld hdrift) (.refl _ _))
      constructor
      · exact hsound.reachedTurn hbase hbegan (hcontinued _ (hsound.refl _))
      · by_cases hop : op = crew.lock.release
        · exact .outside hlater (.passive (hreleased hop answer))
        · refine .inside task base ?_ hlater hcomes hbase hbegan hcontinued (hkept hop answer)
          exact (hlock.other hacquire hop).trans hholds
      · intro other hother hheld
        rw [hholds] at hheld
        exact absurd (Option.some.inj hheld).symm hother

/-- What a thread performs next is passive, the request of the lock, or what a program performs that
began where whole programs were left. -/
theorem Serialized.performs {pool : Pool σ ε S α P (Held P W)} {self : P} {state : S} {op : σ.Op}
    {next : Except ε (σ.Ret op) → Program σ ε (S ⊕ α)} (hserialized : crew.Serialized pool)
    (hsound : crew.Sound)
    (hrunning : pool.threads self = some { state, body := .perform op next }) :
    crew.lock.passive op ∨ op = crew.lock.acquire ∨
      pool.world.holder = some self ∧ ∃ task base, crew.comesAs state task ∧ crew.reached base ∧
        crew.ready task base ∧ Performs crew.handler (crew.round task) base op pool.world.world := by
  cases hserialized.turn self _ hrunning with
  | outside hready henters =>
      cases henters with
      | passive hpassive => exact .inl hpassive.1
      | reads hpassive hrest => exact .inl hpassive
      | takes => exact .inr (.inl rfl)
  | inside task base hholds hready hcomes hreached hbegan hsteps hwithin =>
      exact .inr (.inr ⟨hholds, task, base, hcomes, hreached, hbegan, next,
        hsteps _ (hsound.refl _)⟩)

end Crew

/-- Threads that take turns, and time that passes between their operations. -/
def Crew.scheduler [DecidableEq P] (crew : Crew σ ε S α W) : Scheduler σ ε S α P (Held P W) where
  handler self := crew.handler.held crew.lock self
  round _ := crew.round
  starts _ state held := crew.ready state held.world
  stop self held := if held.holder = some self then { held with holder := none } else held
  outside before after := crew.drift before.world after.world ∧ after.holder = before.holder

namespace Crew

variable [DecidableEq P] {crew : Crew σ ε S α W}

@[simp]
theorem scheduler_stop_world (thread : P) (held : Held P W) :
    (crew.scheduler.stop thread held).world = held.world := by
  show (if held.holder = some thread then { held with holder := none } else held).world = _
  split <;> rfl

/-- One thread moves, with the world; the others see it. -/
theorem Serialized.set {pool : Pool σ ε S α P (Held P W)} {held : Held P W} {thread : P}
    {state : Option (Thread σ ε S α)} (hserialized : crew.Serialized pool)
    (hreached : crew.reached held.world)
    (hthread : ∀ running, state = some running →
      running.body.Yields (fun result => result.isRight = true) ∧
        crew.Turn thread running.state held running.body)
    (hothers : ∀ self, self ≠ thread → ∀ running, pool.threads self = some running →
      crew.Turn self running.state held running.body) :
    crew.Serialized (pool.set held thread state) := by
  have hcases : ∀ self running, (pool.set held thread state).threads self = some running →
      running.body.Yields (fun result => result.isRight = true) ∧
        crew.Turn self running.state held running.body := by
    intro self running hrunning
    by_cases hself : self = thread
    · subst hself
      rw [Pool.set_self] at hrunning
      exact hthread running hrunning
    · rw [Pool.set_of_ne _ _ hself] at hrunning
      exact ⟨hserialized.yields self running hrunning, hothers self hself running hrunning⟩
  exact ⟨hreached, fun self running hrunning => (hcases self running hrunning).1,
    fun self running hrunning => (hcases self running hrunning).2⟩

/-- One step of a pool. -/
theorem Serialized.step {pool after : Pool σ ε S α P (Held P W)} (hserialized : crew.Serialized pool)
    (hsound : crew.Sound) (hstep : Pool.Step crew.scheduler pool after) :
    crew.Serialized after := by
  obtain ⟨hworld, hyields, hturn⟩ := hserialized
  cases hstep with
  | start thread state hfree hstarts =>
      refine Serialized.set ⟨hworld, hyields, hturn⟩ hworld ?_ fun self _ => hturn self
      rintro running ⟨⟩
      exact ⟨hsound.ends state, .outside hstarts (hsound.enters hstarts)⟩
  | act thread state op next answer last hbody hact =>
      have hperformed := (hturn thread _ hbody).perform hsound hworld hact
      refine Serialized.set ⟨hworld, hyields, hturn⟩ hperformed.reached ?_ ?_
      · rintro running ⟨⟩
        exact ⟨hyields thread _ hbody answer, hperformed.turn⟩
      · intro self hself running hrunning
        exact (hturn self running hrunning).moved hsound
          (fun hready => hsound.readyStep hready hact.1) (hperformed.others self hself)
  | again thread state next hbody =>
      have hright := hyields thread _ hbody
      cases hright
  | stop thread =>
      refine Serialized.set ⟨hworld, hyields, hturn⟩ (by rwa [scheduler_stop_world]) nofun ?_
      intro self hself running hrunning
      refine (hturn self running hrunning).moved hsound
        (fun hready => by rwa [scheduler_stop_world]) ?_
      intro hheld
      have hother : pool.world.holder ≠ some thread := by
        rw [hheld]
        exact fun heq => hself (Option.some.inj heq)
      have hkept : crew.scheduler.stop thread pool.world = pool.world := if_neg hother
      rw [hkept]
      exact ⟨hheld, hsound.refl _⟩
  | outside last houtside =>
      obtain ⟨hdrift, hholder⟩ := houtside
      refine ⟨hsound.reachedDrift hworld hdrift, hyields, fun self running hrunning => ?_⟩
      exact (hturn self running hrunning).moved hsound
        (fun hready => hsound.readyDrift hready hdrift)
        fun hheld => ⟨hholder.trans hheld, hdrift⟩

/-- What the threads of a crew do together, whole programs do one after the other. -/
theorem Serialized.reaches {pool after : Pool σ ε S α P (Held P W)}
    (hserialized : crew.Serialized pool) (hsound : crew.Sound)
    (hreaches : Pool.Reaches crew.scheduler pool after) : crew.Serialized after := by
  induction hreaches with
  | refl => exact hserialized
  | tail _ hstep ih => exact ih.step hsound hstep

end Crew

end SimulatorBroker.Effects
