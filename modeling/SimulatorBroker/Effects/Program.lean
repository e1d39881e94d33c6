import Mathlib.Order.Basic

/-!
# Programs over fallible effects

A program performs operations of a fixed signature one at a time.  Every
operation may answer with a value or with an error, and the program decides how
to go on; a crash is a run that stops between two operations.  Nothing here
names a particular signature.
-/

namespace SimulatorBroker.Effects

universe u

/-- The operations a program may perform, each with the type of its answer. -/
structure Signature where
  Op : Type
  Ret : Op → Type

/-- A sequential program: it has finished, it has thrown, or it performs one
operation and continues from the answer. -/
inductive Program (σ : Signature) (ε : Type) (α : Type) where
  | done (value : α)
  | fail (error : ε)
  | perform (op : σ.Op) (next : Except ε (σ.Ret op) → Program σ ε α)

namespace Program

variable {σ : Signature} {ε : Type} {α β γ : Type}

/-- Sequencing; an error skips the rest. -/
def bind : Program σ ε α → (α → Program σ ε β) → Program σ ε β
  | .done value, rest => rest value
  | .fail error, _ => .fail error
  | .perform op next, rest => .perform op fun answer => (next answer).bind rest

/-- `try`/`catch`: the handler runs exactly when the body throws. -/
def tryCatch : Program σ ε α → (ε → Program σ ε α) → Program σ ε α
  | .done value, _ => .done value
  | .fail error, handler => handler error
  | .perform op next, handler => .perform op fun answer => (next answer).tryCatch handler

/-- Run the body and hand back its outcome instead of throwing. -/
def attempt : Program σ ε α → Program σ ε (Except ε α)
  | .done value => .done (.ok value)
  | .fail error => .done (.error error)
  | .perform op next => .perform op fun answer => (next answer).attempt

/-- One operation, its error thrown. -/
def request (op : σ.Op) : Program σ ε (σ.Ret op) :=
  .perform op fun
    | .ok value => .done value
    | .error error => .fail error

instance : Monad (Program σ ε) where
  pure := .done
  bind := .bind

instance : MonadExceptOf ε (Program σ ε) where
  throw := .fail
  tryCatch := .tryCatch

/-- `try`/`finally`: the clean-up always runs, and its own error wins. -/
def ensuring (body : Program σ ε α) (cleanup : Program σ ε Unit) : Program σ ε α := do
  let outcome ← body.attempt
  cleanup
  match outcome with
  | .ok value => pure value
  | .error error => .fail error

@[simp]
theorem pure_eq (value : α) : (pure value : Program σ ε α) = .done value := rfl

@[simp]
theorem bind_eq (body : Program σ ε α) (rest : α → Program σ ε β) :
    body >>= rest = body.bind rest := rfl

@[simp]
theorem throw_eq (error : ε) : (throw error : Program σ ε α) = .fail error := rfl

theorem bind_assoc (body : Program σ ε α) (next : α → Program σ ε β)
    (last : β → Program σ ε γ) :
    (body >>= next) >>= last = body >>= fun value => next value >>= last := by
  induction body with
  | done value => rfl
  | fail error => rfl
  | perform op rest ih => exact congrArg (Program.perform op) (funext fun answer => ih answer)

end Program

/-! ## Handlers and runs -/

/-- What an operation may answer in a world, and the world it leaves. -/
structure Handler (σ : Signature) (ε : Type) (W : Type u) where
  step : (op : σ.Op) → W → Except ε (σ.Ret op) → W → Prop

/-- One handler answers only what another one may answer. -/
def Handler.Refines {σ : Signature} {ε : Type} {W : Type u} (fine coarse : Handler σ ε W) : Prop :=
  ∀ op first answer last, fine.step op first answer last → coarse.step op first answer last

/-- Finitely many operations of a program.  A run may stop after any of them,
so every crash point of a program is the end of such a run. -/
inductive Steps {σ : Signature} {ε : Type} {W : Type u} {α : Type} (H : Handler σ ε W) :
    Program σ ε α → W → Program σ ε α → W → Prop where
  | refl (body : Program σ ε α) (world : W) : Steps H body world body world
  | head {op : σ.Op} {next : Except ε (σ.Ret op) → Program σ ε α} {first middle last : W}
      {answer : Except ε (σ.Ret op)} {rest : Program σ ε α} :
      H.step op first answer middle → Steps H (next answer) middle rest last →
      Steps H (.perform op next) first rest last

namespace Steps

variable {σ : Signature} {ε : Type} {W : Type u} {α : Type} {H : Handler σ ε W}

theorem trans {first middle last : Program σ ε α} {before between after : W}
    (hfirst : Steps H first before middle between)
    (hlast : Steps H middle between last after) : Steps H first before last after := by
  induction hfirst with
  | refl => exact hlast
  | head hstep _ ih => exact .head hstep (ih hlast)

theorem mono {coarse : Handler σ ε W} (hrefines : H.Refines coarse)
    {first last : Program σ ε α} {before after : W}
    (hsteps : Steps H first before last after) : Steps coarse first before last after := by
  induction hsteps with
  | refl => exact .refl _ _
  | head hstep _ ih => exact .head (hrefines _ _ _ _ hstep) ih

end Steps

/-- The program, started in `first`, performs `op` in `world`. -/
def Performs {σ : Signature} {ε : Type} {W : Type u} {α : Type} (H : Handler σ ε W)
    (body : Program σ ε α) (first : W) (op : σ.Op) (world : W) : Prop :=
  ∃ next, Steps H body first (.perform op next) world

/-! ## Running a program against a deterministic responder -/

/-- A responder fixes the answer to each operation; it sees how many operations
came before, so that it can fail the one at a chosen position. -/
def Responder (σ : Signature) (ε : Type) (W : Type u) : Type u :=
  Nat → (op : σ.Op) → W → Except ε (σ.Ret op) × W

namespace Program

variable {σ : Signature} {ε : Type} {W : Type u} {α : Type}

/-- Run to the end. -/
def run (respond : Responder σ ε W) : Program σ ε α → Nat → W → Except ε α × W
  | .done value, _, world => (.ok value, world)
  | .fail error, _, world => (.error error, world)
  | .perform op next, position, world =>
      (next (respond position op world).1).run respond (position + 1) (respond position op world).2

/-- Run at most `fuel` operations: the rest of the program and the world there. -/
def runFor (respond : Responder σ ε W) : Nat → Program σ ε α → Nat → W → Program σ ε α × W
  | 0, body, _, world => (body, world)
  | _, .done value, _, world => (.done value, world)
  | _, .fail error, _, world => (.fail error, world)
  | fuel + 1, .perform op next, position, world =>
      runFor respond fuel (next (respond position op world).1) (position + 1)
        (respond position op world).2

/-- Every answer of the run is one of those allowed. -/
def answersIn (respond : Responder σ ε W) (allows : (op : σ.Op) → W → Except ε (σ.Ret op) → Bool) :
    Program σ ε α → Nat → W → Bool
  | .done _, _, _ => true
  | .fail _, _, _ => true
  | .perform op next, position, world =>
      allows op world (respond position op world).1 &&
        (next (respond position op world).1).answersIn respond allows (position + 1)
          (respond position op world).2

/-- The program an outcome stands for. -/
def ofOutcome : Except ε α → Program σ ε α
  | .ok value => .done value
  | .error error => .fail error

end Program

/-- The responder only gives answers the handler allows. -/
def Responder.Sound {σ : Signature} {ε : Type} {W : Type u} (respond : Responder σ ε W)
    (H : Handler σ ε W) : Prop :=
  ∀ position op world, H.step op world (respond position op world).1 (respond position op world).2

namespace Responder.Sound

variable {σ : Signature} {ε : Type} {W : Type u} {α : Type} {H : Handler σ ε W}
  {respond : Responder σ ε W}

theorem run_steps (hsound : respond.Sound H) (body : Program σ ε α) (position : Nat) (world : W) :
    Steps H body world (.ofOutcome (body.run respond position world).1)
      (body.run respond position world).2 := by
  induction body generalizing position world with
  | done value => exact .refl _ _
  | fail error => exact .refl _ _
  | perform op next ih => exact .head (hsound position op world) (ih _ _ _)

/-- A run is one under another handler, if that handler gives the answers allowed. -/
theorem run_steps_of_answersIn {K : Handler σ ε W}
    {allows : (op : σ.Op) → W → Except ε (σ.Ret op) → Bool} (hsound : respond.Sound H)
    (hallowed : ∀ op world answer after, allows op world answer = true →
      H.step op world answer after → K.step op world answer after)
    (body : Program σ ε α) (position : Nat) (world : W)
    (hanswers : body.answersIn respond allows position world = true) :
    Steps K body world (.ofOutcome (body.run respond position world).1)
      (body.run respond position world).2 := by
  induction body generalizing position world with
  | done value => exact .refl _ _
  | fail error => exact .refl _ _
  | perform op next ih =>
      obtain ⟨hanswer, hrest⟩ := Bool.and_eq_true_iff.mp hanswers
      exact .head (hallowed op world _ _ hanswer (hsound position op world)) (ih _ _ _ hrest)

/-- So is the beginning of a run. -/
theorem runFor_steps_of_answersIn {K : Handler σ ε W}
    {allows : (op : σ.Op) → W → Except ε (σ.Ret op) → Bool} (hsound : respond.Sound H)
    (hallowed : ∀ op world answer after, allows op world answer = true →
      H.step op world answer after → K.step op world answer after)
    (fuel : Nat) (body : Program σ ε α) (position : Nat) (world : W)
    (hanswers : body.answersIn respond allows position world = true) :
    Steps K body world (body.runFor respond fuel position world).1
      (body.runFor respond fuel position world).2 := by
  induction fuel generalizing body position world with
  | zero => cases body <;> exact .refl _ _
  | succ fuel ih =>
      cases body with
      | done value => exact .refl _ _
      | fail error => exact .refl _ _
      | perform op next =>
          obtain ⟨hanswer, hrest⟩ := Bool.and_eq_true_iff.mp hanswers
          exact .head (hallowed op world _ _ hanswer (hsound position op world)) (ih _ _ _ hrest)

theorem runFor_steps (hsound : respond.Sound H) (fuel : Nat) (body : Program σ ε α)
    (position : Nat) (world : W) :
    Steps H body world (body.runFor respond fuel position world).1
      (body.runFor respond fuel position world).2 := by
  induction fuel generalizing body position world with
  | zero => cases body <;> exact .refl _ _
  | succ fuel ih =>
      cases body with
      | done value => exact .refl _ _
      | fail error => exact .refl _ _
      | perform op next => exact .head (hsound position op world) (ih _ _ _)

end Responder.Sound

end SimulatorBroker.Effects
