import SimulatorBroker.Effects.Program

/-!
# Ghost state

A record that is kept beside the world of a handler.  No answer depends on it, so a run with
the record is a run without it.
-/

namespace SimulatorBroker.Effects

universe u v

variable {σ : Signature} {ε : Type} {W : Type u} {G : Type v} {α : Type} {H : Handler σ ε W}
  {note : (op : σ.Op) → W → Except ε (σ.Ret op) → G → G}

/-- The handler, its answers noted in the record. -/
def Handler.noting (H : Handler σ ε W)
    (note : (op : σ.Op) → W → Except ε (σ.Ret op) → G → G) : Handler σ ε (W × G) where
  step op first answer last :=
    H.step op first.1 answer last.1 ∧ last.2 = note op first.1 answer first.2

/-- The responder, its answers noted in the record. -/
def Responder.noting (respond : Responder σ ε W)
    (note : (op : σ.Op) → W → Except ε (σ.Ret op) → G → G) : Responder σ ε (W × G) :=
  fun position op world =>
    ((respond position op world.1).1, (respond position op world.1).2,
      note op world.1 (respond position op world.1).1 world.2)

theorem Responder.Sound.noting {respond : Responder σ ε W} (hsound : respond.Sound H) :
    (respond.noting note).Sound (H.noting note) :=
  fun position op world => ⟨hsound position op world.1, rfl⟩

/-- The run without its record. -/
theorem Steps.forget {body rest : Program σ ε α} {before after : W × G}
    (hsteps : Steps (H.noting note) body before rest after) :
    Steps H body before.1 rest after.1 := by
  induction hsteps with
  | refl => exact .refl _ _
  | head hstep _ ih => exact .head hstep.1 ih

/-- What each operation preserves is preserved by a run. -/
theorem Steps.invariant {I : W → Prop} {body rest : Program σ ε α} {before after : W}
    (hstep : ∀ op first answer last, H.step op first answer last → I first → I last)
    (hsteps : Steps H body before rest after) (hbefore : I before) : I after := by
  induction hsteps with
  | refl => exact hbefore
  | head hhead _ ih => exact ih (hstep _ _ _ _ hhead hbefore)

end SimulatorBroker.Effects
