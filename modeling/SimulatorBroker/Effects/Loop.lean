import SimulatorBroker.Effects.Weakest

/-!
# Loops

A loop runs its body until the body returns.  The rule asks for an invariant with a measure
that every further round makes smaller: with more rounds than the measure the loop returns.
-/

namespace SimulatorBroker.Effects

universe u

variable {σ : Signature} {ε : Type} {W : Type u} {S α : Type}

/-- The body from state to state, for so many rounds; `none` when they do not suffice. -/
def Program.rounds (body : S → Program σ ε (S ⊕ α)) : Nat → S → Program σ ε (Option α)
  | 0, _ => pure none
  | fuel + 1, state => do
      match ← body state with
      | .inl next => Program.rounds body fuel next
      | .inr value => pure (some value)

end SimulatorBroker.Effects
