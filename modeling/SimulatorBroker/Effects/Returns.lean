import SimulatorBroker.Effects.Program

/-!
# Programs that raise nothing of their own

`Program.Returns body` says that `body` returns a value whenever none of its operations
fails.
-/

namespace SimulatorBroker.Effects

universe u

variable {σ : Signature} {ε : Type} {W : Type u} {α β : Type}

/-- The handler of the runs in which no operation fails. -/
def Handler.unfailing (H : Handler σ ε W) : Handler σ ε W where
  step op first answer last := H.step op first answer last ∧ ∃ value, answer = .ok value

namespace Program

def Returns : Program σ ε α → Prop
  | .done _ => True
  | .fail _ => False
  | .perform _ next => ∀ value, (next (.ok value)).Returns

@[simp]
theorem Returns.pure (value : α) : (Pure.pure value : Program σ ε α).Returns := trivial

theorem Returns.bind {body : Program σ ε α} {rest : α → Program σ ε β} (hbody : body.Returns)
    (hrest : ∀ value, (rest value).Returns) : (body >>= rest).Returns := by
  induction body with
  | done value => exact hrest value
  | fail error => exact hbody.elim
  | perform op next ih => exact fun value => ih (.ok value) (hbody value)

/-- A handler that is never needed. -/
theorem Returns.tryCatch {body : Program σ ε α} (hbody : body.Returns)
    (handler : ε → Program σ ε α) : (MonadExcept.tryCatch body handler).Returns := by
  induction body with
  | done value => exact trivial
  | fail error => exact hbody.elim
  | perform op next ih => exact fun value => ih (.ok value) (hbody value)

theorem Returns.request (op : σ.Op) : (Program.request op : Program σ ε (σ.Ret op)).Returns :=
  fun _ => trivial

/-- No error is raised while no operation fails. -/
theorem Returns.not_fail {H : Handler σ ε W} {body : Program σ ε α} {first last : W} {error : ε}
    (hreturns : body.Returns) : ¬ Steps H.unfailing body first (.fail error) last := by
  intro hsteps
  generalize hrest : Program.fail error = rest at hsteps
  induction hsteps with
  | refl =>
      subst hrest
      exact hreturns
  | head hstep _ ih =>
      obtain ⟨-, value, rfl⟩ := hstep
      exact ih (hreturns value) hrest

end Program

end SimulatorBroker.Effects
