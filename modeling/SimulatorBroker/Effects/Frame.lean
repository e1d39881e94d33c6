import SimulatorBroker.Effects.Weakest

/-!
# Programs of one kind of operation

`Program.All p body` says that every operation `body` can ever perform satisfies
`p`.  A program whose operations all keep a relation keeps it as a whole.
-/

namespace SimulatorBroker.Effects

universe u

namespace Program

variable {σ : Signature} {ε : Type} {α β ι : Type} {p : σ.Op → Prop}

def All (p : σ.Op → Prop) : Program σ ε α → Prop
  | .done _ => True
  | .fail _ => True
  | .perform op next => p op ∧ ∀ answer, (next answer).All p

@[simp]
theorem All.done (value : α) : (Program.done value : Program σ ε α).All p := trivial

@[simp]
theorem All.pure (value : α) : (Pure.pure value : Program σ ε α).All p := trivial

@[simp]
theorem All.fail (error : ε) : (Program.fail error : Program σ ε α).All p := trivial

@[simp]
theorem All.throw (error : ε) : (MonadExcept.throw error : Program σ ε α).All p := trivial

theorem All.bind {body : Program σ ε α} {rest : α → Program σ ε β} (hbody : body.All p)
    (hrest : ∀ value, (rest value).All p) : (body >>= rest).All p := by
  induction body with
  | done value => exact hrest value
  | fail error => exact trivial
  | perform op next ih => exact ⟨hbody.1, fun answer => ih answer (hbody.2 answer)⟩

theorem All.tryCatch {body : Program σ ε α} {handler : ε → Program σ ε α} (hbody : body.All p)
    (hhandler : ∀ error, (handler error).All p) :
    (MonadExcept.tryCatch body handler).All p := by
  induction body with
  | done value => exact trivial
  | fail error => exact hhandler error
  | perform op next ih => exact ⟨hbody.1, fun answer => ih answer (hbody.2 answer)⟩

theorem All.attempt {body : Program σ ε α} (hbody : body.All p) : body.attempt.All p := by
  induction body with
  | done value => exact trivial
  | fail error => exact trivial
  | perform op next ih => exact ⟨hbody.1, fun answer => ih answer (hbody.2 answer)⟩

theorem All.request {op : σ.Op} (hop : p op) : (Program.request op : Program σ ε (σ.Ret op)).All p := by
  refine ⟨hop, ?_⟩
  rintro (error | value) <;> exact trivial

theorem All.ensuring {body : Program σ ε α} {cleanup : Program σ ε Unit} (hbody : body.All p)
    (hcleanup : cleanup.All p) : (body.ensuring cleanup).All p := by
  refine .bind hbody.attempt fun outcome => .bind hcleanup fun _ => ?_
  cases outcome <;> exact trivial

theorem All.map {body : Program σ ε α} {f : α → β} (hbody : body.All p) : (f <$> body).All p := by
  induction body with
  | done value => exact trivial
  | fail error => exact trivial
  | perform op next ih => exact ⟨hbody.1, fun answer => ih answer (hbody.2 answer)⟩

theorem All.foldlM {body : β → ι → Program σ ε β} (hbody : ∀ state item, (body state item).All p)
    (items : List ι) (state : β) : (items.foldlM body state).All p := by
  induction items generalizing state with
  | nil => exact trivial
  | cons item rest ih =>
      rw [List.foldlM_cons]
      exact .bind (hbody state item) ih

theorem All.forM {body : ι → Program σ ε PUnit} (hbody : ∀ item, (body item).All p)
    (items : List ι) : (items.forM body).All p := by
  induction items with
  | nil => exact trivial
  | cons item rest ih => exact .bind (hbody item) fun _ => ih

theorem All.mono {q : σ.Op → Prop} {body : Program σ ε α} (hbody : body.All p)
    (himp : ∀ op, p op → q op) : body.All q := by
  induction body with
  | done value => exact trivial
  | fail error => exact trivial
  | perform op next ih => exact ⟨himp op hbody.1, fun answer => ih answer (hbody.2 answer)⟩

theorem All.any (body : Program σ ε α) : body.All fun _ => True := by
  induction body with
  | done value => exact trivial
  | fail error => exact trivial
  | perform op next ih => exact ⟨trivial, ih⟩

end Program

/-- A reflexive and transitive relation that every operation of the kind keeps,
whatever its answer, holds between the two ends of the program. -/
theorem wp_of_all {σ : Signature} {ε : Type} {W : Type u} {α : Type} {H : Handler σ ε W}
    {G : σ.Op → W → Prop} {p : σ.Op → Prop} {R : W → W → Prop} {first : W}
    {body : Program σ ε α} (hall : body.All p)
    (hrefl : R first first) (htrans : ∀ middle last, R first middle → R middle last → R first last)
    (hguard : ∀ op middle, p op → R first middle → G op middle)
    (hstep : ∀ op middle answer last, p op → H.step op middle answer last → R middle last) :
    wp H G body (fun _ after => R first after) (fun _ after => R first after) first := by
  suffices hgeneral : ∀ middle, R first middle →
      wp H G body (fun _ after => R first after) (fun _ after => R first after) middle from
    hgeneral first hrefl
  induction body with
  | done value => exact fun _ hmiddle => hmiddle
  | fail error => exact fun _ hmiddle => hmiddle
  | perform op next ih =>
      intro middle hmiddle
      refine ⟨hguard op middle hall.1 hmiddle, fun answer after hanswer => ?_⟩
      exact ih answer (hall.2 answer) after
        (htrans middle after hmiddle (hstep op middle answer after hall.1 hanswer))

/-- Whatever a program does, it does something. -/
theorem wp_anything {σ : Signature} {ε : Type} {W : Type u} {α : Type} {H : Handler σ ε W}
    {first : W} (body : Program σ ε α) :
    wp H (fun _ _ => True) body (fun _ _ => True) (fun _ _ => True) first :=
  wp_of_all (R := fun _ _ => True) (Program.All.any body) trivial (fun _ _ _ _ => trivial)
    (fun _ _ _ _ => trivial) fun _ _ _ _ _ _ => trivial

end SimulatorBroker.Effects
