import SimulatorBroker.Effects.Program

/-!
# Weakest preconditions with a crash guard

`wp H guard body post raise world` says: in every run of `body` from `world`
under the handler `H`, each operation is performed in a world its guard allows,
a normal return satisfies `post` and an error satisfies `raise`.  Since a crash
leaves the world of the operation that was about to be performed, the guard is
also what holds at every crash point.
-/

namespace SimulatorBroker.Effects

universe u

section Definition

variable {σ : Signature} {ε : Type} {W : Type u} {α : Type}

def wp (H : Handler σ ε W) (guard : σ.Op → W → Prop) :
    Program σ ε α → (α → W → Prop) → (ε → W → Prop) → W → Prop
  | .done value, post, _, world => post value world
  | .fail error, _, raise, world => raise error world
  | .perform op next, post, raise, world =>
      guard op world ∧ ∀ answer after, H.step op world answer after →
        wp H guard (next answer) post raise after

end Definition

variable {σ : Signature} {ε : Type} {W : Type u} {α β ι : Type} {H : Handler σ ε W}
  {guard : σ.Op → W → Prop} {post : α → W → Prop} {raise : ε → W → Prop} {world : W}

/-! ## Soundness -/

/-- What is established about a program holds of the rest of it at any later point. -/
theorem wp.steps {body rest : Program σ ε α} {first last : W}
    (hwp : wp H guard body post raise first) (hsteps : Steps H body first rest last) :
    wp H guard rest post raise last := by
  induction hsteps with
  | refl => exact hwp
  | head hstep _ ih => exact ih (hwp.2 _ _ hstep)

theorem wp.returned {body : Program σ ε α} {value : α} {last : W}
    (hwp : wp H guard body post raise world) (hsteps : Steps H body world (.done value) last) :
    post value last :=
  hwp.steps hsteps

theorem wp.raised {body : Program σ ε α} {error : ε} {last : W}
    (hwp : wp H guard body post raise world) (hsteps : Steps H body world (.fail error) last) :
    raise error last :=
  hwp.steps hsteps

theorem wp.guarded {body : Program σ ε α} {op : σ.Op} {last : W}
    (hwp : wp H guard body post raise world) (hperforms : Performs H body world op last) :
    guard op last := by
  obtain ⟨next, hsteps⟩ := hperforms
  exact (hwp.steps hsteps).1

/-! ## Structural rules -/

@[simp]
theorem wp_done (value : α) :
    wp H guard (.done value) post raise world ↔ post value world := Iff.rfl

@[simp]
theorem wp_pure (value : α) :
    wp H guard (pure value) post raise world ↔ post value world := Iff.rfl

@[simp]
theorem wp_fail (error : ε) :
    wp H guard (.fail error) post raise world ↔ raise error world := Iff.rfl

@[simp]
theorem wp_throw (error : ε) :
    wp H guard (throw error) post raise world ↔ raise error world := Iff.rfl

theorem wp_bind {post : β → W → Prop} (body : Program σ ε α) (rest : α → Program σ ε β) :
    wp H guard (body >>= rest) post raise world ↔
      wp H guard body (fun value after => wp H guard (rest value) post raise after) raise world := by
  induction body generalizing world with
  | done value => exact Iff.rfl
  | fail error => exact Iff.rfl
  | perform op next ih =>
      exact and_congr Iff.rfl (forall_congr' fun answer => forall_congr' fun after =>
        imp_congr Iff.rfl (ih answer))

theorem wp_tryCatch (body : Program σ ε α) (handler : ε → Program σ ε α) :
    wp H guard (tryCatch body handler) post raise world ↔
      wp H guard body post
        (fun error after => wp H guard (handler error) post raise after) world := by
  induction body generalizing world with
  | done value => exact Iff.rfl
  | fail error => exact Iff.rfl
  | perform op next ih =>
      exact and_congr Iff.rfl (forall_congr' fun answer => forall_congr' fun after =>
        imp_congr Iff.rfl (ih answer))

theorem wp_attempt {post : Except ε α → W → Prop} (body : Program σ ε α) :
    wp H guard body.attempt post raise world ↔
      wp H guard body (fun value after => post (.ok value) after)
        (fun error after => post (.error error) after) world := by
  induction body generalizing world with
  | done value => exact Iff.rfl
  | fail error => exact Iff.rfl
  | perform op next ih =>
      exact and_congr Iff.rfl (forall_congr' fun answer => forall_congr' fun after =>
        imp_congr Iff.rfl (ih answer))

theorem wp_ensuring (body : Program σ ε α) (cleanup : Program σ ε Unit) :
    wp H guard (body.ensuring cleanup) post raise world ↔
      wp H guard body
        (fun value after => wp H guard cleanup (fun _ => post value) raise after)
        (fun error after => wp H guard cleanup (fun _ => raise error) raise after) world := by
  unfold Program.ensuring
  rw [wp_bind, wp_attempt]
  simp only [wp_bind, wp_pure, wp_fail]

/-- One operation: the guard where it is performed, then both kinds of answer. -/
theorem wp_request {op : σ.Op} {post : σ.Ret op → W → Prop} :
    wp H guard (Program.request op) post raise world ↔
      guard op world ∧
        (∀ value after, H.step op world (.ok value) after → post value after) ∧
        (∀ error after, H.step op world (.error error) after → raise error after) := by
  constructor
  · rintro ⟨hguard, hnext⟩
    exact ⟨hguard, fun value after hstep => hnext _ _ hstep,
      fun error after hstep => hnext _ _ hstep⟩
  · rintro ⟨hguard, hok, herror⟩
    refine ⟨hguard, ?_⟩
    rintro (error | value) after hstep
    · exact herror error after hstep
    · exact hok value after hstep

/-! ## Consequence -/

theorem wp.mono {body : Program σ ε α} {post' : α → W → Prop} {raise' : ε → W → Prop}
    {guard' : σ.Op → W → Prop}
    (hwp : wp H guard body post raise world)
    (hguard : ∀ op after, guard op after → guard' op after)
    (hpost : ∀ value after, post value after → post' value after)
    (hraise : ∀ error after, raise error after → raise' error after) :
    wp H guard' body post' raise' world := by
  induction body generalizing world with
  | done value => exact hpost _ _ hwp
  | fail error => exact hraise _ _ hwp
  | perform op next ih =>
      exact ⟨hguard _ _ hwp.1, fun answer after hstep => ih answer (hwp.2 answer after hstep)⟩

/-- Consequence in the two postconditions only. -/
theorem wp.weaken {body : Program σ ε α} {post' : α → W → Prop} {raise' : ε → W → Prop}
    (hwp : wp H guard body post raise world)
    (hpost : ∀ value after, post value after → post' value after)
    (hraise : ∀ error after, raise error after → raise' error after) :
    wp H guard body post' raise' world :=
  hwp.mono (fun _ _ h => h) hpost hraise

/-- A handler that answers less keeps everything established. -/
theorem wp.refine {fine : Handler σ ε W} {body : Program σ ε α}
    (hrefines : fine.Refines H) (hwp : wp H guard body post raise world) :
    wp fine guard body post raise world := by
  induction body generalizing world with
  | done value => exact hwp
  | fail error => exact hwp
  | perform op next ih =>
      exact ⟨hwp.1, fun answer after hstep =>
        ih answer (hwp.2 answer after (hrefines _ _ _ _ hstep))⟩

theorem wp.and {body : Program σ ε α} {post' : α → W → Prop} {raise' : ε → W → Prop}
    {guard' : σ.Op → W → Prop}
    (hleft : wp H guard body post raise world) (hright : wp H guard' body post' raise' world) :
    wp H (fun op after => guard op after ∧ guard' op after) body
      (fun value after => post value after ∧ post' value after)
      (fun error after => raise error after ∧ raise' error after) world := by
  induction body generalizing world with
  | done value => exact ⟨hleft, hright⟩
  | fail error => exact ⟨hleft, hright⟩
  | perform op next ih =>
      exact ⟨⟨hleft.1, hright.1⟩, fun answer after hstep =>
        ih answer (hleft.2 answer after hstep) (hright.2 answer after hstep)⟩

/-- Sequencing from what is established about the first part. -/
theorem wp.seq {post : β → W → Prop} {body : Program σ ε α} {rest : α → Program σ ε β}
    {M : α → W → Prop} {E : ε → W → Prop}
    (hbody : wp H guard body M E world)
    (hraise : ∀ error after, E error after → raise error after)
    (hrest : ∀ value after, M value after → wp H guard (rest value) post raise after) :
    wp H guard (body >>= rest) post raise world :=
  (wp_bind body rest).mpr (hbody.weaken hrest hraise)

/-! ## Invariants -/

/-- The handler as seen by a proof that may assume `I` of every world reached. -/
def Handler.within (H : Handler σ ε W) (I : W → Prop) : Handler σ ε W where
  step op first answer last := H.step op first answer last ∧ I last

/-- Under the assumption, it also holds where the program ends. -/
theorem wp.reached {I : W → Prop} {body : Program σ ε α}
    (hwp : wp (H.within I) guard body post raise world) (hworld : I world) :
    wp (H.within I) guard body (fun value after => post value after ∧ I after)
      (fun error after => raise error after ∧ I after) world := by
  induction body generalizing world with
  | done value => exact ⟨hwp, hworld⟩
  | fail error => exact ⟨hwp, hworld⟩
  | perform op next ih =>
      exact ⟨hwp.1, fun answer after hstep => ih answer (hwp.2 answer after hstep) hstep.2⟩

/-- An invariant that every guarded step keeps may be assumed throughout. -/
theorem wp.invariant {I : W → Prop} {body : Program σ ε α}
    (hkeeps : ∀ op first answer last, I first → guard op first →
      H.step op first answer last → I last)
    (hwp : wp (H.within I) guard body post raise world) (hworld : I world) :
    wp H (fun op after => guard op after ∧ I after) body
      (fun value after => post value after ∧ I after)
      (fun error after => raise error after ∧ I after) world := by
  induction body generalizing world with
  | done value => exact ⟨hwp, hworld⟩
  | fail error => exact ⟨hwp, hworld⟩
  | perform op next ih =>
      refine ⟨⟨hwp.1, hworld⟩, fun answer after hstep => ?_⟩
      have hafter := hkeeps op world answer after hworld hwp.1 hstep
      exact ih answer (hwp.2 answer after ⟨hstep, hafter⟩) hafter

/-- What holds at every operation and at both ends holds wherever a run stops. -/
theorem wp.stopped {I : W → Prop} {body rest : Program σ ε α} {last : W}
    (hwp : wp H (fun _ after => I after) body (fun _ after => I after) (fun _ after => I after)
      world)
    (hsteps : Steps H body world rest last) : I last := by
  have hrest := hwp.steps hsteps
  cases rest with
  | done value => exact hrest
  | fail error => exact hrest
  | perform op next => exact hrest.1

/-! ## Loops -/

/-- The loop rule: an invariant over the items still to come. -/
theorem wp_foldlM (invariant : List ι → β → W → Prop) {post : β → W → Prop}
    (body : β → ι → Program σ ε β)
    (hstep : ∀ item rest state before, invariant (item :: rest) state before →
      wp H guard (body state item) (fun state' after => invariant rest state' after) raise before)
    (hexit : ∀ state after, invariant [] state after → post state after)
    (items : List ι) (state : β) (hinit : invariant items state world) :
    wp H guard (items.foldlM body state) post raise world := by
  induction items generalizing state world with
  | nil => exact hexit _ _ hinit
  | cons item rest ih =>
      rw [List.foldlM_cons, wp_bind]
      exact (hstep item rest state world hinit).weaken
        (fun state' after hrest => ih state' hrest) (fun _ _ herror => herror)

end SimulatorBroker.Effects
