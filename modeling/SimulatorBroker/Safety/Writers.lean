import SimulatorBroker.Safety.Rules

/-!
# The file writers

One rule for each writer of `Broker/Files.lean`: what it has written when it
returns, what it may have written when it throws, and that it does not throw
where no change of a file fails.
-/

namespace SimulatorBroker.Safety

open SimulatorBroker.Effects
open SimulatorBroker.State
open SimulatorBroker.Broker

variable {context : Context} {world : World}

/-! ## Surroundings in which files do not fail -/

/-- A write, an unlink or another change of a file.  Linking an artifact to an
occupied path fails by design and does not count. -/
def changesFile : BrokerOp → Bool
  | .fs _ | .rename _ | .unlinkLease _ _ | .unlinkArtifact _ | .unlinkPin _
  | .unlinkIdlePolicy => true
  | _ => false

/-- No change of a file fails, and while the end of a stale lease is not yet
written nothing fails but the append of an event. -/
structure RecordsEnds (surroundings : Surroundings) : Prop where
  files : ∀ op world, changesFile op = true → ¬ surroundings.mayFail op world
  pending : ∀ op world, surroundings.mayFail op world → world.ledger.unwritten = true →
    ∃ event, op = .appendEvent event

theorem Context.filesFail {op : BrokerOp} (hop : changesFile op = true)
    (hmayFail : context.surroundings.mayFail op world) : ¬ RecordsEnds context.surroundings :=
  fun hrecords => hrecords.files op world hop hmayFail

/-- The registry on disk counts the ends of leases as the ledger does. -/
structure Exact (world : World) : Prop where
  counted : ∀ name entry, world.store.entry name = some entry →
    entry.leasesSinceErase = world.ledger.endedSinceErase name ∧
      entry.lastLeaseReleasedAt = world.ledger.lastReleasedAt name
  absent : ∀ name, world.store.entry name = none →
    world.ledger.endedSinceErase name = 0 ∧ world.ledger.lastReleasedAt name = none
  written : world.ledger.unwritten = false

/-- The counts are exact, where ends of leases can be recorded. -/
def Counted (context : Context) (world : World) : Prop :=
  RecordsEnds context.surroundings → Exact world

theorem Kept.exact {before after : World} (hkept : Kept before after) (hexact : Exact before) :
    Exact after where
  counted := by
    rw [hkept.entry, hkept.ledger]
    exact hexact.counted
  absent := by
    rw [hkept.entry, hkept.ledger]
    exact hexact.absent
  written := by
    rw [hkept.ledger]
    exact hexact.written

theorem Kept.counted {before after : World} (hkept : Kept before after)
    (hcounted : Counted context before) : Counted context after :=
  fun hrecords => hkept.exact (hcounted hrecords)

/-! ## Atomic replacement -/

/-- The file has been replaced. -/
abbrev Written (file : FileWrite) (before after : World) : Prop :=
  Still ((BrokerOp.rename file).effect before) after

theorem safe_fsCall {call : FsCall} {first : World} (hfirst : Still first world) :
    Safe context (perform (.fs call)) (fun _ after => Still first after)
      (fun _ after => ¬ RecordsEnds context.surroundings ∧ Still first after) world :=
  .opStill rfl trivial (fun _ _ _ hstill => hfirst.trans hstill)
    fun _ _ hmayFail _ hstill => ⟨Context.filesFail rfl hmayFail, hfirst.trans hstill⟩

theorem safe_rename {file : FileWrite} {first : World} (hfirst : Still first world)
    (hok : StepOk context (.rename file) first)
    (hwritten : ∀ after, Written file world after → Written file first after) :
    Safe context (perform (.rename file)) (fun _ after => Written file first after)
      (fun _ after => ¬ RecordsEnds context.surroundings ∧ Still first after) world := by
  refine .op (hfirst.stepOk hok) (fun _ after _ hstill => hwritten after hstill) ?_
  rintro error after hmayFail - (hstill | ⟨hlate, -⟩)
  · exact ⟨Context.filesFail rfl hmayFail, hfirst.trans hstill⟩
  · simp [BrokerOp.mayFailLate] at hlate

/-- A replacement has the same effect at a moment that changed nothing. -/
theorem Still.written {file : FileWrite} {first after : World} (hfirst : Still first world)
    (hwritten : Written file world after) : Written file first after := by
  refine .trans ?_ hwritten
  cases file with
  | registry content note =>
      refine ⟨⟨hfirst.hostConfig, rfl, hfirst.leases, hfirst.pins, ?_, hfirst.later⟩,
        hfirst.artifacts⟩
      simp [BrokerOp.effect, hfirst.ledger, hfirst.configuredAliases]
  | hostConfig config =>
      refine ⟨⟨rfl, hfirst.registry, hfirst.leases, hfirst.pins, ?_, hfirst.later⟩,
        hfirst.artifacts⟩
      simp [BrokerOp.effect, hfirst.ledger]
  | lease record =>
      refine ⟨⟨hfirst.hostConfig, hfirst.registry, ?_, hfirst.pins, hfirst.ledger, hfirst.later⟩,
        hfirst.artifacts⟩
      simp [BrokerOp.effect, FileWrite.commit, Store.setLease, hfirst.leases]
  | artifact path content =>
      refine ⟨⟨hfirst.hostConfig, hfirst.registry, hfirst.leases, hfirst.pins, hfirst.ledger,
        hfirst.later⟩, ?_⟩
      simp [BrokerOp.effect, FileWrite.commit, Store.setArtifact, hfirst.artifacts]
  | pin record =>
      refine ⟨⟨hfirst.hostConfig, hfirst.registry, hfirst.leases, ?_, hfirst.ledger, hfirst.later⟩,
        hfirst.artifacts⟩
      simp [BrokerOp.effect, FileWrite.commit, Store.setPin, hfirst.pins]
  | _ =>
      exact ⟨⟨hfirst.hostConfig, hfirst.registry, hfirst.leases, hfirst.pins, hfirst.ledger,
        hfirst.later⟩, hfirst.artifacts⟩

theorem safe_writeJsonAtomicRestricted {file : FileWrite}
    (hok : StepOk context (.rename file) world) :
    Safe context (writeJsonAtomicRestricted file) (fun _ after => Written file world after)
      (fun _ after => ¬ RecordsEnds context.surroundings ∧
        (Still world after ∨ Written file world after)) world := by
  unfold writeJsonAtomicRestricted
  refine .seq (safe_fsCall (.refl world)) (fun _ _ _ h => ⟨h.1, .inl h.2⟩) fun _ first hfirst => ?_
  refine .seq (safe_fsCall hfirst) (fun _ _ _ h => ⟨h.1, .inl h.2⟩) fun _ second hsecond => ?_
  refine .seq (safe_fsCall hsecond) (fun _ _ _ h => ⟨h.1, .inl h.2⟩) fun _ third hthird => ?_
  refine .seq (safe_rename hthird hok fun _ => hthird.written) (fun _ _ _ h => ⟨h.1, .inl h.2⟩)
    fun _ fourth hfourth => ?_
  exact (safe_fsCall hfourth).weaken (fun _ _ _ h => h) fun _ _ _ h => ⟨h.1, .inr h.2⟩

theorem safe_writeJsonAtomic {file : FileWrite} (hok : StepOk context (.rename file) world) :
    Safe context (writeJsonAtomic file) (fun _ after => Written file world after)
      (fun _ after => ¬ RecordsEnds context.surroundings ∧ Still world after) world := by
  unfold writeJsonAtomic
  refine .seq (safe_fsCall (.refl world)) (fun _ _ _ h => h) fun _ first hfirst => ?_
  refine .seq (safe_fsCall hfirst) (fun _ _ _ h => h) fun _ second hsecond => ?_
  exact safe_rename hsecond hok fun _ => hsecond.written

theorem safe_writeRegistry {registry : Registry} {note : RegistryNote}
    (hok : RegistryWriteOk context world registry note) :
    Safe context (writeRegistry registry note)
      (fun _ after => Written (.registry registry note) world after)
      (fun _ after => ¬ RecordsEnds context.surroundings ∧
        (Still world after ∨ Written (.registry registry note) world after)) world :=
  safe_writeJsonAtomicRestricted hok

/-- What the durable writer of the host config leaves when it throws. -/
def DurableFailure (config : HostConfig) (before : World) (error : BrokerError) (after : World) :
    Prop :=
  error.hostConfigCommitted = false ∧ Still before after ∨
    error.hostConfigCommitted = true ∧ Written (.hostConfig config) before after

theorem foreign_of_raw {error : BrokerError} (hraw : error.Raw) :
    error.hostConfigCommitted = false :=
  hraw.notCommitted

/-- A file-system call on the way to the rename. -/
theorem safe_fsBefore {call : FsCall} {first : World} (hfirst : Still first world) :
    Safe context (perform (.fs call)) (fun _ after => Still first after)
      (fun error after => error.hostConfigCommitted = false ∧ Still first after) world :=
  .opStill rfl trivial (fun _ _ _ hstill => hfirst.trans hstill)
    fun _ _ _ hof hstill => ⟨foreign_of_raw hof, hfirst.trans hstill⟩

theorem safe_ignoringErrors {body : Broker Unit} {Q : Unit → World → Prop}
    {raise : BrokerError → World → Prop}
    (hbody : Safe context body Q (fun _ after => Q () after) world) :
    Safe context (ignoringErrors body) Q raise world :=
  .catch hbody fun _ _ hpost => .pure hpost

theorem safe_writeJsonAtomicDurable {config : HostConfig}
    (hok : HostWriteOk context world config) :
    Safe context (writeJsonAtomicDurable config)
      (fun _ after => Written (.hostConfig config) world after)
      (DurableFailure config world) world := by
  unfold writeJsonAtomicDurable
  refine .seq (safe_fsBefore (.refl world)) (fun _ _ _ h => .inl h) fun _ first hfirst => ?_
  have hbefore : Safe context
      (tryCatch
        (do
          perform (.fs .openTemp)
          tryCatch
            (do
              perform (.fs .writeTemp)
              perform (.fs .syncTemp)
              perform (.fs .closeTemp))
            fun error => do
              ignoringErrors (perform (.fs .closeTemp))
              throw error
          perform (.rename (.hostConfig config)))
        fun error => do
          perform (.fs .removeTemp)
          throw { error with hostConfigCommitted := false } : Broker Unit)
      (fun _ after => Written (.hostConfig config) world after)
      (fun error after => error.hostConfigCommitted = false ∧ Still world after) first := by
    refine .catch (E := fun _ after => Still world after) ?_ fun error after hstill => ?_
    · refine .seq (safe_fsBefore hfirst) (fun _ _ _ h => h.2) fun _ opened hopened => ?_
      refine .seq (M := fun _ after => Still world after)
        (E := fun _ after => Still world after) ?_ (fun _ _ _ h => h) fun _ closed hclosed => ?_
      · refine .catch (E := fun _ after => Still world after) ?_ fun error failed hfailed => ?_
        · refine .seq (safe_fsBefore hopened) (fun _ _ _ h => h.2) fun _ written hwritten => ?_
          refine .seq (safe_fsBefore hwritten) (fun _ _ _ h => h.2) fun _ synced hsynced => ?_
          exact (safe_fsBefore hsynced).weaken (fun _ _ _ h => h) fun _ _ _ h => h.2
        · refine .seq (E := fun _ _ => False)
            (safe_ignoringErrors (Q := fun _ after => Still world after)
              ((safe_fsBefore hfailed).weaken (fun _ _ _ h => h) fun _ _ _ h => h.2))
            (fun _ _ _ h => h.elim) fun _ closed hclosed => ?_
          exact .throw hclosed
      · have hstep : StepOk context (.rename (.hostConfig config)) world := hok
        exact (safe_rename hclosed hstep fun _ => hclosed.written).weaken (fun _ _ _ h => h)
          fun _ _ _ h => h.2
    · refine .seq (safe_fsBefore hstill) (fun _ _ _ h => h) fun _ removed hremoved => ?_
      exact .throw ⟨rfl, hremoved⟩
  refine .seq hbefore (fun _ _ _ h => .inl h) fun _ renamed hrenamed => ?_
  refine .catch (E := fun _ after => Written (.hostConfig config) world after) ?_
    fun error after hwritten => .throw (.inr ⟨rfl, hwritten⟩)
  refine .seq (safe_fsBefore hrenamed) (fun _ _ _ h => h.2) fun _ opened hopened => ?_
  refine .ensuring (safe_fsBefore hopened) (fun _ synced hsynced => ?_) fun _ failed hfailed => ?_
  · exact (safe_fsBefore hsynced).weaken (fun _ _ _ h => h) fun _ _ _ h => h.2
  · exact (safe_fsBefore hfailed.2).weaken (fun _ _ _ h => h) fun _ _ _ h => h.2

/-! ## Audit events -/

theorem safe_appendEventRecord {event : Event} {first : World} (hfirst : Still first world)
    (hok : EventOk context event) :
    Safe context (appendEventRecord event) (fun _ after => Still first after)
      (fun _ _ => False) world := by
  unfold appendEventRecord
  refine .catch (E := fun _ after => Still first after) ?_ fun error after hstill => ?_
  · refine .seq (M := fun _ after => Still first after) (.opStill rfl hok
      (fun _ _ _ hstill => hfirst.trans hstill) fun _ _ _ _ hstill => hfirst.trans hstill)
      (fun _ _ _ h => h) fun _ appended happended => .pure happended
  · refine .seq (M := fun _ after => Still first after) (E := fun _ _ => False)
      (safe_ignoringErrors ((safe_fsCall hstill).weaken (fun _ _ _ h => h) fun _ _ _ h => h.2))
      (fun _ _ _ h => h) fun _ recorded hrecorded => .pure hrecorded

/-- An event of another kind than the end of a lease by a state load. -/
theorem eventOk_of_ne {event : Event} (hreclaimed : event.type ≠ .leaseReclaimed)
    (hcontained : event.type ≠ .leaseContained) : EventOk context event := by
  rintro (h | h)
  · exact absurd h hreclaimed
  · exact absurd h hcontained

/-- An event about a lease that is not spared. -/
theorem eventOk_of_lease {event : Event} {leaseId : LeaseId} (hevent : event.leaseId = some leaseId)
    (hspared : ¬ context.spared leaseId) : EventOk context event := by
  rintro - other hother
  rw [hevent, Option.some_inj] at hother
  exact hother ▸ hspared

end SimulatorBroker.Safety
