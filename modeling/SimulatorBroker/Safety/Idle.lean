import SimulatorBroker.Safety.Lifecycle

/-!
# Idle shutdown

Both commands shut down only simulators nobody holds.  The reconcile writes the
registry of its load; the confirmed cleanup writes the registry as it is on disk,
with the health that the inventory shows.
-/

namespace SimulatorBroker.Safety

open SimulatorBroker.Effects
open SimulatorBroker.State
open SimulatorBroker.Broker

variable {context : Context} {first world after : World} {timestamp : Timestamp}
  {registry : Registry} {name : AliasName}

/-! ## Registries an idle command may write -/

/-- What the registry in memory is to the files while simulators are shut down. -/
structure IdleWriter (context : Context) (R : World → Registry → Prop) : Prop where
  kept : ∀ {world after registry}, Kept world after → R world registry → R after registry
  counted : ∀ {world registry}, R world registry → Counted context world
  failed : ∀ {world registry} name timestamp, R world registry →
    R world ((registry.modify name (idleFailedEntry timestamp)).touch timestamp)
  shutdown : ∀ {world registry} name timestamp, R world registry →
    R world (registry.modify name (idleShutdownEntry timestamp))
  result : ∀ {world registry} result timestamp, R world registry →
    R world { registry with lastCleanupResult := result, updatedAt := timestamp }
  writeOk : ∀ {world registry}, Invariant context world → R world registry →
    RegistryWriteOk context world registry {}
  written : ∀ {world after registry}, R world registry →
    RegistryWritten registry {} world after → R after registry

variable {R : World → Registry → Prop}

theorem safe_writeIdleRegistry (hwriter : IdleWriter context R) (hregistry : R world registry) :
    Safe context (writeIdleRegistry registry)
      (fun _ after => KeptButRegistry world after ∧ R after registry)
      (fun _ after => Counted context after) world := by
  refine .assume fun hinvariant => ?_
  refine .catch (E := fun _ after => Counted context after) ?_ fun _ _ hcounted => .throw hcounted
  refine (safe_writeRegistry (hwriter.writeOk hinvariant hregistry)).weaken ?_
    fun _ _ _ h => counted_of_fails h.1
  exact fun _ _ _ hwritten => ⟨RegistryWritten.butRegistry hwritten.toKept,
    hwriter.written hregistry hwritten.toKept⟩

/-! ## Idle simulators -/

/-- Every lease file on the alias is of a dead owner with nothing to contain. -/
def Vacant (ownerAlive : LeaseId → Prop) (world : World) (name : AliasName) : Prop :=
  ∀ lease ∈ world.store.leases, lease.aliasName = name →
    lease.hasContainmentProcessMetadata = false ∧ ¬ ownerAlive lease.leaseId

/-- The aliases that are to be shut down. -/
structure IdleCandidate (context : Context) (world : World) (hostAlias : HostAlias) : Prop where
  bound : ∃ config, ReadConfig world config ∧ hostAlias ∈ config.aliases
  vacant : Vacant context.surroundings.ownerAlive world hostAlias.aliasName
  unpinned : Unpinned world hostAlias.aliasName

theorem IdleCandidate.kept {hostAlias : HostAlias} (hkept : KeptButRegistry world after)
    (hcandidate : IdleCandidate context world hostAlias) :
    IdleCandidate context after hostAlias where
  bound := by
    obtain ⟨config, hread, hmem⟩ := hcandidate.bound
    exact ⟨config, hread.of_hostConfig hkept.hostConfig, hmem⟩
  vacant := by
    unfold Vacant
    rw [hkept.leases]
    exact hcandidate.vacant
  unpinned pin hpin := hcandidate.unpinned pin (hkept.pins ▸ hpin)

theorem IdleCandidate.destructiveOk {hostAlias : HostAlias}
    (hcandidate : IdleCandidate context world hostAlias) :
    DestructiveOk context world hostAlias.simulatorId .idle := by
  obtain ⟨config, hread, hmem⟩ := hcandidate.bound
  refine hread.destructiveOk hmem ⟨fun lease hlease halias => .inr ?_, hcandidate.unpinned⟩
  exact hcandidate.vacant lease hlease halias

/-- Between two turns of the loop. -/
structure Idling (context : Context) (R : World → Registry → Prop) (rest : List HostAlias)
    (scan : IdleScan) (world : World) : Prop where
  registry : R world scan.registry
  candidates : ∀ hostAlias ∈ rest, IdleCandidate context world hostAlias

theorem safe_idleShutdown {hostAlias : HostAlias} {rest : List HostAlias} {scan : IdleScan}
    (hwriter : IdleWriter context R) (hidling : Idling context R (hostAlias :: rest) scan world) :
    Safe context (idleShutdown scan hostAlias)
      (fun scan' after => Idling context R rest scan' after)
      (fun _ after => Counted context after) world := by
  obtain ⟨hregistry, hcandidates⟩ := hidling
  have hrest : ∀ {after}, KeptButRegistry world after → ∀ other ∈ rest,
      IdleCandidate context after other :=
    fun hkept other hother => (hcandidates other (List.mem_cons_of_mem _ hother)).kept hkept
  have hok := (hcandidates hostAlias List.mem_cons_self).destructiveOk
  unfold idleShutdown
  refine .seq (M := fun _ after => Still world after) (E := fun _ _ => False)
    (.attempt (safe_adapterShutdown hok)) (fun _ _ _ h => h.elim) fun outcome shut hshut => ?_
  have hnow : Safe context (perform .now) (fun _ after => Still world after) (fun _ _ => False)
      shut :=
    .opStill rfl trivial (fun _ _ _ hstill => hshut.trans hstill) fun _ _ _ hof _ => hof.elim
  cases outcome with
  | error error =>
      refine .seq hnow (fun _ _ _ h => h.elim) fun attempted started hstarted => ?_
      dsimp only
      have hfailed := hwriter.failed hostAlias.aliasName attempted
        (hwriter.kept hstarted.toKept hregistry)
      refine .seq (safe_writeIdleRegistry hwriter hfailed) (fun _ _ _ h => h)
        fun _ written hwritten => ?_
      refine .seq (safe_appendEventRecord (.refl written) (eventOk_of_ne (by simp) (by simp)))
        (fun _ _ _ h => h.elim) fun _ appended happended => ?_
      exact .pure ⟨hwriter.kept happended.toKept hwritten.2,
        hrest ((hstarted.toKept.butRegistry.trans hwritten.1).trans happended.toKept.butRegistry)⟩
  | ok value =>
      refine .seq hnow (fun _ _ _ h => h.elim) fun attempted started hstarted => ?_
      refine .seq (safe_appendEventRecord (.refl started) (eventOk_of_ne (by simp) (by simp)))
        (fun _ _ _ h => h.elim) fun _ appended happended => ?_
      have hkept := (hstarted.trans happended).toKept
      exact .pure ⟨hwriter.shutdown hostAlias.aliasName attempted (hwriter.kept hkept hregistry),
        hrest hkept.butRegistry⟩

theorem safe_performIdleShutdowns {candidates : List HostAlias} {eventType : EventType}
    {source : Text.Value} {persistNoChanges : Bool} (hwriter : IdleWriter context R)
    (hregistry : R world registry)
    (hcandidates : ∀ hostAlias ∈ candidates, IdleCandidate context world hostAlias)
    (hreclaimed : eventType ≠ .leaseReclaimed) (hcontained : eventType ≠ .leaseContained) :
    Safe context
      (performIdleShutdowns registry candidates timestamp eventType source persistNoChanges)
      (fun _ after => ∃ registry, R after registry) (fun _ after => Counted context after)
      world := by
  unfold performIdleShutdowns
  refine .seq (M := fun (scan : IdleScan) after => R after scan.registry)
    (.foldlM (Idling context R) (fun _ _ _ _ h => safe_idleShutdown hwriter h)
      (fun _ _ _ h => h.registry) _ _ ⟨hregistry, hcandidates⟩) (fun _ _ _ h => h)
    fun scan shut hshut => ?_
  have hfinish : ∀ completedAt finished, Still shut finished → Safe context
      (do
        let lastCleanupResult : CleanupResult := {
          completedAt, eligibleCount := candidates.length, failureCount := scan.failureCount
          shutdownCount := scan.shutdownCount, source
          status := idleCleanupStatus scan.shutdownCount scan.failureCount }
        if candidates ≠ [] ∨ persistNoChanges = true then
          writeIdleRegistry
            { scan.registry with
              lastCleanupResult := some lastCleanupResult, updatedAt := completedAt }
          let _ ← appendEventRecord { type := eventType, timestamp := completedAt }
        return lastCleanupResult : Broker CleanupResult)
      (fun _ after => ∃ registry, R after registry) (fun _ after => Counted context after)
      finished := by
    intro completedAt finished hstill
    have hscan := hwriter.kept hstill.toKept hshut
    dsimp only
    split
    · refine .seq (safe_writeIdleRegistry hwriter (hwriter.result _ completedAt hscan))
        (fun _ _ _ h => h) fun _ written hwritten => ?_
      refine .seq (safe_appendEventRecord (.refl written) (eventOk_of_ne hreclaimed hcontained))
        (fun _ _ _ h => h.elim) fun _ appended happended => ?_
      exact .pure ⟨_, hwriter.kept happended.toKept hwritten.2⟩
    · exact .pure ⟨_, hscan⟩
  dsimp only at hfinish ⊢
  by_cases hnone : candidates = []
  · rw [if_pos hnone]
    exact hfinish timestamp shut (.refl shut)
  · rw [if_neg hnone]
    refine .seq (M := fun _ after => Still shut after) (E := fun _ _ => False)
      (.opStill rfl trivial (fun _ _ _ hstill => hstill) fun _ _ _ hof _ => hof.elim)
      (fun _ _ _ h => h.elim) fun completedAt finished hstill => ?_
    exact hfinish completedAt finished hstill

/-! ## The reconcile -/

/-- The registry of a load. -/
def Reconciling (context : Context) (world : World) (registry : Registry) : Prop :=
  Tracks context world registry {} ∧ Settled context world

theorem idleWriter_reconciling : IdleWriter context (Reconciling context) where
  kept hkept h := ⟨h.1.kept hkept, hkept.settled h.2⟩
  counted h := h.2.2
  failed name timestamp h := by
    refine ⟨(h.1.modify (.refl {} name) fun entry _ _ => ?_).touch timestamp, h.2⟩
    exact .unhealthy rfl rfl rfl rfl rfl
  shutdown name timestamp h := by
    refine ⟨h.1.modify (.refl {} name) fun entry _ hcause => ?_, h.2⟩
    exact ⟨rfl, fun hlatched => .inr hlatched, fun code hcode => ⟨hcause code hcode, .inr hcode⟩,
      .inr ⟨rfl, id⟩, rfl⟩
  result _ _ h := ⟨⟨h.1.latched, h.1.cause, h.1.present, h.1.active, h.1.gone, h.1.tallied⟩, h.2⟩
  writeOk hinvariant h := h.1.writeOk hinvariant
  written h hwritten := ⟨h.1.written hwritten, h.1.agree hwritten, h.1.counted hwritten⟩

theorem mem_idleBaseCandidates {state : BrokerState} {hostAlias : HostAlias}
    (hmem : hostAlias ∈ idleBaseCandidates state) :
    hostAlias ∈ state.hostConfig.aliases ∧ state.leasesByAlias hostAlias.aliasName = none ∧
      state.pinsByAlias hostAlias.aliasName = none ∧
      ∃ entry, state.entry hostAlias.aliasName = some entry ∧ entry.health = .healthy := by
  obtain ⟨hbound, hselected⟩ := List.mem_filter.mp hmem
  simp only [isIdleBaseCandidate, Bool.and_eq_true, decide_eq_true_eq, Option.isNone_iff_eq_none,
    Option.any_eq_true] at hselected
  obtain ⟨⟨⟨⟨entry, hentry, hselected⟩, hlease⟩, hpin⟩, -⟩ := hselected
  exact ⟨hbound, hlease, hpin, entry, hentry, hselected.2⟩

/-- An idle alias of a loaded state is free. -/
theorem Current.idleCandidate {state : BrokerState} (hcurrent : Current context state world)
    {hostAlias : HostAlias} (hmem : hostAlias ∈ idleBaseCandidates state) :
    IdleCandidate context world hostAlias := by
  obtain ⟨hbound, hlease, hpin, -⟩ := mem_idleBaseCandidates hmem
  refine ⟨⟨state.hostConfig, hcurrent.config, hbound⟩, fun lease hmem halias => ?_,
    hcurrent.unpinned hpin⟩
  exact absurd halias (hcurrent.free hlease lease hmem)

theorem safe_loadPublicSafeIdleState {loader : Broker BrokerState}
    {P : BrokerState → World → Prop} {E : World → Prop}
    (hloader : Safe context loader P (fun _ after => E after) world) :
    Safe context (loadPublicSafeIdleState loader) P (fun _ after => E after) world := by
  refine .catch hloader fun error failed hfailed => ?_
  split
  · exact .throw hfailed
  · split
    · exact .throw hfailed
    · exact .throw hfailed

theorem safe_readIdlePolicy :
    Safe context readIdlePolicy (fun _ after => Still world after)
      (fun _ after => Still world after) world := by
  unfold readIdlePolicy
  refine .seq (M := fun _ after => Still world after) (E := fun _ after => Still world after)
    (.catch (E := fun _ after => Still world after)
      ((safe_read rfl (by simp)).weaken (fun _ _ _ h => h.2) fun _ _ _ h => h.1)
      fun error failed hfailed => ?_) (fun _ _ _ h => h) fun policy read hread => ?_
  · split
    · exact .throw hfailed
    · exact .throw hfailed
  · cases policy with
    | none => exact .pure hread
    | some graceSeconds =>
        dsimp only
        split
        · exact .pure hread
        · exact .throw hread

theorem safe_loadAndReclaim (hready : Ready context timestamp world) :
    Safe context (loadAndReclaim context.paths timestamp)
      (fun state after => Current context state after ∧ Settled context after)
      (fun _ after => Counted context after) world := by
  unfold loadAndReclaim
  refine .seq (safe_loadPublicSafeIdleState (E := Counted context)
    ((safe_loadBrokerState hready.counted hready.loadOk).weaken (fun _ _ _ h => h)
      fun _ _ _ h => h.2)) (fun _ _ _ h => h) fun state loaded hloaded => ?_
  refine .seq (safe_performSlotReclaim hloaded.loaded.toCurrent hloaded.agree hloaded.counted)
    (fun _ _ _ h => h.2) fun result reclaimed hreclaimed => ?_
  exact .pure ⟨hreclaimed.current, hreclaimed.agree, hreclaimed.counted⟩

/-- Without a policy a failed load is swallowed. -/
theorem safe_reconcileIdle {options : IdleReconcileOptions}
    (hready : Ready context timestamp world) :
    Safe context (reconcileIdle context.paths options)
      (fun result after => Counted context after ∧ (result.isSome = true → Agree after))
      (fun _ after => Counted context after) world := by
  unfold reconcileIdle
  refine .seq (E := fun _ _ => False) (safe_now hready) (fun _ _ _ h => h.elim)
    fun now started hstarted => ?_
  replace hready := hstarted.2
  refine .seq safe_readIdlePolicy (fun _ _ _ h => h.toKept.counted hready.counted)
    fun policy read hread => ?_
  replace hready := hready.kept hread.toKept
  cases policy with
  | none =>
      refine .seq (E := fun _ _ => False) (safe_ignoringErrors (Q := fun _ after =>
        Counted context after) ?_) (fun _ _ _ h => h.elim) fun _ swallowed hswallowed => ?_
      · exact .seq (safe_loadAndReclaim hready) (fun _ _ _ h => h)
          fun _ _ hreclaimed => .pure hreclaimed.2.2
      · exact .pure ⟨hswallowed, by simp⟩
  | some graceSeconds =>
      refine .seq (safe_loadAndReclaim hready) (fun _ _ _ h => h) fun state loaded hloaded => ?_
      refine .seq (safe_performIdleShutdowns idleWriter_reconciling ⟨hloaded.1.tracks, hloaded.2⟩
        (fun hostAlias hmem => hloaded.1.idleCandidate (List.mem_of_mem_filter hmem)) (by simp)
        (by simp)) (fun _ _ _ h => h) fun result reconciled hreconciled => ?_
      obtain ⟨registry, -, hsettled⟩ := hreconciled
      exact .pure ⟨hsettled.2, fun _ => hsettled.1⟩

theorem safe_reconcileIdleBroker {options : IdleReconcileOptions}
    (hready : Ready context timestamp world) :
    Safe context (reconcileIdleBroker context.paths options)
      (fun result after => Counted context after ∧ (result.isSome = true → Agree after))
      (fun _ after => Counted context after) world :=
  safe_withLock
    (fun _ _ _ hstill h => ⟨hstill.toKept.counted h.1, fun hsome => hstill.toKept.agree (h.2 hsome)⟩)
    stable_counted (fun _ _ h => h.1) hready.counted
    fun _ hlocked => safe_reconcileIdle (hready.kept hlocked.toKept)

/-! ## The confirmed cleanup -/

/-- The entry is the one on disk, its health possibly worse. -/
structure Worsened (disk : Option RegistryEntry) (entry : RegistryEntry) : Prop where
  active : entry.activeLeaseId = disk.bind (·.activeLeaseId)
  latched : ∀ old, disk = some old → old.health.latched = true → entry.health.latched = true
  cause : ∀ code, entry.driftCauseCode = some code → disk.bind (·.driftCauseCode) = some code
  leftover : ∀ reason, entry.driftReason = some reason → reason ∈ acquireRollbackReasons →
    entry.health.latched = true →
    ∃ old, disk = some old ∧ old.driftReason = some reason ∧ old.health.latched = true
  repairing : entry.health = .repairing → ∃ old, disk = some old ∧ old.health = .repairing
  counted : entry.leasesSinceErase = (disk.map (·.leasesSinceErase)).getD 0
  released : entry.lastLeaseReleasedAt = disk.bind (·.lastLeaseReleasedAt)

theorem Worsened.refl (entry : RegistryEntry) : Worsened (some entry) entry :=
  ⟨rfl, fun _ hsame hlatched => Option.some_inj.mp hsame ▸ hlatched, fun _ hcode => hcode,
    fun _ hreason _ hhealth => ⟨entry, rfl, hreason, hhealth⟩, fun hhealth => ⟨entry, rfl, hhealth⟩,
    rfl, rfl⟩

theorem worsened_normalized (disk : Option RegistryEntry) (timestamp : Timestamp) :
    Worsened disk (normalizeRegistryEntry disk timestamp) := by
  cases disk with
  | none =>
      exact ⟨rfl, by simp, by simp [normalizeRegistryEntry], by simp [normalizeRegistryEntry],
        by simp [normalizeRegistryEntry], rfl, rfl⟩
  | some entry =>
      have hrefl := Worsened.refl entry
      exact ⟨rfl, hrefl.latched, fun _ hcode => (Option.filter_eq_some_iff.mp hcode).1,
        hrefl.leftover, hrefl.repairing, rfl, rfl⟩

/-- The entry becomes unhealthy for another reason than a failed acquire. -/
theorem Worsened.unhealthy {disk : Option RegistryEntry} {entry changed : RegistryEntry}
    (hworsened : Worsened disk entry) (hactive : changed.activeLeaseId = entry.activeLeaseId)
    (hhealth : changed.health = .repairNeeded)
    (hcause : changed.driftCauseCode = entry.driftCauseCode)
    (hreason : ∀ reason, changed.driftReason = some reason → reason ∉ acquireRollbackReasons)
    (hcounted : changed.leasesSinceErase = entry.leasesSinceErase)
    (hreleased : changed.lastLeaseReleasedAt = entry.lastLeaseReleasedAt) :
    Worsened disk changed where
  active := hactive.trans hworsened.active
  latched _ _ _ := by rw [hhealth]; rfl
  cause code hcode := hworsened.cause code (hcause ▸ hcode)
  leftover reason hchanged hacquire := absurd hacquire (hreason reason hchanged)
  repairing hrepairing := by rw [hhealth] at hrepairing; cases hrepairing
  counted := hcounted.trans hworsened.counted
  released := hreleased.trans hworsened.released

theorem preserveSlotReclaimFailure_not_acquire {entry : RegistryEntry} {replacement reason : String}
    (hreplacement : replacement ∉ acquireRollbackReasons)
    (hreason : preserveSlotReclaimFailure entry replacement = some reason) :
    reason ∉ acquireRollbackReasons := by
  unfold preserveSlotReclaimFailure at hreason
  split at hreason
  · rw [← Option.some_inj.mp hreason]
    decide
  · rw [← Option.some_inj.mp hreason]
    exact hreplacement

theorem Worsened.synced {disk : Option RegistryEntry} {entry : RegistryEntry}
    (hworsened : Worsened disk entry) (verdict : SyncVerdict) :
    Worsened disk (syncEntry verdict entry) := by
  cases verdict with
  | missing =>
      exact hworsened.unhealthy rfl rfl rfl
        (fun _ => preserveSlotReclaimFailure_not_acquire (by decide)) rfl rfl
  | unavailable =>
      exact hworsened.unhealthy rfl rfl rfl
        (fun _ => preserveSlotReclaimFailure_not_acquire (by decide)) rfl rfl
  | mismatched powerState =>
      exact hworsened.unhealthy rfl rfl rfl
        (fun _ => preserveSlotReclaimFailure_not_acquire (by decide)) rfl rfl
  | matching powerState =>
      simp only [syncEntry]
      split
      · rename_i hfailed
        refine hworsened.unhealthy rfl rfl rfl (fun reason hreason => ?_) rfl rfl
        have hsame : entry.driftReason = some reason := hreason
        rw [← Option.some_inj.mp (hfailed.symm.trans hsame)]
        decide
      · cases hhealth : entry.health with
        | healthy | stateDrift =>
            refine ⟨hworsened.active, fun old hold hlatched => ?_, by simp, by simp, by simp,
              hworsened.counted, hworsened.released⟩
            have hentry := hworsened.latched old hold hlatched
            rw [hhealth] at hentry
            cases hentry
        | repairNeeded =>
            exact ⟨hworsened.active, fun _ _ _ => rfl, hworsened.cause,
              fun reason hreason hacquire _ =>
                hworsened.leftover reason hreason hacquire (by rw [hhealth]; rfl),
              by simp, hworsened.counted, hworsened.released⟩
        | repairing =>
            refine ⟨hworsened.active, fun _ _ _ => rfl, hworsened.cause, ?_, by simp,
              hworsened.counted, hworsened.released⟩
            intro reason hreason hacquire _
            refine hworsened.leftover reason ?_ hacquire (by rw [hhealth]; rfl)
            cases hdrift : entry.driftReason with
            | none =>
                rw [hdrift] at hreason
                rw [← Option.some_inj.mp hreason] at hacquire
                exact absurd hacquire (by decide)
            | some other =>
                rw [hdrift] at hreason
                exact hreason

/-- Every entry is the one on disk, its health possibly worse. -/
structure Copies (world : World) (registry : Registry) : Prop where
  present : ∀ name ∈ world.store.configuredAliases, ∃ entry, registry.aliases name = some entry
  entry : ∀ name entry, registry.aliases name = some entry →
    Worsened (world.store.entry name) entry

theorem Copies.kept (hkept : Kept world after) (hcopies : Copies world registry) :
    Copies after registry := by
  constructor
  · rw [hkept.configuredAliases]
    exact hcopies.present
  · rw [hkept.entry]
    exact hcopies.entry

theorem Copies.modify (hcopies : Copies world registry) (name : AliasName)
    {mutate : RegistryEntry → RegistryEntry}
    (hmutate : ∀ disk entry, Worsened disk entry → Worsened disk (mutate entry)) :
    Copies world (registry.modify name mutate) where
  present other hother := by
    obtain ⟨entry, hentry⟩ := hcopies.present other hother
    by_cases hsame : other = name
    · subst hsame
      exact ⟨mutate entry, by simp [hentry]⟩
    · exact ⟨entry, by rw [Registry.modify_aliases_of_ne registry mutate hsame, hentry]⟩
  entry other entry hentry := by
    obtain ⟨-, hold⟩ | ⟨-, old, hold, rfl⟩ := modify_cases hentry
    · exact hcopies.entry other entry hold
    · exact hmutate _ old (hcopies.entry other old hold)

/-- Where no lease file is left of an acquire that was rolled back, a copy may be written. -/
theorem Copies.writeOk (hinvariant : Invariant context world)
    (hgone : ∀ lease ∈ world.store.leases, ¬ context.rolledBack lease.leaseId) (hcopies : Copies world registry) :
    RegistryWriteOk context world registry {} where
  latched name hname hlatched := by
    obtain ⟨old, hold, hhealth⟩ := hinvariant.latched name hlatched
    obtain ⟨entry, hentry⟩ := hcopies.present name hname
    exact .inr ⟨entry, hentry, (hcopies.entry name entry hentry).latched old hold hhealth⟩
  cause name entry code hentry hcode := by
    have hworsened := hcopies.entry name entry hentry
    obtain ⟨old, hold, holdCode⟩ := Option.bind_eq_some_iff.mp (hworsened.cause code hcode)
    obtain ⟨hcause, hhealth⟩ := hinvariant.cause name old code hold holdCode
    exact ⟨hworsened.latched old hold hhealth, .inr hcause⟩
  spared lease _ hgranted := by
    refine ⟨?_, fun entry hentry hrepairing => ?_⟩
    · by_contra hleftover
      rw [Bool.not_eq_false] at hleftover
      unfold isLeftoverAcquireRollbackLease at hleftover
      cases hentry : registry.aliases lease.aliasName with
      | none => simp [hentry] at hleftover
      | some entry =>
          have hworsened := hcopies.entry _ entry hentry
          simp only [hentry, Bool.and_eq_true, decide_eq_true_eq, Option.any_eq_true] at hleftover
          obtain ⟨⟨hhealth, reason, hreason, hacquire⟩, hactive⟩ := hleftover
          obtain ⟨old, hold, holdReason, hlatched⟩ :=
            hworsened.leftover reason hreason hacquire (by rw [hhealth]; rfl)
          have holdActive : old.activeLeaseId ≠ some lease.leaseId := by
            rw [hworsened.active, hold] at hactive
            exact hactive
          cases hdisk : world.store.registry with
          | none => simp [Store.entry, hdisk] at hold
          | some disk =>
              have holdEntry : disk.aliases lease.aliasName = some old := by
                simpa [Store.entry, hdisk] using hold
              cases holdHealth : old.health with
              | healthy => rw [holdHealth] at hlatched; cases hlatched
              | stateDrift => rw [holdHealth] at hlatched; cases hlatched
              | repairing => exact holdActive (hgranted.adopted old hold holdHealth)
              | repairNeeded =>
                  refine hgranted.notLeftover ⟨disk, hdisk, ?_⟩
                  simp [isLeftoverAcquireRollbackLease, holdEntry, holdHealth, holdReason, hacquire,
                    holdActive]
    · have hworsened := hcopies.entry _ entry hentry
      obtain ⟨old, hold, hhealth⟩ := hworsened.repairing hrepairing
      rw [hworsened.active, hold]
      exact hgranted.adopted old hold hhealth
  inactive leaseId hrolledBack name entry hentry hactive := by
    rw [(hcopies.entry name entry hentry).active] at hactive
    obtain ⟨old, hold, holdActive⟩ := Option.bind_eq_some_iff.mp hactive
    exact (hinvariant.rolledBack leaseId hrolledBack).2.inactive name old hold holdActive
  leftover lease hlease hrolledBack := absurd hrolledBack (hgone lease hlease)

/-- The registry of a cleanup: a copy of the one on disk, which it may leave
behind the files as it found it. -/
structure Copying (context : Context) (first world : World) (registry : Registry) : Prop where
  copies : Copies world registry
  gone : ∀ lease ∈ world.store.leases, ¬ context.rolledBack lease.leaseId
  counted : Counted context world
  agree : Agree first → Agree world

theorem Copies.exact (hcopies : Copies world registry) (hexact : Exact world)
    (hwritten : RegistryWritten registry {} world after) : Exact after := by
  refine Tallied.exact (fun name entry hentry => ?_) hwritten
  have hworsened := hcopies.entry name entry hentry
  have hcount := hworsened.counted
  have hreleased := hworsened.released
  simp only [List.not_mem_nil, if_false]
  cases hdisk : world.store.entry name with
  | none =>
      obtain ⟨hzero, hnone⟩ := hexact.absent name hdisk
      rw [hdisk] at hcount hreleased
      exact ⟨hcount.trans hzero.symm, hreleased.trans hnone.symm⟩
  | some old =>
      obtain ⟨hold, hlast⟩ := hexact.counted name old hdisk
      rw [hdisk] at hcount hreleased
      exact ⟨hcount.trans hold, hreleased.trans hlast⟩

theorem Copies.agree (hcopies : Copies world registry) (hagree : Agree world)
    (hwritten : RegistryWritten registry {} world after) : Agree after := by
  intro name hname
  rw [hwritten.configuredAliases] at hname
  obtain ⟨entry, hentry⟩ := hcopies.present name hname
  obtain ⟨old, hold, hactive⟩ := hagree name hname
  refine ⟨entry, ?_, ?_⟩
  · rw [hwritten.entry]
    exact hentry
  · rw [(hcopies.entry name entry hentry).active, hold, hwritten.holder]
    exact hactive

theorem idleWriter_copying : IdleWriter context (Copying context first) where
  kept hkept h := ⟨h.copies.kept hkept, hkept.leases ▸ h.gone, hkept.counted h.counted,
    fun hagree => hkept.agree (h.agree hagree)⟩
  counted h := h.counted
  failed name timestamp h := by
    have hmutate : ∀ disk entry, Worsened disk entry →
        Worsened disk (idleFailedEntry timestamp entry) := by
      intro disk entry hworsened
      refine hworsened.unhealthy rfl rfl rfl ?_ rfl rfl
      rintro _ ⟨⟩
      decide
    have hcopies := h.copies.modify name hmutate
    exact ⟨⟨hcopies.present, hcopies.entry⟩, h.gone, h.counted, h.agree⟩
  shutdown name timestamp h := by
    refine ⟨h.copies.modify name fun disk entry hworsened => ?_, h.gone, h.counted, h.agree⟩
    exact ⟨hworsened.active, hworsened.latched, hworsened.cause, hworsened.leftover,
      hworsened.repairing, hworsened.counted, hworsened.released⟩
  result _ _ h := ⟨⟨h.copies.present, h.copies.entry⟩, h.gone, h.counted, h.agree⟩
  writeOk hinvariant h := h.copies.writeOk hinvariant h.gone
  written h hwritten := by
    refine ⟨⟨?_, ?_⟩, hwritten.leases ▸ h.gone,
      fun hrecords => h.copies.exact (h.counted hrecords) hwritten,
      fun hagree => h.copies.agree (h.agree hagree) hwritten⟩
    · rw [hwritten.configuredAliases]
      exact h.copies.present
    · intro name entry hentry
      rw [hwritten.entry, hentry]
      exact .refl entry

/-- An idle alias of a snapshot: the leases it dropped there are of dead owners. -/
theorem Snapshot.idleCandidate {state : BrokerState}
    (hsnapshot : Snapshot context timestamp [] state world)
    (hsince : ∀ lease ∈ world.store.leases, lease.ownerSince ≤ timestamp) {hostAlias : HostAlias}
    (hmem : hostAlias ∈ idleBaseCandidates state) : IdleCandidate context world hostAlias := by
  obtain ⟨hbound, hlease, hpin, entry, hentry, hhealthy⟩ := mem_idleBaseCandidates hmem
  refine ⟨⟨state.hostConfig, hsnapshot.config, hbound⟩, fun lease hlease' halias => ?_, ?_⟩
  · obtain hcounted | ⟨registry, hregistry, hleftover⟩ | ⟨hplain, hdead⟩ :=
      hsnapshot.dropped lease hlease'
    · rw [hsnapshot.byAlias] at hlease
      have habsent := List.find?_eq_none.mp hlease lease (List.mem_reverse.mpr hcounted)
      simp [halias] at habsent
    · unfold isLeftoverAcquireRollbackLease at hleftover
      cases hdisk : registry.aliases lease.aliasName with
      | none => simp [hdisk] at hleftover
      | some disk =>
          have hold : world.store.entry hostAlias.aliasName = some disk := by
            simp [Store.entry, hregistry, ← halias, hdisk]
          have hunlatched := hsnapshot.healthy _ entry hentry (by rw [hhealthy]; rfl) disk hold
          simp only [hdisk, Bool.and_eq_true, decide_eq_true_eq] at hleftover
          rw [hleftover.1.1] at hunlatched
          cases hunlatched
    · exact ⟨hplain, hdead (hsince lease hlease')⟩
  · intro pin hpinMem halias
    rw [hsnapshot.byPin] at hpin
    have habsent := List.find?_eq_none.mp hpin pin
      (List.mem_reverse.mpr (hsnapshot.pins.mem_iff.mpr hpinMem))
    simp [halias] at habsent

theorem copies_synchronized {rawRegistry : Option Registry} {config : HostConfig}
    (hregistry : rawRegistry = world.store.registry)
    (hconfig : world.store.configuredAliases = config.aliasNames) (inventory : SimctlInventory)
    (timestamp : Timestamp) :
    Copies world (syncRegistry config inventory (normalizeRegistry rawRegistry config timestamp)) := by
  have hentries : ∀ name, (syncRegistry config inventory
      (normalizeRegistry rawRegistry config timestamp)).aliases name =
      (config.find name).bind fun hostAlias =>
        some (syncEntry (syncVerdict inventory hostAlias)
          (normalizeRegistryEntry (world.store.entry name) timestamp)) := by
    intro name
    have hdisk : (rawRegistry.getD (emptyRegistry timestamp)).aliases name =
        world.store.entry name := by
      subst hregistry
      rw [Store.entry]
      cases world.store.registry <;> rfl
    cases hfind : config.find name with
    | none =>
        have hname : name ∉ config.aliasNames := by
          rw [← find_isSome_iff, hfind]
          simp
        simp [syncRegistry, hfind, normalizeRegistry, hname]
    | some hostAlias =>
        have hname : name ∈ config.aliasNames := by
          rw [← find_isSome_iff, hfind]
          rfl
        simp [syncRegistry, hfind, normalizeRegistry, hname, hdisk]
  constructor
  · intro name hname
    rw [hconfig, ← find_isSome_iff] at hname
    obtain ⟨hostAlias, hfind⟩ := Option.isSome_iff_exists.mp hname
    exact ⟨_, by rw [hentries, hfind]; rfl⟩
  · intro name entry hentry
    rw [hentries] at hentry
    obtain ⟨hostAlias, -, hsynced⟩ := Option.bind_eq_some_iff.mp hentry
    rw [← Option.some_inj.mp hsynced]
    exact (worsened_normalized _ timestamp).synced _

/-- The cleanup leaves the holders in the registry as it found them; a leftover
whose mark it would overwrite must not be there. -/
theorem safe_applyIdleCleanup {confirmPlanId : List (AliasName × SimulatorId)}
    {persistNoChanges : Bool}
    (hgone : ∀ lease ∈ world.store.leases, ¬ context.rolledBack lease.leaseId)
    (hready : Ready context timestamp world) :
    Safe context (applyIdleCleanup locale confirmPlanId persistNoChanges)
      (fun _ after => Counted context after ∧ (Agree world → Agree after))
      (fun _ after => Counted context after) world := by
  unfold applyIdleCleanup
  refine .assume fun hinvariant => ?_
  refine .seq (E := fun _ _ => False) (M := fun now after => Still world after ∧
      Ready context now after ∧ world.outside.clock ≤ now)
    (.opStill rfl trivial (fun now after hanswered hstill => ?_) fun _ _ _ hof _ => hof.elim)
    (fun _ _ _ h => h.elim) fun now started hstarted => ?_
  · have hclock : now = world.outside.clock := hanswered
    subst hclock
    exact ⟨hstill, ⟨hready.since.trans hready.past, hstill.later.clock,
      hready.drawn.trans hstill.later.nextId, hstill.toKept.counted hready.counted⟩, le_rfl⟩
  obtain ⟨hstill, hready, hnow⟩ := hstarted
  have hsince : ∀ lease ∈ started.store.leases, lease.ownerSince ≤ now := by
    intro lease hlease
    exact (hinvariant.ownerSince lease (hstill.leases ▸ hlease)).trans hnow
  refine .seq (safe_loadPublicSafeIdleState (E := Still started)
    (safe_readBrokerStateSnapshot hready.past))
    (fun _ _ _ h => h.toKept.counted hready.counted) fun state read hread => ?_
  obtain ⟨hreadStill, hsnapshot⟩ := hread
  dsimp only
  split
  · exact .throw (E := fun _ after => Counted context after)
      (hreadStill.toKept.counted hready.counted)
  have hcandidates : ∀ hostAlias ∈ idleBaseCandidates state, IdleCandidate context read hostAlias := by
    intro hostAlias hmem
    exact hsnapshot.idleCandidate (hreadStill.leases ▸ hsince) hmem
  refine .seq (safe_read rfl (by simp))
    (fun _ _ _ h => (hreadStill.trans h.1).toKept.counted hready.counted)
    fun rawRegistry raw hraw => ?_
  obtain ⟨hregistry, hrawStill⟩ := hraw
  have hregistry : rawRegistry = raw.store.registry := hrawStill.registry ▸ hregistry
  refine .seq safe_syncRegistryWithSimctl
    (fun _ _ _ h => ((hreadStill.trans hrawStill).trans h.1).toKept.counted hready.counted)
    fun registry synced hsynced => ?_
  obtain ⟨hsyncStill, inventory, rfl⟩ := hsynced
  have hkept := (hreadStill.trans (hrawStill.trans hsyncStill)).toKept
  have hcopies := copies_synchronized hregistry
    (hsnapshot.config.kept hrawStill.toKept).configuredAliases inventory now
  have hcopying : Copying context world synced
      (syncRegistry state.hostConfig inventory
        (normalizeRegistry rawRegistry state.hostConfig now)) :=
    ⟨hcopies.kept hsyncStill.toKept, (hstill.toKept.trans hkept).leases ▸ hgone,
      hkept.counted hready.counted,
      fun hagree => (hstill.toKept.trans hkept).agree hagree⟩
  refine (safe_performIdleShutdowns idleWriter_copying hcopying
    (fun hostAlias hmem => (hcandidates hostAlias hmem).kept
      (hrawStill.trans hsyncStill).toKept.butRegistry) (by simp) (by simp)).weaken ?_ fun _ _ _ h => h
  rintro result after - ⟨registry, hlast⟩
  exact ⟨hlast.counted, hlast.agree⟩

theorem safe_requireHumanIdleActor {actorType : String} {actorId : Option String}
    {E : World → Prop} (hworld : E world) :
    Safe context (requireHumanIdleActor actorType actorId) (fun _ after => after = world)
      (fun _ after => E after) world := by
  unfold requireHumanIdleActor
  split
  · exact .throw hworld
  · split
    · exact .throw hworld
    · exact .pure rfl

theorem safe_applyIdleCleanupBroker {actor : IdleActor}
    {confirmPlanId : List (AliasName × SimulatorId)} {persistNoChanges : Bool}
    (hgone : ∀ lease ∈ world.store.leases, ¬ context.rolledBack lease.leaseId)
    (hready : Ready context timestamp world) :
    Safe context (applyIdleCleanupBroker locale actor confirmPlanId persistNoChanges)
      (fun _ after => Counted context after ∧ (Agree world → Agree after))
      (fun _ after => Counted context after) world := by
  unfold applyIdleCleanupBroker
  refine .seq (safe_requireHumanIdleActor hready.counted) (fun _ _ _ h => h)
    fun _ required hrequired => ?_
  subst hrequired
  refine safe_withLock (fun _ _ _ hstill h => ⟨hstill.toKept.counted h.1, fun hagree =>
      hstill.toKept.agree (h.2 hagree)⟩) stable_counted (fun _ _ h => h.1) hready.counted
    fun locked hlocked => ?_
  refine (safe_applyIdleCleanup (hlocked.leases ▸ hgone) (hready.kept hlocked.toKept)).weaken ?_
    fun _ _ _ h => h
  exact fun _ _ _ h => ⟨h.1, fun hagree => h.2 (hlocked.toKept.agree hagree)⟩

/-! ## The other commands -/

theorem safe_idleStatusBroker (hready : Ready context timestamp world) :
    Safe context (idleStatusBroker context.paths) (fun _ after => Settled context after)
      (fun _ after => Counted context after) world := by
  refine safe_settledUnderLock hready.counted fun locked hlocked => ?_
  refine .seq (E := fun _ _ => False) (safe_now (hready.kept hlocked.toKept))
    (fun _ _ _ h => h.elim) fun now started hstarted => ?_
  have hnow := hstarted.2
  refine .seq (safe_loadPublicSafeIdleState (E := Counted context)
    ((safe_loadBrokerState hnow.counted hnow.loadOk).weaken (fun _ _ _ h => h)
      fun _ _ _ h => h.2)) (fun _ _ _ h => h) fun state loaded hloaded => ?_
  refine safe_readIdlePolicy.weaken ?_ ?_
  · exact fun _ _ _ h => h.toKept.settled hloaded.settled
  · exact fun _ _ _ h => h.toKept.counted hloaded.counted

theorem safe_previewIdleCleanupBroker :
    Safe context (previewIdleCleanupBroker locale) (fun _ after => Still world after)
      (fun _ after => Still world after) world := by
  unfold previewIdleCleanupBroker
  refine safe_withLock (P := fun _ after => Still world after) (E := Still world)
    (fun _ _ _ hstill h => h.trans hstill) (fun hstill h => h.trans hstill) (fun _ _ h => h)
    (.refl world) fun locked hlocked => ?_
  refine .seq (M := fun now started => Still locked started ∧ now ≤ started.outside.clock)
    (.opStill rfl trivial (fun now _ hanswered hstill => ⟨hstill, ?_⟩)
      fun _ _ _ hof _ => hof.elim) (fun _ _ _ h => h) fun now started hstarted => ?_
  · exact (show now = locked.outside.clock from hanswered) ▸ hstill.later.clock
  have hstill := hlocked.trans hstarted.1
  refine .seq (safe_loadPublicSafeIdleState (E := Still started)
    (safe_readBrokerStateSnapshot hstarted.2)) (fun _ _ _ h => hstill.trans h)
    fun state read hread => ?_
  exact .pure (hstill.trans hread.1)

/-- What changes no file the invariant is about. -/
theorem safe_enableIdlePolicyBroker {actor : IdleActor} {graceSeconds : Nat} :
    Safe context (enableIdlePolicyBroker actor graceSeconds) (fun _ after => Still world after)
      (fun _ after => Still world after) world := by
  unfold enableIdlePolicyBroker
  refine .seq (safe_requireHumanIdleActor (.refl world)) (fun _ _ _ h => h)
    fun _ required hrequired => ?_
  subst hrequired
  dsimp only
  split
  · exact .throw (E := fun _ after => Still required after) (.refl required)
  refine safe_withLock (P := fun _ after => Still required after) (E := Still required)
    (fun _ _ _ hstill h => h.trans hstill) (fun hstill h => h.trans hstill) (fun _ _ h => h)
    (.refl required) fun locked hlocked => ?_
  refine .seq (E := fun _ _ => False) (M := fun _ after => Still required after)
    (.opStill rfl trivial (fun _ _ _ hstill => hlocked.trans hstill) fun _ _ _ hof _ => hof.elim)
    (fun _ _ _ h => h.elim) fun now started hstarted => ?_
  have hwrite : Safe context
      (do
        ensureStatePaths
        writeJsonAtomicRestricted (.idlePolicy graceSeconds))
      (fun _ after => Still started after) (fun _ after => Still started after) started := by
    refine .quiet (.bind (.request rfl) fun _ => ?_)
    unfold writeJsonAtomicRestricted
    exact .bind (.request rfl) fun _ => .bind (.request rfl) fun _ => .bind (.request rfl)
      fun _ => .bind (.request rfl) fun _ => .request rfl
  refine .seq (M := fun _ after => Still required after) (E := fun _ after => Still required after)
    (.catch (E := fun _ after => Still required after)
      (hwrite.weaken (fun _ _ _ h => hstarted.trans h) fun _ _ _ h => hstarted.trans h)
      fun _ _ hfailed => .throw hfailed) (fun _ _ _ h => h) fun _ written hwritten => ?_
  refine .seq (safe_appendEventRecord hwritten (eventOk_of_ne (by simp) (by simp)))
    (fun _ _ _ h => h.elim) fun _ appended happended => ?_
  exact .pure happended

theorem safe_disableIdlePolicyBroker {actor : IdleActor} :
    Safe context (disableIdlePolicyBroker actor) (fun _ after => Still world after)
      (fun _ after => Still world after) world := by
  unfold disableIdlePolicyBroker
  refine .seq (safe_requireHumanIdleActor (.refl world)) (fun _ _ _ h => h)
    fun _ required hrequired => ?_
  subst hrequired
  refine safe_withLock (P := fun _ after => Still required after) (E := Still required)
    (fun _ _ _ hstill h => h.trans hstill) (fun hstill h => h.trans hstill) (fun _ _ h => h)
    (.refl required) fun locked hlocked => ?_
  refine .seq (E := fun _ _ => False) (M := fun _ after => Still required after)
    (.opStill rfl trivial (fun _ _ _ hstill => hlocked.trans hstill) fun _ _ _ hof _ => hof.elim)
    (fun _ _ _ h => h.elim) fun now started hstarted => ?_
  refine .seq (M := fun _ after => Still required after) (E := fun _ after => Still required after)
    (.catch (E := fun _ after => Still required after)
      ((safe_read rfl (by simp)).weaken (fun _ _ _ h => hstarted.trans h.2)
        fun _ _ _ h => hstarted.trans h.1)
      fun _ _ hfailed => .throw hfailed) (fun _ _ _ h => h) fun _ removed hremoved => ?_
  refine .seq (safe_appendEventRecord hremoved (eventOk_of_ne (by simp) (by simp)))
    (fun _ _ _ h => h.elim) fun _ appended happended => ?_
  exact .pure happended

end SimulatorBroker.Safety
