import SimulatorBroker.Safety.Reclaim

/-!
# Acquiring

The acquire grants a lease only on a healthy alias without one, and a failed
acquire leaves no end of a lease uncounted.
-/

namespace SimulatorBroker.Safety

open SimulatorBroker.Effects
open SimulatorBroker.State
open SimulatorBroker.Broker

variable {α : Type} {context : Context} {first world after : World} {timestamp : Timestamp}
  {registry : Registry} {note : RegistryNote}

/-! ## What a command leaves -/

/-- A command that loaded the state returned. -/
def Settled (context : Context) (world : World) : Prop :=
  Agree world ∧ Counted context world

theorem stable_counted : Stable (Counted context) :=
  fun hstill hcounted => hstill.toKept.counted hcounted

theorem stable_settled : Stable (Settled context) :=
  fun hstill hsettled => ⟨hstill.toKept.agree hsettled.1, hstill.toKept.counted hsettled.2⟩

theorem Kept.settled (hkept : Kept world after) (hsettled : Settled context world) :
    Settled context after :=
  ⟨hkept.agree hsettled.1, hkept.counted hsettled.2⟩

theorem LoadDone.settled {skipLeaseIds : List LeaseId} {state : BrokerState}
    (hdone : LoadDone context skipLeaseIds first state after) : Settled context after :=
  ⟨hdone.agree, hdone.counted⟩

theorem counted_of_fails (hfails : ¬ RecordsEnds context.surroundings) : Counted context world :=
  fun hrecords => absurd hrecords hfails

/-! ## Candidates -/

theorem mem_buildCandidateAnalysis {state : BrokerState} {purpose : Purpose}
    {project : ProjectConfig} {explicitAlias : Option AliasName} {candidate : Candidate}
    (hmem : candidate ∈ buildCandidateAnalysis state purpose project explicitAlias) :
    candidate.hostAlias ∈ state.hostConfig.aliases ∧
      state.registry.aliases candidate.hostAlias.aliasName = some candidate.entry ∧
      candidate.reasons = candidateReasons state purpose project explicitAlias
        candidate.hostAlias candidate.entry := by
  obtain ⟨⟨hostAlias, index⟩, hindexed, hsome⟩ := List.mem_filterMap.mp hmem
  obtain ⟨entry, hentry, rfl⟩ := Option.map_eq_some_iff.mp hsome
  exact ⟨(List.mem_zipIdx' hindexed).2 ▸ List.getElem_mem _, hentry, rfl⟩

theorem reasonIf_eq_nil {condition : Bool} {reason : CandidateReason} :
    reasonIf condition reason = [] ↔ condition = false := by
  cases condition <;> simp [reasonIf]

/-- A candidate without reasons against it is free and healthy, and its pin allows the request. -/
theorem available_of_no_reasons {state : BrokerState} {purpose : Purpose} {project : ProjectConfig}
    {explicitAlias : Option AliasName} {hostAlias : HostAlias} {entry : RegistryEntry}
    (hreasons : candidateReasons state purpose project explicitAlias hostAlias entry = []) :
    state.leasesByAlias hostAlias.aliasName = none ∧ entry.health.latched = false ∧
      ∀ pin, state.pinsByAlias hostAlias.aliasName = some pin →
        leaseMatchesPin project.projectId purpose.id pin = true := by
  simp only [candidateReasons, List.append_eq_nil_iff, reasonIf_eq_nil, Bool.or_eq_false_iff,
    decide_eq_false_iff_not] at hreasons
  obtain ⟨⟨⟨-, hpinned⟩, hlease⟩, hneeded, hrepairing⟩ := hreasons
  refine ⟨by simpa using hlease, ?_, ?_⟩
  · cases hhealth : entry.health <;> simp_all [Health.latched]
  · intro pin hpin
    simpa [hpin] using hpinned

/-- What the selection of an acquire relies on. -/
structure Selected (context : Context) (selection : AcquireSelection) (world : World) : Prop where
  current : Current context selection.state world
  settled : Settled context world
  mem : selection.selected.hostAlias ∈ selection.state.hostConfig.aliases
  free : selection.state.leasesByAlias selection.selected.hostAlias.aliasName = none
  entry : selection.state.registry.aliases selection.selected.hostAlias.aliasName =
    some selection.selected.entry
  healthy : selection.selected.entry.health.latched = false
  leases : selection.state.leases.Perm world.store.leases
  pinned : ∀ pin, selection.state.pinsByAlias selection.selected.hostAlias.aliasName = some pin →
    leaseMatchesPin selection.project.projectId selection.purpose.id pin = true

theorem Selected.kept {selection : AcquireSelection} (hkept : Kept world after)
    (hselected : Selected context selection world) : Selected context selection after :=
  { hselected with
    current := hselected.current.kept hkept
    settled := hkept.settled hselected.settled
    leases := hkept.leases ▸ hselected.leases }

theorem safe_getPurpose {project : ProjectConfig} {purposeId : PurposeId} {raise : World → Prop}
    (hworld : raise world) :
    Safe context (getPurpose project purposeId) (fun _ after => after = world)
      (fun _ after => raise after) world := by
  unfold getPurpose
  split
  · exact .throw hworld
  · exact .pure rfl

theorem safe_rememberKnownProject {knownProjects : List ProjectConfig} {project : ProjectConfig} :
    Safe context (rememberKnownProject knownProjects project) (fun _ after => Kept world after)
      (fun _ after => Kept world after) world := by
  unfold rememberKnownProject
  exact .seq (safe_writeKnownProjects (.refl world)) (fun _ _ _ h => h.2)
    fun _ _ hwritten => .pure hwritten

theorem safe_acquireSelection {options : AcquireOptions} (hready : Ready context timestamp world) :
    Safe context (acquireSelection context.paths options timestamp)
      (fun selection after => Selected context selection after ∧ Ready context timestamp after)
      (fun _ after => Counted context after) world := by
  unfold acquireSelection
  refine .seq (safe_loadBrokerState hready.counted hready.loadOk) (fun _ _ _ h => h.2)
    fun state loaded hloaded => ?_
  refine .seq (safe_read rfl (by simp)) (fun _ _ _ h => h.1.toKept.counted hloaded.counted)
    fun project read hread => ?_
  refine .seq safe_rememberKnownProject
    (fun _ _ _ h => (hread.2.toKept.trans h).counted hloaded.counted)
    fun knownProjects remembered hremembered => ?_
  have hkept := hread.2.toKept.trans hremembered
  refine .seq (safe_getPurpose (hkept.counted hloaded.counted)) (fun _ _ _ h => h)
    fun purpose found hfound => ?_
  subst hfound
  dsimp only
  split
  · exact .throw (hkept.counted hloaded.counted)
  · rename_i selected rest hsorted
    have hmem : selected ∈ sortCandidates
        ((buildCandidateAnalysis state purpose project options.aliasName).filter
          fun candidate => candidate.reasons.isEmpty) := by
      rw [hsorted]
      simp
    rw [sortCandidates, List.mem_insertionSort, List.mem_filter, List.isEmpty_iff] at hmem
    obtain ⟨hbound, hentry, hreasons⟩ := mem_buildCandidateAnalysis hmem.1
    rw [hreasons] at hmem
    obtain ⟨hfree, hhealthy, hpinned⟩ := available_of_no_reasons hmem.2
    have hcurrent := hloaded.loaded.toCurrent.kept hkept
    refine .pure ⟨⟨⟨hcurrent.config, hcurrent.tracks, hcurrent.byAlias, hcurrent.pins,
      hcurrent.byPin⟩, hkept.settled hloaded.settled, hbound, hfree, hentry, hhealthy,
      hkept.leases ▸ hloaded.loaded.leases, hpinned⟩, ?_⟩
    exact ⟨hready.since, hready.past.trans (hloaded.host.later.clock.trans hkept.later.clock),
      hready.drawn.trans (hloaded.host.later.nextId.trans hkept.later.nextId),
      hkept.counted hloaded.counted⟩

/-! ## The checks of the flags -/

theorem safe_requireContainmentRootInteger {value : Nat} {raise : World → Prop}
    (hworld : raise world) :
    Safe context (requireContainmentRootInteger value)
      (fun pid after => after = world ∧ pid = value ∧ 1 < value) (fun _ after => raise after)
      world := by
  unfold requireContainmentRootInteger
  split
  · exact .pure ⟨rfl, rfl, ‹_›⟩
  · exact .throw hworld

theorem safe_optionalContainmentGroupInteger {value : Option Nat} {raise : World → Prop}
    (hworld : raise world) :
    Safe context (optionalContainmentGroupInteger value) (fun _ after => after = world)
      (fun _ after => raise after) world := by
  unfold optionalContainmentGroupInteger
  cases value with
  | none => exact .pure rfl
  | some value =>
      dsimp only
      split
      · exact .pure rfl
      · exact .throw hworld

theorem safe_validateRegisteredOwnerGroup {ownerPid ownerPgid : Option Pid}
    {requireLiveOwner : Bool} :
    Safe context (validateRegisteredOwnerGroup ownerPid ownerPgid requireLiveOwner)
      (fun _ after => Still world after) (fun _ after => Still world after) world := by
  unfold validateRegisteredOwnerGroup
  split
  · refine .seq (safe_read rfl (by simp)) (fun _ _ _ h => h.1) fun records read hread => ?_
    split
    · split
      · exact .throw hread.2
      · exact .pure hread.2
    · split
      · exact .throw hread.2
      · split
        · exact .throw hread.2
        · exact .pure hread.2
  · exact .pure (.refl world)

theorem safe_assertLeaseArtifactPathUnused {leases : List Lease} {path : Option ArtifactPath}
    {ignored : Option LeaseId} {raise : World → Prop} (hworld : raise world) :
    Safe context (assertLeaseArtifactPathUnused context.paths leases path ignored)
      (fun _ after => after = world ∧ ∀ given ∈ path, ∀ lease ∈ leases,
        some lease.leaseId ≠ ignored → ∀ other ∈ lease.artifactPath,
          context.paths.canonicalPathForComparison other ≠
            context.paths.canonicalPathForComparison given)
      (fun _ after => raise after) world := by
  unfold assertLeaseArtifactPathUnused
  cases path with
  | none => exact .pure ⟨rfl, fun _ h => by cases h⟩
  | some path =>
      dsimp only
      split
      · exact .throw hworld
      · rename_i hunused
        refine .pure ⟨rfl, ?_⟩
        rintro given ⟨⟩ lease hlease hid other hother heq
        refine hunused (List.any_eq_true.mpr ⟨lease, hlease, ?_⟩)
        rw [Option.mem_def.mp hother]
        simp [hid, heq]

/-! ## The new lease -/

/-- The file of a new lease holds its alias and no other. -/
theorem holder_leaseWritten {record : Lease}
    (hfree : ∀ other ∈ world.store.leases, other.aliasName ≠ record.aliasName ∧
      other.leaseId ≠ record.leaseId)
    (hwritten : LeaseWritten record world after) (name : AliasName) :
    holder after name = if name = record.aliasName then some record else holder world name := by
  have hleases : after.store.leases = record :: world.store.leases := by
    rw [hwritten.leases]
    simp only [BrokerOp.effect, FileWrite.commit, Store.setLease]
    rw [List.filter_eq_self.mpr]
    intro other hother
    simpa using (hfree other hother).2
  by_cases hname : name = record.aliasName
  · subst hname
    simp [Safety.holder, hleases]
  · have hne : ¬ record.aliasName = name := fun h => hname h.symm
    simp [Safety.holder, hleases, hname, hne]

/-- The registry that names the new lease tracks the files. -/
theorem Tracks.granted {record : Lease} (htracks : Tracks context world registry note)
    (timestamp : Timestamp)
    (hfree : ∀ other ∈ world.store.leases, other.aliasName ≠ record.aliasName ∧
      other.leaseId ≠ record.leaseId)
    (hrolledBack : ¬ context.rolledBack record.leaseId)
    (hwritten : LeaseWritten record world after) :
    Tracks context after
      (registry.modify record.aliasName (leasedEntry record.leaseId timestamp)) note := by
  have hbut := hwritten.butLeases
  have hconfigured : after.store.configuredAliases = world.store.configuredAliases := by
    simp [Store.configuredAliases, hbut.hostConfig]
  refine ⟨?_, ?_, ?_, ?_, ?_, ?_⟩
  · intro name hname hlatched
    rw [hconfigured] at hname
    rw [hbut.ledger] at hlatched
    obtain hnote | ⟨entry, hentry, hhealth⟩ := htracks.latched name hname hlatched
    · exact .inl hnote
    · by_cases hsame : name = record.aliasName
      · subst hsame
        exact .inr ⟨leasedEntry record.leaseId timestamp entry, by simp [hentry], hhealth⟩
      · exact .inr ⟨entry, by rw [Registry.modify_aliases_of_ne registry _ hsame, hentry], hhealth⟩
  · intro name entry code hentry hcode
    rw [hbut.ledger]
    obtain ⟨-, hold⟩ | ⟨-, old, hold, rfl⟩ := modify_cases hentry
    · exact htracks.cause name entry code hold hcode
    · exact htracks.cause name old code hold hcode
  · intro name hname
    rw [hconfigured] at hname
    obtain ⟨entry, hentry⟩ := htracks.present name hname
    by_cases hsame : name = record.aliasName
    · subst hsame
      exact ⟨leasedEntry record.leaseId timestamp entry, by simp [hentry]⟩
    · exact ⟨entry, by rw [Registry.modify_aliases_of_ne registry _ hsame, hentry]⟩
  · intro name entry hentry
    rw [holder_leaseWritten hfree hwritten]
    obtain ⟨hne, hold⟩ | ⟨rfl, old, hold, rfl⟩ := modify_cases hentry
    · rw [if_neg hne]
      exact htracks.active name entry hold
    · rw [if_pos rfl]
      rfl
  · intro other hother
    rw [hwritten.leases] at hother
    obtain rfl | ⟨hother, -⟩ := mem_setLease.mp hother
    · exact hrolledBack
    · exact htracks.gone other hother
  · intro hrecords name entry hentry
    rw [hbut.ledger]
    obtain ⟨-, hold⟩ | ⟨-, old, hold, rfl⟩ := modify_cases hentry
    · exact htracks.tallied hrecords name entry hold
    · exact htracks.tallied hrecords name old hold

/-- A lease that the acquire has written for a healthy alias. -/
structure Handed (context : Context) (lease : Lease) (world : World) : Prop where
  onDisk : lease ∈ world.store.leases
  drawn : context.drawnFrom ≤ lease.leaseId
  spared : ¬ context.spared lease.leaseId

theorem Handed.kept {lease : Lease} (hkept : KeptButRegistry world after)
    (hhanded : Handed context lease world) : Handed context lease after :=
  { hhanded with onDisk := hkept.leases ▸ hhanded.onDisk }

/-! ## Rolling back -/

/-- The rollback fails without harm: where it cannot write, nothing is recorded
anyway. -/
theorem safe_rollbackAcquireLeaseFailureSafe {lease : Lease} {reason : String}
    {erased : List AliasName} (hhanded : Handed context lease world)
    (htracks : Tracks context world registry { erased }) :
    Safe context
      (rollbackAcquireLeaseFailureSafe context.paths registry lease timestamp reason erased)
      (fun _ after => Counted context after) (fun _ _ => False) world := by
  refine .assume fun hinvariant => ?_
  have hok := htracks.dropOk (rolledBackEntry reason timestamp) hinvariant hhanded.onDisk
    hhanded.spared (fun _ => rfl) (fun _ _ => rfl) (fun _ => rfl)
  have hallowed := hinvariant.leaseArtifacts lease hhanded.onDisk
  refine safe_ignoringErrors ?_
  unfold rollbackAcquireLease
  have hwriteOk : RegistryWriteOk context world
      ((registry.modify lease.aliasName (rolledBackEntry reason timestamp)).touch timestamp)
      { erased } :=
    ⟨hok.latched, hok.cause, hok.spared, hok.inactive, hok.leftover⟩
  refine .seq (safe_writeRegistry hwriteOk) (fun _ _ _ h => counted_of_fails h.1)
    fun _ written hwritten => ?_
  have hexact : Counted context written := by
    intro hrecords
    have htallied : Tallied world
        ((registry.modify lease.aliasName (rolledBackEntry reason timestamp)).touch timestamp)
        { erased } := by
      intro name entry hentry
      obtain ⟨-, hold⟩ | ⟨-, old, hold, rfl⟩ := modify_cases hentry
      · exact htracks.tallied hrecords name entry hold
      · exact htracks.tallied hrecords name old hold
    exact htallied.exact hwritten.toKept
  refine (safe_removeLeaseRecordFiles hallowed hhanded.spared).weaken ?_ ?_
  · exact fun _ _ _ hunlinked hrecords => (hunlinked.butLeases rfl).exact (hexact hrecords)
  · exact fun _ _ _ h => counted_of_fails h.1

/-! ## Reset and boot -/

/-- How a step of the acquire left the registry in memory. -/
structure Progressed (context : Context) (name : AliasName) (first : World)
    (progress : AcquireProgress) (world : World) : Prop where
  kept : KeptButRegistry first world
  tracks : Tracks context world progress.registry { erased := progress.erased }
  counted : Counted context world
  done : progress.error = none → progress.erased = [] ∧ (Agree first → Agree world)
  healthy : ∀ entry, progress.registry.aliases name = some entry → entry.health.latched = false

/-- An alias that is healthy in memory may be called healthy once more. -/
theorem EntryChange.healthy {before after : RegistryNote} {name : AliasName}
    {entry changed : RegistryEntry} (hhealthy : entry.health.latched = false)
    (hactive : changed.activeLeaseId = entry.activeLeaseId)
    (hcode : ∀ code, changed.driftCauseCode = some code → entry.driftCauseCode = some code)
    (hcause : ∀ code, entry.driftCauseCode = some code → entry.health.latched = true)
    (hcounted : changed.leasesSinceErase = 0 ∧ name ∈ after.erased ∨
      changed.leasesSinceErase = entry.leasesSinceErase ∧
        (name ∈ after.erased → name ∈ before.erased))
    (hreleased : changed.lastLeaseReleasedAt = entry.lastLeaseReleasedAt) :
    EntryChange before after name entry changed where
  active := hactive
  latched hlatched := by simp [hhealthy] at hlatched
  cause code hchanged := by
    have hlatched := hcause code (hcode code hchanged)
    simp [hhealthy] at hlatched
  counted := hcounted
  released := hreleased

/-- Where nothing is recorded, any erase may be noted. -/
theorem Tracks.renote (htracks : Tracks context world registry note)
    (hfails : ¬ RecordsEnds context.surroundings) {note' : RegistryNote}
    (hrepaired : note'.repaired = note.repaired) (hfailed : note'.failed = note.failed) :
    Tracks context world registry note' :=
  ⟨by rw [hrepaired]; exact htracks.latched, by rw [hfailed]; exact htracks.cause, htracks.present,
    htracks.active, htracks.gone, fun hrecords => absurd hrecords hfails⟩

/-- The registry write of a step, its error kept. -/
theorem safe_writeStep {name : AliasName} {erased : List AliasName}
    (htracks : Tracks context world registry { erased })
    (hhealthy : ∀ entry, registry.aliases name = some entry → entry.health.latched = false) :
    Safe context (writeRegistry registry { erased }).attempt
      (fun outcome after =>
        match outcome with
        | .ok _ => Progressed context name world { registry } after
        | .error error =>
            Progressed context name world { registry, erased, error := some error } after)
      (fun _ _ => False) world := by
  refine .attempt ((safe_writeTracked htracks).weaken ?_ ?_)
  · exact fun _ _ _ hwritten => ⟨hwritten.butRegistry, htracks.written hwritten,
      htracks.counted hwritten, fun _ => ⟨rfl, fun _ => htracks.agree hwritten⟩, hhealthy⟩
  · rintro error failed - ⟨hfails, hkept | hwritten⟩
    · exact ⟨hkept.butRegistry, htracks.kept hkept, counted_of_fails hfails, by simp, hhealthy⟩
    · exact ⟨hwritten.butRegistry, (htracks.written hwritten).renote hfails rfl rfl,
        counted_of_fails hfails, by simp, hhealthy⟩

theorem safe_maybeResetLeaseOnAcquire {lease : Lease} (htracks : Tracks context world registry {})
    (hcounted : Counted context world)
    (hbound : DestructiveOk context world lease.simulatorId .resetOnAcquire)
    (hhealthy : ∀ entry, registry.aliases lease.aliasName = some entry →
      entry.health.latched = false) :
    Safe context (maybeResetLeaseOnAcquire registry lease)
      (Progressed context lease.aliasName world) (fun _ _ => False) world := by
  have hunchanged : ∀ error after, Still world after →
      Progressed context lease.aliasName world { registry, error } after :=
    fun error after hstill => ⟨hstill.toKept.butRegistry, htracks.kept hstill.toKept,
      hstill.toKept.counted hcounted, fun _ => ⟨rfl, hstill.toKept.agree⟩, hhealthy⟩
  unfold maybeResetLeaseOnAcquire
  dsimp only
  split
  · exact .pure (hunchanged none world (.refl world))
  · have herase : Safe context
        (withLock .reset do
          perform (.shutdownDevice lease.simulatorId .resetOnAcquire)
          perform (.eraseDevice lease.simulatorId .resetOnAcquire))
        (fun _ after => Still world after) (fun _ after => Still world after) world := by
      refine safe_withLock (P := fun _ after => Still world after) (E := Still world)
        (fun _ _ _ hstill h => h.trans hstill) (fun hstill h => h.trans hstill) (fun _ _ h => h)
        (.refl world) fun locked hlocked => ?_
      refine .seq (M := fun _ after => Still world after)
        (.opStill rfl (hlocked.destructiveOk hbound)
          (fun _ _ _ hstill => hlocked.trans hstill) fun _ _ _ _ hstill => hlocked.trans hstill)
        (fun _ _ _ h => h) fun _ shut hshut => ?_
      exact .opStill rfl (hshut.destructiveOk hbound) (fun _ _ _ hstill => hshut.trans hstill)
        fun _ _ _ _ hstill => hshut.trans hstill
    refine .seq (M := fun _ after => Still world after) (E := fun _ _ => False)
      (.attempt herase) (fun _ _ _ h => h) fun outcome erased hstill => ?_
    cases outcome with
    | error error => exact .pure (hunchanged (some error) erased hstill)
    | ok value =>
        have hreset : Tracks context erased
            ((registry.modify lease.aliasName (resetEntry lease.startedAt)).touch lease.startedAt)
            { erased := [lease.aliasName] } := by
          refine ((htracks.kept hstill.toKept).modify (noteGrows_erased {} lease.aliasName)
            fun entry hentry hcause => ?_).touch _
          exact .healthy (hhealthy entry hentry) rfl (fun _ h => h) hcause
            (.inl ⟨rfl, by simp⟩) rfl
        have hresetHealthy : ∀ entry,
            ((registry.modify lease.aliasName (resetEntry lease.startedAt)).touch
              lease.startedAt).aliases lease.aliasName = some entry →
            entry.health.latched = false := by
          intro entry hentry
          obtain ⟨hne, -⟩ | ⟨-, old, -, rfl⟩ := modify_cases hentry
          · exact absurd rfl hne
          · rfl
        refine .seq (safe_writeStep hreset hresetHealthy) (fun _ _ _ h => h)
          fun outcome written hwritten => ?_
        have hbefore := hstill.toKept.butRegistry
        cases outcome with
        | ok value =>
            exact .pure ⟨hbefore.trans hwritten.kept, hwritten.tracks, hwritten.counted,
              fun _ => ⟨rfl, fun hagree =>
                (hwritten.done rfl).2 (hstill.toKept.agree hagree)⟩, hwritten.healthy⟩
        | error error =>
            exact .pure ⟨hbefore.trans hwritten.kept, hwritten.tracks, hwritten.counted,
              by simp, hwritten.healthy⟩

theorem safe_findHostAliasOrThrow {config : HostConfig} {name : AliasName} {E : World → Prop}
    (hworld : E world) :
    Safe context (findHostAliasOrThrow config name)
      (fun hostAlias after => after = world ∧ hostAlias ∈ config.aliases ∧
        hostAlias.aliasName = name) (fun _ after => E after) world := by
  unfold findHostAliasOrThrow
  cases hfind : config.find name with
  | none => exact .throw hworld
  | some hostAlias =>
      exact .pure ⟨rfl, List.mem_of_find?_eq_some hfind, by simpa using List.find?_some hfind⟩

/-- An adapter only changes the error. -/
theorem safe_invokeLifecycleAdapter {action : Broker α} {P : α → World → Prop} {E : World → Prop}
    (haction : Safe context action P (fun _ after => E after) world) :
    Safe context (invokeLifecycleAdapter action) P (fun _ after => E after) world := by
  refine .catch haction fun error after hafter => ?_
  split <;> exact .throw hafter

theorem safe_adapterBoot {hostAlias : HostAlias} :
    Safe context (adapterBoot hostAlias) (fun _ after => Still world after)
      (fun _ after => Still world after) world :=
  safe_invokeLifecycleAdapter ((safe_read rfl (by simp)).weaken (fun _ _ _ h => h.2)
    fun _ _ _ h => h.1)

theorem safe_adapterWaitReady {hostAlias : HostAlias} :
    Safe context (adapterWaitReady hostAlias) (fun _ after => Still world after)
      (fun _ after => Still world after) world :=
  safe_invokeLifecycleAdapter ((safe_read rfl (by simp)).weaken (fun _ _ _ h => h.2)
    fun _ _ _ h => h.1)

theorem safe_maybeBootLeaseOnAcquire {config : HostConfig} {lease : Lease}
    (htracks : Tracks context world registry {}) (hcounted : Counted context world)
    (hhealthy : ∀ entry, registry.aliases lease.aliasName = some entry →
      entry.health.latched = false) :
    Safe context (maybeBootLeaseOnAcquire config registry lease)
      (Progressed context lease.aliasName world) (fun _ _ => False) world := by
  have hunchanged : ∀ error after, Still world after →
      Progressed context lease.aliasName world { registry, error } after :=
    fun error after hstill => ⟨hstill.toKept.butRegistry, htracks.kept hstill.toKept,
      hstill.toKept.counted hcounted, fun _ => ⟨rfl, hstill.toKept.agree⟩, hhealthy⟩
  unfold maybeBootLeaseOnAcquire
  dsimp only
  generalize (registry.aliases lease.aliasName).any
    (fun entry => decide (entry.powerState = .booted)) = booted
  have hready : Safe context
      (do
        let hostAlias ← findHostAliasOrThrow config lease.aliasName
        if booted = true then adapterWaitReady hostAlias else adapterBoot hostAlias)
      (fun _ after => Still world after) (fun _ after => Still world after) world := by
    refine .seq (safe_findHostAliasOrThrow (E := Still world) (.refl world)) (fun _ _ _ h => h)
      fun hostAlias found hfound => ?_
    obtain ⟨rfl, -, -⟩ := hfound
    split
    · exact safe_adapterWaitReady
    · exact safe_adapterBoot
  refine .seq (M := fun _ after => Still world after) (E := fun _ _ => False)
    (.attempt hready) (fun _ _ _ h => h) fun outcome ready hstill => ?_
  cases outcome with
  | error error => exact .pure (hunchanged (some error) ready hstill)
  | ok value =>
      dsimp only
      split
      · exact .pure (hunchanged none ready hstill)
      · have hrunning : Tracks context ready
            ((registry.modify lease.aliasName (bootedEntry lease.startedAt)).touch lease.startedAt)
            {} := by
          refine ((htracks.kept hstill.toKept).modify (.refl {} lease.aliasName)
            fun entry hentry hcause => ?_).touch _
          exact .healthy (hhealthy entry hentry) rfl (fun _ h => h) hcause (.inr ⟨rfl, id⟩) rfl
        have hrunningHealthy : ∀ entry,
            ((registry.modify lease.aliasName (bootedEntry lease.startedAt)).touch
              lease.startedAt).aliases lease.aliasName = some entry →
            entry.health.latched = false := by
          intro entry hentry
          obtain ⟨hne, -⟩ | ⟨-, old, -, rfl⟩ := modify_cases hentry
          · exact absurd rfl hne
          · rfl
        refine .seq (safe_writeStep hrunning hrunningHealthy) (fun _ _ _ h => h)
          fun outcome written hwritten => ?_
        have hbefore := hstill.toKept.butRegistry
        cases outcome with
        | error error =>
            exact .pure ⟨hbefore.trans hwritten.kept, hwritten.tracks, hwritten.counted,
              by simp, hwritten.healthy⟩
        | ok value =>
            refine .seq (safe_appendEventRecord (.refl written) (eventOk_of_ne (by simp) (by simp)))
              (fun _ _ _ h => h) fun _ appended happended => ?_
            refine .pure ⟨hbefore.trans (hwritten.kept.trans happended.toKept.butRegistry),
              hwritten.tracks.kept happended.toKept, happended.toKept.counted hwritten.counted,
              fun _ => ⟨rfl, fun hagree => ?_⟩, hwritten.healthy⟩
            exact happended.toKept.agree
              ((hwritten.done rfl).2 (hstill.toKept.agree hagree))

/-! ## The command -/

theorem safe_commitAcquiredLease {lease : Lease} (htracks : Tracks context world registry {})
    (hcounted : Counted context world) (hspared : ¬ context.spared lease.leaseId)
    (hrolledBack : ¬ context.rolledBack lease.leaseId)
    (hdrawn : context.drawnFrom ≤ lease.leaseId)
    (hfree : ∀ other ∈ world.store.leases, other.aliasName ≠ lease.aliasName ∧
      other.leaseId ≠ lease.leaseId)
    (hok : lease.artifactPath.all context.paths.artifactPathAllowed = true →
      LeaseWriteOk context world lease) :
    Safe context (commitAcquiredLease context.paths registry lease timestamp)
      (fun leased after => after.store.hostConfig = world.store.hostConfig ∧
        Handed context lease after ∧ Settled context after ∧
        leased = (registry.modify lease.aliasName (leasedEntry lease.leaseId timestamp)).touch
          timestamp ∧ Tracks context after leased {})
      (fun _ after => Counted context after) world := by
  refine .assume fun hinvariant => ?_
  unfold commitAcquiredLease
  refine .seq (safe_writeLeaseRecord hok (by simp)) ?_ fun _ placed hplaced => ?_
  · exact fun _ _ _ h hrecords => h.1.exact (hcounted hrecords)
  have hleased := (htracks.granted timestamp hfree hrolledBack hplaced).touch timestamp
  have hdisk : lease ∈ placed.store.leases := hplaced.leases ▸ mem_setLease.mpr (.inl rfl)
  dsimp only
  refine .seq (M := fun _ after => RegistryWritten
      ((registry.modify lease.aliasName (leasedEntry lease.leaseId timestamp)).touch timestamp) {}
      placed after) (.catch (safe_writeTracked hleased) fun error failed hfailed => ?_)
    (fun _ _ _ h => h) fun _ written hwritten => ?_
  · refine .assume fun hinvariant => ?_
    have hstill : lease ∈ failed.store.leases := by
      obtain hkept | hwritten := hfailed.2
      · exact hkept.leases ▸ hdisk
      · exact hwritten.leases ▸ hdisk
    refine .seq (safe_removeLeaseRecordFiles (hinvariant.leaseArtifacts lease hstill) hspared)
      (fun _ _ _ h => counted_of_fails h.1) fun _ removed _ => ?_
    exact .throw (counted_of_fails hfailed.1)
  · exact .pure ⟨hwritten.hostConfig.trans hplaced.hostConfig,
      ⟨hwritten.leases ▸ hdisk, hdrawn, hspared⟩,
      ⟨hleased.agree hwritten, hleased.counted hwritten⟩, rfl, hleased.written hwritten⟩

theorem safe_handOutLease {config : HostConfig} {lease : Lease}
    (hhanded : Handed context lease world) (htracks : Tracks context world registry {})
    (hsettled : Settled context world)
    (hbound : DestructiveOk context world lease.simulatorId .resetOnAcquire)
    (hhealthy : ∀ entry, registry.aliases lease.aliasName = some entry →
      entry.health.latched = false) :
    Safe context (handOutLease context.paths config registry lease timestamp)
      (fun _ after => Settled context after) (fun _ after => Counted context after) world := by
  unfold handOutLease
  refine .seq (safe_maybeResetLeaseOnAcquire htracks hsettled.2 hbound hhealthy)
    (fun _ _ _ h => h.elim) fun reset progressed hreset => ?_
  cases herror : reset.error with
  | some error =>
      refine .seq (safe_rollbackAcquireLeaseFailureSafe (hhanded.kept hreset.kept) hreset.tracks)
        (fun _ _ _ h => h.elim) fun _ rolledBack hcounted => ?_
      exact .throw hcounted
  | none =>
      obtain ⟨herased, hagree⟩ := hreset.done herror
      have hclean := hreset.tracks
      rw [herased] at hclean
      refine .seq (safe_maybeBootLeaseOnAcquire hclean hreset.counted hreset.healthy)
        (fun _ _ _ h => h.elim) fun boot booted hboot => ?_
      cases hbootError : boot.error with
      | some error =>
          refine .seq (safe_rollbackAcquireLeaseFailureSafe
            ((hhanded.kept hreset.kept).kept hboot.kept) hboot.tracks)
            (fun _ _ _ h => h.elim) fun _ rolledBack hcounted => ?_
          exact .throw hcounted
      | none =>
          exact .pure ⟨(hboot.done hbootError).2 (hagree hsettled.1), hboot.counted⟩

/-- A healthy entry in memory that tracks the files is healthy in the ledger. -/
theorem Tracks.unlatched (htracks : Tracks context world registry {}) {name : AliasName}
    (hname : name ∈ world.store.configuredAliases)
    (hhealthy : ∀ entry, registry.aliases name = some entry → entry.health.latched = false) :
    world.ledger.latched name = false := by
  by_contra hlatched
  obtain hnote | ⟨entry, hentry, hhealth⟩ :=
    htracks.latched name hname (by simpa using hlatched)
  · simp at hnote
  · simp [hhealthy entry hentry] at hhealth

/-- The new lease is fresh where its id was drawn. -/
structure FreshId (context : Context) (leaseId : LeaseId) (world : World) : Prop where
  drawn : leaseId < world.outside.nextId
  own : context.drawnFrom ≤ leaseId
  unused : ∀ other ∈ world.store.leases, other.leaseId ≠ leaseId
  spared : ¬ context.spared leaseId
  rolledBack : ¬ context.rolledBack leaseId

theorem FreshId.kept {leaseId : LeaseId} (hkept : KeptButRegistry world after)
    (hfresh : FreshId context leaseId world) : FreshId context leaseId after :=
  { hfresh with
    drawn := hfresh.drawn.trans_le hkept.later.nextId
    unused := by rw [hkept.leases]; exact hfresh.unused }

theorem safe_randomUuid (hdrawn : context.drawnFrom ≤ world.outside.nextId)
    {raise : BrokerError → World → Prop} :
    Safe context (perform .randomUuid)
      (fun leaseId after => Still world after ∧ FreshId context leaseId after) raise world := by
  refine .assume fun hinvariant => ?_
  refine .op trivial (fun leaseId after hanswered hstill => ?_) fun _ _ _ hof _ => hof.elim
  have heffect := still_effect .randomUuid rfl world
  have hid : leaseId = world.outside.nextId := hanswered
  subst hid
  refine ⟨heffect.trans hstill, ?_, hdrawn, ?_, ?_, ?_⟩
  · exact (Nat.lt_succ_self _).trans_le hstill.later.nextId
  · intro other hother
    rw [(heffect.trans hstill).leases] at hother
    exact (hinvariant.leaseDrawn other hother).ne
  · intro hspared
    obtain ⟨lease, hid, hgranted⟩ := hinvariant.spared _ hspared
    exact (hinvariant.leaseDrawn lease hgranted.onDisk).ne hid
  · intro hrolledBack
    exact (hinvariant.rolledBack _ hrolledBack).1.ne rfl

/-- The record of the new lease may be written. -/
theorem acquiredLease_writeOk {selection : AcquireSelection} {options : AcquireOptions}
    {leaseId : LeaseId} {ownerPgid : Option Pid} {state : BrokerState}
    (hcurrent : Current context state world)
    (hmem : selection.selected.hostAlias ∈ state.hostConfig.aliases)
    (hfree : ∀ other ∈ world.store.leases,
      other.aliasName ≠ selection.selected.hostAlias.aliasName)
    (hhealthy : ∀ entry, state.registry.aliases selection.selected.hostAlias.aliasName =
      some entry → entry.health.latched = false)
    (hpinned : ∀ pin, state.pinsByAlias selection.selected.hostAlias.aliasName = some pin →
      leaseMatchesPin selection.project.projectId selection.purpose.id pin = true)
    (hunused : ∀ given ∈ options.leaseFile, ∀ other ∈ world.store.leases,
      ∀ path ∈ other.artifactPath, context.paths.canonicalPathForComparison path ≠
        context.paths.canonicalPathForComparison given)
    (hinvariant : Invariant context world)
    (hfresh : FreshId context leaseId world) (htime : timestamp ≤ world.outside.clock)
    {ownerPid : Pid} (howner : 1 < ownerPid)
    (hallowed : (acquiredLease selection options leaseId ownerPid ownerPgid
      timestamp).artifactPath.all context.paths.artifactPathAllowed = true) :
    LeaseWriteOk context world
      (acquiredLease selection options leaseId ownerPid ownerPgid timestamp) := by
  have hconfigured :
      selection.selected.hostAlias.aliasName ∈ world.store.configuredAliases := by
    rw [hcurrent.config.configuredAliases]
    exact List.mem_map_of_mem hmem
  refine ⟨htime, ?_, hallowed, hfresh.rolledBack, fun h => absurd h hfresh.spared, .inr ?_⟩
  · have hpositive : 0 < ownerPid := Nat.zero_lt_of_lt howner
    simp [acquiredLease, Lease.runtimeOwnerPid, positive?, hpositive]
  · refine ⟨fun other hother => ⟨hfree other hother, hfresh.unused other hother⟩, hconfigured,
      hfresh.drawn, hcurrent.tracks.unlatched hconfigured hhealthy, ?_, ?_⟩
    · exact fun other hother given hgiven path hpath heq =>
        hunused given hgiven other hother path hpath heq.symm
    · intro pin hpin halias
      refine hpinned pin ?_
      have hindex := hcurrent.pinned hinvariant.toConsistent hpin
      rwa [halias] at hindex

theorem safe_acquireLease {options : AcquireOptions} (hready : Ready context timestamp world) :
    Safe context (acquireLease context.paths options) (fun _ after => Settled context after)
      (fun _ after => Counted context after) world := by
  unfold acquireLease
  refine .seq (safe_now hready) (E := fun _ _ => False) (fun _ _ _ h => h.elim)
    fun now sampled hsampled => ?_
  replace hready := hsampled.2
  refine .seq (safe_acquireSelection hready) (fun _ _ _ h => h) fun selection chosen hchosen => ?_
  obtain ⟨hselected, hready⟩ := hchosen
  refine .seq (safe_randomUuid hready.drawn) (E := fun _ _ => False) (fun _ _ _ h => h.elim)
    fun leaseId drawn hdrawn => ?_
  obtain ⟨hstill, hfresh⟩ := hdrawn
  replace hselected := hselected.kept hstill.toKept
  replace hready := hready.kept hstill.toKept
  refine .seq (safe_requireContainmentRootInteger hready.counted) (fun _ _ _ h => h)
    fun ownerPid required hrequired => ?_
  obtain ⟨rfl, rfl, howner⟩ := hrequired
  refine .seq (safe_optionalContainmentGroupInteger hready.counted) (fun _ _ _ h => h)
    fun ownerPgid grouped hgrouped => ?_
  subst hgrouped
  refine .seq safe_validateRegisteredOwnerGroup
    (fun _ _ _ h => h.toKept.counted hready.counted) fun _ validated hvalidated => ?_
  replace hselected := hselected.kept hvalidated.toKept
  replace hready := hready.kept hvalidated.toKept
  replace hfresh := hfresh.kept hvalidated.toKept.butRegistry
  dsimp only
  refine .seq (safe_assertLeaseArtifactPathUnused hready.counted) (fun _ _ _ h => h)
    fun _ unused hunused => ?_
  obtain ⟨rfl, hunused⟩ := hunused
  refine .seq (safe_performSlotReclaim hselected.current hselected.settled.1 hready.counted)
    (fun _ _ _ h => h.2) fun result reclaimed hreclaimed => ?_
  obtain ⟨state, reclaim⟩ := result
  obtain ⟨registry, hstate⟩ := hreclaimed.withRegistry
  replace hfresh := hfresh.kept hreclaimed.kept
  dsimp only at hstate ⊢
  split
  · exact .throw hreclaimed.counted
  rename_i hfailures
  have hhealthy : ∀ entry,
      state.registry.aliases selection.selected.hostAlias.aliasName = some entry →
      entry.health.latched = false := by
    intro entry hentry
    by_contra hlatched
    obtain ⟨old, hold, hhealth⟩ :=
      hreclaimed.healthy (by simpa using hfailures) _ entry hentry (by simpa using hlatched)
    rw [hselected.entry, Option.some_inj] at hold
    rw [← hold, hselected.healthy] at hhealth
    simp at hhealth
  have hmem : selection.selected.hostAlias ∈ state.hostConfig.aliases := by
    rw [hstate]
    exact hselected.mem
  have hfree : ∀ other ∈ reclaimed.store.leases,
      other.aliasName ≠ selection.selected.hostAlias.aliasName := by
    refine hreclaimed.current.free ?_
    rw [hstate]
    exact hselected.free
  have hpinned : ∀ pin, state.pinsByAlias selection.selected.hostAlias.aliasName = some pin →
      leaseMatchesPin selection.project.projectId selection.purpose.id pin = true := by
    rw [hstate]
    exact hselected.pinned
  replace hunused : ∀ given ∈ options.leaseFile, ∀ other ∈ reclaimed.store.leases,
      ∀ path ∈ other.artifactPath, context.paths.canonicalPathForComparison path ≠
        context.paths.canonicalPathForComparison given := by
    intro given hgiven other hother
    have hbefore := hreclaimed.kept.leases ▸ hother
    exact hunused given hgiven other (hselected.leases.mem_iff.mpr hbefore) fun hid =>
      hfresh.unused other hother (Option.some_inj.mp hid)
  have htime : now ≤ reclaimed.outside.clock := hready.past.trans hreclaimed.kept.later.clock
  refine .assume fun hinvariant => ?_
  refine .seq (safe_commitAcquiredLease hreclaimed.current.tracks hreclaimed.counted
    hfresh.spared hfresh.rolledBack hfresh.own
    (fun other hother => ⟨hfree other hother, hfresh.unused other hother⟩)
    fun hallowed => acquiredLease_writeOk hreclaimed.current hmem hfree hhealthy hpinned hunused
      hinvariant hfresh htime howner hallowed) (fun _ _ _ h => h) fun leased committed hcommitted => ?_
  obtain ⟨hhost, hhanded, hsettled, rfl, hleased⟩ := hcommitted
  have hbound : DestructiveOk context committed
      selection.selected.hostAlias.simulatorId .resetOnAcquire :=
    (hreclaimed.current.config.of_hostConfig hhost).destructiveOk hmem
      ⟨_, hhanded.onDisk, rfl, hhanded.drawn⟩
  refine .seq (safe_handOutLease hhanded hleased hsettled hbound ?_) (fun _ _ _ h => h)
    fun _ handed hdone => ?_
  · intro entry hentry
    obtain ⟨hne, -⟩ | ⟨-, old, hold, rfl⟩ := modify_cases hentry
    · exact absurd rfl hne
    · exact hhealthy old hold
  refine .seq (safe_appendEventRecord (.refl handed) (eventOk_of_ne (by simp) (by simp)))
    (fun _ _ _ h => h.elim) fun _ appended happended => ?_
  exact .pure (happended.toKept.settled hdone)

/-- A command of one lock that leaves a settled state. -/
theorem safe_settledUnderLock {name : LockName} {work : Broker α} (hcounted : Counted context world)
    (hwork : ∀ locked, Still world locked →
      Safe context work (fun _ after => Settled context after) (fun _ after => Counted context after)
        locked) :
    Safe context (withLock name work) (fun _ after => Settled context after)
      (fun _ after => Counted context after) world :=
  safe_withLock (fun _ => stable_settled) stable_counted (fun _ _ h => h.2) hcounted hwork

theorem safe_acquireLeaseBroker {options : AcquireOptions}
    (hready : Ready context timestamp world) :
    Safe context (acquireLeaseBroker context.paths options)
      (fun _ after => Settled context after) (fun _ after => Counted context after) world :=
  safe_settledUnderLock hready.counted fun _ hlocked =>
    safe_acquireLease (hready.kept hlocked.toKept)

end SimulatorBroker.Safety
