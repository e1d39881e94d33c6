import SimulatorBroker.Broker.Delete
import SimulatorBroker.Safety.Lifecycle

/-!
# Purpose repair, alias delete and purpose delete

A delete works on the state in memory, which a failed write leaves ahead of the
files: an alias that was removed in memory may still be in the host config.
-/

namespace SimulatorBroker.Safety

open SimulatorBroker.Effects
open SimulatorBroker.State
open SimulatorBroker.Broker

variable {context : Context} {first world after : World} {timestamp : Timestamp}
  {state : BrokerState} {name : AliasName} {failed : List AliasName}

/-! ## Purpose repair -/

theorem Ready.later (hready : Ready context timestamp world)
    (hlater : world.outside.Later after.outside) (hcounted : Counted context after) :
    Ready context timestamp after :=
  ⟨hready.since, hready.past.trans hlater.clock, hready.drawn.trans hlater.nextId, hcounted⟩

theorem HostChanged.ready (hchanged : HostChanged world after)
    (hready : Ready context timestamp world) : Ready context timestamp after :=
  hready.later hchanged.later (hchanged.counted hready.counted)

theorem LoadDone.ready {skipLeaseIds : List LeaseId}
    (hdone : LoadDone context skipLeaseIds world state after)
    (hready : Ready context timestamp world) : Ready context timestamp after :=
  hready.later hdone.host.later hdone.counted

theorem safe_repairCandidate {options : PurposeOptions} {counts : PurposeCounts}
    {candidate : Candidate} (hreference : context.reference = options.reference)
    (hready : Ready context timestamp world) :
    Safe context (repairCandidate context.paths options counts candidate)
      (fun _ after => Ready context timestamp after) (fun _ _ => False) world := by
  unfold repairCandidate
  split
  · exact .pure hready
  · split
    · exact .pure hready
    · refine .catch (E := fun _ after => Ready context timestamp after) ?_
        fun error caught hcaught => ?_
      · have hok : LifecycleOk context .repair {
            aliasName := candidate.hostAlias.aliasName, reference := options.reference
            actorType := some options.actorType } := ⟨hreference, fun _ h => by cases h.forced⟩
        refine .seq (safe_runLifecycleAction hok hready).later
          (fun _ _ _ h => hready.later h.2 h.1) fun _ repaired hrepaired => ?_
        exact .pure (hready.later hrepaired.2 hrepaired.1.2)
      · split
        · exact .pure hcaught
        · exact .pure hcaught

theorem safe_repairPurposeSimulators {options : PurposeOptions}
    (hreference : context.reference = options.reference)
    (hready : Ready context timestamp world) :
    Safe context (repairPurposeSimulators context.paths options)
      (fun _ after => Counted context after) (fun _ after => Counted context after) world := by
  unfold repairPurposeSimulators
  refine .seq (E := fun _ _ => False) (safe_now hready) (fun _ _ _ h => h.elim)
    fun now started hstarted => ?_
  obtain ⟨-, hready⟩ := hstarted
  refine .seq (safe_loadBrokerState hready.counted hready.loadOk) (fun _ _ _ h => h.2)
    fun state loaded hloaded => ?_
  replace hready := hloaded.ready hready
  refine .seq (safe_read rfl (by simp)) (fun _ _ _ h => h.1.toKept.counted hready.counted)
    fun project read hread => ?_
  replace hready := hready.kept hread.2.toKept
  refine .seq (safe_getPurpose hready.counted) (fun _ _ _ h => h) fun purpose found hfound => ?_
  subst hfound
  refine .seq (E := fun _ _ => False)
    (.foldlM (P := fun _ after => Ready context now after)
      (fun _ _ after => Ready context now after)
      (fun _ _ _ _ h => safe_repairCandidate hreference h) (fun _ _ _ h => h) _ _ hready)
    (fun _ _ _ h => h.elim) fun counts repaired hrepaired => ?_
  split
  · exact .throw hrepaired.counted
  · split
    · exact .throw hrepaired.counted
    · exact .pure hrepaired.counted

/-- A command of one lock that leaves exact counts. -/
theorem safe_repairPurposeSimulatorsBroker {options : PurposeOptions}
    (hreference : context.reference = options.reference)
    (hready : Ready context timestamp world) :
    Safe context (repairPurposeSimulatorsBroker context.paths options)
      (fun _ after => Counted context after) (fun _ after => Counted context after) world :=
  safe_countedUnderLock hready.counted fun _ hcapacity =>
    safe_countedUnderLock (hready.kept hcapacity.toKept).counted fun _ hlease =>
      safe_repairPurposeSimulators hreference (hready.kept (hcapacity.trans hlease).toKept)

/-! ## The state of a delete -/

/-- The alias is deleted for a recorded cause, and is unhealthy in the registry in memory. -/
structure Doomed (state : BrokerState) (failed : List AliasName) (world : World)
    (name : AliasName) : Prop where
  cause : (world.ledger.cause name).isSome
  unfailed : name ∉ failed
  latched : ∃ entry, state.registry.aliases name = some entry ∧ entry.health.latched = true

/-- The state in memory: its aliases are among those on disk, no lease and no pin
stands on another one, and its registry tracks the files.  An alias on disk that it lacks
was deleted where the write of the host config failed. -/
structure Editing (context : Context) (state : BrokerState) (failed : List AliasName)
    (world : World) : Prop where
  config : ∃ disk, ReadConfig world disk ∧ ∀ hostAlias ∈ state.hostConfig.aliases,
    hostAlias ∈ disk.aliases
  valid : state.hostConfig.Valid
  writable : HostWriteOk context world state.hostConfig
  dropped : context.causeOnly = true → ∀ name ∈ world.store.configuredAliases,
    name ∉ state.hostConfig.aliasNames → Doomed state failed world name
  tracks : Tracks context world state.registry { failed }
  byAlias : state.leasesByAlias = holder world
  pins : state.pins.Perm world.store.pins
  byPin : state.pinsByAlias = indexPins state.pins
  settled : Settled context world

/-- More failures may be noted. -/
theorem Tracks.withFailed {registry : Registry} {noted more : List AliasName}
    (htracks : Tracks context world registry { failed := noted })
    (hmore : ∀ other ∈ noted, other ∈ more) :
    Tracks context world registry { failed := more } where
  latched := htracks.latched
  cause other entry code hentry hcode := by
    obtain ⟨hlatched, hcause⟩ := htracks.cause other entry code hentry hcode
    exact ⟨hlatched, hcause.imp_left (hmore other)⟩
  present := htracks.present
  active := htracks.active
  gone := htracks.gone
  tallied := htracks.tallied

theorem Current.editing (hcurrent : Current context state world) (hsettled : Settled context world)
    (hinvariant : Invariant context world) : Editing context state [] world where
  config := ⟨state.hostConfig, hcurrent.config, fun _ h => h⟩
  valid := hcurrent.config.valid
  writable := hostWriteOk_of_aliasNames hinvariant.toConsistent hcurrent.config rfl
    (hcurrent.config.drawn hinvariant.toConsistent)
  dropped _ _ hname hdropped :=
    absurd (hcurrent.config.configuredAliases ▸ hname) hdropped
  tracks := hcurrent.tracks
  byAlias := hcurrent.byAlias
  pins := hcurrent.pins
  byPin := hcurrent.byPin
  settled := hsettled

theorem Doomed.of_ledger (hledger : after.ledger = world.ledger)
    (hdoomed : Doomed state failed world name) : Doomed state failed after name :=
  ⟨hledger ▸ hdoomed.cause, hdoomed.unfailed, hdoomed.latched⟩

theorem Editing.kept (hkept : Kept world after) (hediting : Editing context state failed world) :
    Editing context state failed after where
  config := by
    obtain ⟨disk, hread, hsubset⟩ := hediting.config
    exact ⟨disk, hread.kept hkept, hsubset⟩
  valid := hediting.valid
  writable := hkept.hostWriteOk hediting.writable
  dropped hcauseOnly name hname hdropped :=
    (hediting.dropped hcauseOnly name (hkept.configuredAliases ▸ hname) hdropped).of_ledger
      hkept.ledger
  tracks := hediting.tracks.kept hkept
  byAlias := hkept.holder ▸ hediting.byAlias
  pins := hkept.pins ▸ hediting.pins
  byPin := hediting.byPin
  settled := hkept.settled hediting.settled

/-- An alias without a lease in the index has none on disk. -/
theorem Editing.free (hediting : Editing context state failed world)
    (hlease : state.leasesByAlias name = none) :
    ∀ lease ∈ world.store.leases, lease.aliasName ≠ name := by
  rw [hediting.byAlias] at hlease
  exact holder_eq_none.mp hlease

theorem Editing.unpinned (hediting : Editing context state failed world)
    (hpin : state.pinsByAlias name = none) : Unpinned world name := by
  intro pin hmem halias
  rw [hediting.byPin] at hpin
  have habsent := List.find?_eq_none.mp hpin pin
    (List.mem_reverse.mpr (hediting.pins.mem_iff.mpr hmem))
  simp [halias] at habsent

/-! ## Removing an alias -/

theorem Valid.removeAlias {config : HostConfig} (hvalid : config.Valid) (name : AliasName) :
    (removeAlias config name).Valid :=
  ⟨hvalid.1.sublist (List.filter_sublist.map _), hvalid.2.1.sublist (List.filter_sublist.map _),
    fun hostAlias hmem => hvalid.2.2.1 hostAlias (List.mem_of_mem_filter hmem), hvalid.2.2.2⟩

theorem mem_aliasNames_removeAlias {config : HostConfig} {other : AliasName} :
    other ∈ (removeAlias config name).aliasNames ↔ other ∈ config.aliasNames ∧ other ≠ name := by
  simp only [removeAlias, HostConfig.aliasNames, List.mem_map, List.mem_filter, decide_eq_true_eq]
  constructor
  · rintro ⟨hostAlias, ⟨hmem, hne⟩, rfl⟩
    exact ⟨⟨hostAlias, hmem, rfl⟩, hne⟩
  · rintro ⟨⟨hostAlias, hmem, rfl⟩, hne⟩
    exact ⟨hostAlias, ⟨hmem, hne⟩, rfl⟩

theorem Editing.removeOk (hediting : Editing context state failed world)
    (hfree : ∀ lease ∈ world.store.leases, lease.aliasName ≠ name)
    (hunpinned : Unpinned world name)
    (hdoomed : context.causeOnly = true → Doomed state failed world name) :
    HostWriteOk context world (removeAlias state.hostConfig name) where
  drawn simulatorId hmem := by
    obtain ⟨hostAlias, hbound, rfl⟩ := List.mem_map.mp hmem
    exact hediting.writable.drawn _ (List.mem_map_of_mem (List.mem_of_mem_filter hbound))
  leases lease hlease :=
    mem_aliasNames_removeAlias.mpr ⟨hediting.writable.leases lease hlease, hfree lease hlease⟩
  pins pin hpin :=
    mem_aliasNames_removeAlias.mpr ⟨hediting.writable.pins pin hpin, hunpinned pin hpin⟩
  caused hcauseOnly other hother hdropped := by
    by_cases hsame : other = name
    · exact hsame ▸ (hdoomed hcauseOnly).cause
    · exact (hediting.dropped hcauseOnly other hother fun hmem =>
        hdropped (mem_aliasNames_removeAlias.mpr ⟨hmem, hsame⟩)).cause

/-- A written config is read as it is, its retirements without duplicates. -/
theorem readConfig_of_written {config : HostConfig}
    (hwritten : Written (.hostConfig config) world after) (hvalid : config.Valid) :
    ReadConfig after { config with pendingRetirements := config.pendingRetirements.dedup } :=
  ⟨config, hwritten.hostConfig, hvalid, rfl⟩

/-- The alias is gone in memory, whether or not the write of the config failed. -/
theorem Editing.withoutAlias (hediting : Editing context state failed world)
    (hfree : ∀ lease ∈ world.store.leases, lease.aliasName ≠ name)
    (hunpinned : Unpinned world name)
    (hdoomed : context.causeOnly = true → Doomed state failed world name)
    (hwritten : Still world after ∨
      Written (.hostConfig (removeAlias state.hostConfig name)) world after) :
    Editing context (state.withoutAlias name) failed after := by
  obtain ⟨disk, hread, hsubset⟩ := hediting.config
  have hvalid := Valid.removeAlias hediting.valid name
  have hnames : ∀ other ∈ (removeAlias state.hostConfig name).aliasNames,
      other ∈ world.store.configuredAliases := by
    intro other hother
    obtain ⟨hostAlias, hmem, rfl⟩ := List.mem_map.mp hother
    rw [hread.configuredAliases]
    exact List.mem_map_of_mem (hsubset hostAlias (List.mem_of_mem_filter hmem))
  have hrehosted : Rehosted world after := by
    obtain hstill | hwritten := hwritten
    · exact hstill.rehosted
    · exact rehosted_of_written hwritten hnames
  have hok := hediting.removeOk hfree hunpinned hdoomed
  refine ⟨?_, hvalid, ?_, ?_, hrehosted.tracks hediting.tracks, ?_, ?_, hediting.byPin, ?_⟩
  · obtain hstill | hwritten := hwritten
    · exact ⟨disk, hread.kept hstill.toKept, fun hostAlias hmem =>
        hsubset hostAlias (List.mem_of_mem_filter hmem)⟩
    · exact ⟨_, readConfig_of_written hwritten hvalid, fun _ h => h⟩
  · obtain hstill | hwritten := hwritten
    · exact hstill.toKept.hostWriteOk hok
    · exact hwritten.hostWriteOk hok _
  · intro hcauseOnly other hother hdropped
    obtain hstill | hwritten := hwritten
    · rw [hstill.configuredAliases] at hother
      by_cases hsame : other = name
      · subst hsame
        exact ⟨hstill.ledger ▸ (hdoomed hcauseOnly).cause, (hdoomed hcauseOnly).unfailed,
          (hdoomed hcauseOnly).latched⟩
      · obtain ⟨hcause, hunfailed, hlatched⟩ := hediting.dropped hcauseOnly other hother
          fun hmem => hdropped (mem_aliasNames_removeAlias.mpr ⟨hmem, hsame⟩)
        exact ⟨hstill.ledger ▸ hcause, hunfailed, hlatched⟩
    · rw [Store.configuredAliases, hwritten.hostConfig] at hother
      exact absurd hother hdropped
  · rw [hrehosted.holder]
    exact hediting.byAlias
  · rw [hrehosted.pins]
    exact hediting.pins
  · exact ⟨hrehosted.agree hediting.settled.1, hrehosted.counted hediting.settled.2⟩

/-- The entry of an alias that is not configured may go. -/
theorem Tracks.removed {registry : Registry} {note : RegistryNote}
    (htracks : Tracks context world registry note) (hname : name ∉ world.store.configuredAliases) :
    Tracks context world (registry.remove name) note := by
  have hentries : ∀ other entry, (registry.remove name).aliases other = some entry →
      registry.aliases other = some entry := by
    intro other entry hentry
    simp only [Registry.remove] at hentry
    split at hentry
    · cases hentry
    · exact hentry
  have hothers : ∀ other ∈ world.store.configuredAliases,
      (registry.remove name).aliases other = registry.aliases other := by
    intro other hother
    have hne : other ≠ name := fun heq => hname (heq ▸ hother)
    simp [Registry.remove, hne]
  refine ⟨?_, ?_, ?_, ?_, htracks.gone, ?_⟩
  · intro other hother
    rw [hothers other hother]
    exact htracks.latched other hother
  · exact fun other entry code hentry => htracks.cause other entry code (hentries other entry hentry)
  · intro other hother
    rw [hothers other hother]
    exact htracks.present other hother
  · exact fun other entry hentry => htracks.active other entry (hentries other entry hentry)
  · exact fun hrecords other entry hentry =>
      htracks.tallied hrecords other entry (hentries other entry hentry)

/-- Nothing in memory speaks of a deleted alias any more. -/
theorem Editing.forgetAlias (hediting : Editing context state failed world)
    (timestamp : Timestamp)
    (hname : name ∉ world.store.configuredAliases)
    (hlease : state.leasesByAlias name = none) (hpin : state.pinsByAlias name = none) :
    Editing context (state.forgetAlias name timestamp) failed world where
  config := hediting.config
  valid := hediting.valid
  writable := hediting.writable
  dropped hcauseOnly other hother hdropped := by
    obtain ⟨hcause, hunfailed, entry, hentry, hlatched⟩ :=
      hediting.dropped hcauseOnly other hother hdropped
    have hne : other ≠ name := fun hsame => hname (hsame ▸ hother)
    refine ⟨hcause, hunfailed, entry, ?_, hlatched⟩
    simpa [BrokerState.forgetAlias, Registry.remove, Registry.touch, hne] using hentry
  tracks := (hediting.tracks.removed hname).touch timestamp
  byAlias := by
    rw [← hediting.byAlias]
    funext other
    simp only [BrokerState.forgetAlias]
    split
    · rename_i hother
      rw [hother, hlease]
    · rfl
  pins := hediting.pins
  byPin := by
    rw [show (state.forgetAlias name timestamp).pins = state.pins from rfl, ← hediting.byPin]
    funext other
    simp only [BrokerState.forgetAlias]
    split
    · rename_i hother
      rw [hother, hpin]
    · rfl
  settled := hediting.settled

/-- A written registry keeps the cause of an alias that is unhealthy in it. -/
theorem Editing.droppedWritten (hediting : Editing context state failed world)
    (hwritten : RegistryWritten state.registry { failed } world after)
    (hcauseOnly : context.causeOnly = true) (other : AliasName)
    (hother : other ∈ after.store.configuredAliases)
    (hdropped : other ∉ state.hostConfig.aliasNames) : Doomed state failed after other := by
  obtain ⟨hcause, hunfailed, entry, hentry, hlatched⟩ :=
    hediting.dropped hcauseOnly other (hwritten.configuredAliases ▸ hother) hdropped
  refine ⟨?_, hunfailed, entry, hentry, hlatched⟩
  rw [hwritten.ledger]
  simpa [BrokerOp.effect, Ledger.registryWritten, hunfailed, hentry, hlatched] using hcause

/-- The registry in memory was written, or the write failed. -/
theorem Editing.written (hediting : Editing context state failed world)
    (hwritten : RegistryWritten state.registry { failed } world after) :
    Editing context state failed after where
  config := by
    obtain ⟨disk, hread, hsubset⟩ := hediting.config
    exact ⟨disk, hread.of_hostConfig hwritten.hostConfig, hsubset⟩
  valid := hediting.valid
  writable := ⟨fun simulatorId hmem =>
      (hediting.writable.drawn simulatorId hmem).trans_le hwritten.later.nextDevice,
    hwritten.leases ▸ hediting.writable.leases, hwritten.pins ▸ hediting.writable.pins,
    fun hcauseOnly other hother hdropped =>
      (hediting.droppedWritten hwritten hcauseOnly other hother hdropped).cause⟩
  dropped := hediting.droppedWritten hwritten
  tracks := (hediting.tracks.written hwritten).withFailed (by simp)
  byAlias := hwritten.holder ▸ hediting.byAlias
  pins := hwritten.pins ▸ hediting.pins
  byPin := hediting.byPin
  settled := ⟨hediting.tracks.agree hwritten, hediting.tracks.counted hwritten⟩

/-! ## The delete -/

/-- What a delete of the alias leaves: the other entries are as they were. -/
structure Deleted (context : Context) (state : BrokerState) (failed : List AliasName)
    (name : AliasName) (outcome : DeleteOutcome) (world : World) : Prop where
  editing : Editing context outcome.state outcome.failed world
  failed : ∀ other ∈ outcome.failed, other = name ∨ other ∈ failed
  others : ∀ other, other ≠ name → outcome.state.entry other = state.entry other

theorem Editing.deleted (hediting : Editing context state failed world)
    (result : Except BrokerError Bool) :
    Deleted context state failed name { state, failed, result } world :=
  ⟨hediting, fun _ h => .inr h, fun _ _ => rfl⟩

/-- The write of the registry in memory, its error kept. -/
theorem safe_writeEdited (hediting : Editing context state failed world) :
    Safe context (writeRegistry state.registry { failed }).attempt
      (fun _ after => Editing context state failed after) (fun _ _ => False) world := by
  refine .attempt ((safe_writeTracked hediting.tracks).weaken ?_ ?_)
  · exact fun _ _ _ hwritten => hediting.written hwritten
  · rintro error after - ⟨-, hkept | hwritten⟩
    · exact hediting.kept hkept
    · exact hediting.written hwritten

/-- The host configuration is written, or what failed may have written it. -/
def WrittenOrFailed (file : FileWrite) (world : World) :
    Except BrokerError Unit → World → Prop
  | .ok _, after => Written file world after
  | .error _, after => Still world after ∨ Written file world after

theorem safe_removeDeletedAliasRecords (hediting : Editing context state failed world)
    (hlease : state.leasesByAlias name = none) (hpin : state.pinsByAlias name = none)
    (hdoomed : context.causeOnly = true → Doomed state failed world name) :
    Safe context (removeDeletedAliasRecords state name failed timestamp)
      (fun outcome after => Deleted context state failed name outcome after)
      (fun _ _ => False) world := by
  have hfree := hediting.free hlease
  have hunpinned := hediting.unpinned hpin
  have hok : StepOk context (.rename (.hostConfig (removeAlias state.hostConfig name))) world :=
    hediting.removeOk hfree hunpinned hdoomed
  unfold removeDeletedAliasRecords
  dsimp only
  refine .seq (E := fun _ _ => False)
    (M := WrittenOrFailed (.hostConfig (removeAlias state.hostConfig name)) world)
    (.attempt ((safe_writeJsonAtomicRestricted hok).weaken (fun _ _ _ h => h) fun _ _ _ h => h.2))
    (fun _ _ _ h => h.elim) fun outcome rehosted hrehosted => ?_
  cases outcome with
  | error error =>
      have hremoved := hediting.withoutAlias hfree hunpinned hdoomed hrehosted
      exact .pure ⟨hremoved, fun _ h => .inr h, fun _ _ => rfl⟩
  | ok value =>
      have hremoved := hediting.withoutAlias hfree hunpinned hdoomed (.inr hrehosted)
      have hname : name ∉ rehosted.store.configuredAliases := by
        rw [Store.configuredAliases, Kept.hostConfig hrehosted.toKept]
        exact fun hmem => (mem_aliasNames_removeAlias.mp hmem).2 rfl
      have hforgotten := hremoved.forgetAlias timestamp hname hlease hpin
      have hothers : ∀ other, other ≠ name →
          ((state.withoutAlias name).forgetAlias name timestamp).entry other = state.entry other := by
        intro other hne
        simp [BrokerState.entry, BrokerState.forgetAlias, BrokerState.withoutAlias, Registry.remove,
          Registry.touch, hne]
      refine .seq (safe_writeEdited hforgotten) (fun _ _ _ h => h) fun outcome written hwritten => ?_
      cases outcome with
      | error error => exact .pure ⟨hwritten, fun _ h => .inr h, hothers⟩
      | ok value =>
          refine .seq (safe_appendEventRecord (.refl written) (eventOk_of_ne (by simp) (by simp)))
            (fun _ _ _ h => h) fun _ appended happended => ?_
          exact .pure ⟨hwritten.kept happended.toKept, fun _ h => .inr h, hothers⟩

/-- The alias is unhealthy in memory, with the cause of the failure. -/
theorem Editing.deleteFailed (hediting : Editing context state failed world)
    (hname : name ∈ state.hostConfig.aliasNames) (failure : BrokerError) (timestamp : Timestamp) :
    Editing context (state.withRegistry ((state.registry.modify name
      (deleteFailedEntry failure timestamp)).touch timestamp)) (name :: failed) world := by
  have hgrows : NoteGrows { failed } { failed := name :: failed } name :=
    ⟨fun _ h => h, fun _ h => List.mem_cons_of_mem _ h, fun h => h, fun _ _ => Iff.rfl⟩
  refine ⟨hediting.config, hediting.valid, hediting.writable, ?_,
    (hediting.tracks.modify hgrows fun entry _ _ => ?_).touch timestamp, hediting.byAlias,
    hediting.pins, hediting.byPin, hediting.settled⟩
  · intro hcauseOnly other hother hdropped
    obtain ⟨hcause, hunfailed, entry, hentry, hlatched⟩ :=
      hediting.dropped hcauseOnly other hother hdropped
    have hne : other ≠ name := fun hsame => hdropped (hsame ▸ hname)
    refine ⟨hcause, List.not_mem_cons_of_ne_of_not_mem hne hunfailed, entry, ?_, hlatched⟩
    exact (Registry.modify_aliases_of_ne state.registry _ hne).trans hentry
  exact ⟨rfl, fun _ => .inr rfl, fun _ _ => ⟨rfl, .inl List.mem_cons_self⟩, .inr ⟨rfl, by simp⟩, rfl⟩

theorem safe_failedDelete {error : BrokerError} (hediting : Editing context state failed world)
    (hname : name ∈ state.hostConfig.aliasNames) :
    Safe context (failedDelete state name failed timestamp error)
      (fun outcome after => Deleted context state failed name outcome after)
      (fun _ _ => False) world := by
  unfold failedDelete
  dsimp only
  generalize (if error.isBrokerError = true then error
    else BrokerError.broker .simulatorActionFailed error.text) = failure
  have hfailed := hediting.deleteFailed hname failure timestamp
  have hothers : ∀ other, other ≠ name →
      (state.withRegistry ((state.registry.modify name
        (deleteFailedEntry failure timestamp)).touch timestamp)).entry other =
        state.entry other := by
    intro other hne
    exact Registry.modify_aliases_of_ne state.registry _ hne
  have hnoted : ∀ other ∈ name :: failed, other = name ∨ other ∈ failed :=
    fun other hother => List.mem_cons.mp hother
  refine .seq (M := fun _ after => Editing context (state.withRegistry ((state.registry.modify name
      (deleteFailedEntry failure timestamp)).touch timestamp)) (name :: failed) after)
    (E := fun _ _ => False) (.attempt ?_) (fun _ _ _ h => h.elim) fun outcome persisted hpersisted => ?_
  · unfold persistDeleteFailure
    refine .seq (M := fun _ after => Editing context (state.withRegistry ((state.registry.modify name
        (deleteFailedEntry failure timestamp)).touch timestamp)) (name :: failed) after)
      ((safe_writeTracked hfailed.tracks).weaken (fun _ _ _ hwritten => hfailed.written hwritten)
        (fun _ _ _ h => h)) ?_ fun _ written hwritten => ?_
    · rintro error after - ⟨-, hkept | hwritten⟩
      · exact hfailed.kept hkept
      · exact hfailed.written hwritten
    · refine .seq (safe_appendEventRecord (.refl written) (eventOk_of_ne (by simp) (by simp)))
        (fun _ _ _ h => h.elim) fun _ appended happended => ?_
      exact .pure (hwritten.kept happended.toKept)
  · cases outcome with
    | error error => exact .pure ⟨hpersisted, hnoted, hothers⟩
    | ok value => exact .pure ⟨hpersisted, hnoted, hothers⟩

theorem safe_assertAliasCanBeDeleted :
    Safe context (assertAliasCanBeDeleted state name)
      (fun _ after => after = world ∧ state.leasesByAlias name = none ∧
        state.pinsByAlias name = none)
      (fun _ after => after = world) world := by
  unfold assertAliasCanBeDeleted
  dsimp only
  split
  · exact .throw (E := fun _ after => after = world) rfl
  split
  · exact .throw (E := fun _ after => after = world) rfl
  rename_i hlease
  split
  · exact .throw (E := fun _ after => after = world) rfl
  rename_i hpin
  exact .pure ⟨rfl, by simpa using hlease, by simpa using hpin⟩

theorem safe_deleteAliasUnderHeldLocks (hediting : Editing context state failed world)
    (hdoomed : context.causeOnly = true → Doomed state failed world name) :
    Safe context (deleteAliasUnderHeldLocks state name failed timestamp)
      (fun outcome after => Deleted context state failed name outcome after)
      (fun _ _ => False) world := by
  unfold deleteAliasUnderHeldLocks
  cases hfind : state.hostConfig.find name with
  | none => exact .pure (hediting.deleted _)
  | some hostAlias =>
      have hmem := List.mem_of_find?_eq_some hfind
      have hname : hostAlias.aliasName = name := by simpa using List.find?_some hfind
      refine .seq (M := fun outcome after => after = world ∧ ∀ value, outcome = .ok value →
          state.leasesByAlias name = none ∧ state.pinsByAlias name = none)
        (E := fun _ _ => False)
        (.attempt (safe_assertAliasCanBeDeleted.weaken (fun _ _ _ h => ⟨h.1, fun _ _ => h.2⟩)
          fun _ _ _ h => ⟨h, by simp⟩))
        (fun _ _ _ h => h.elim) fun outcome asserted hasserted => ?_
      obtain ⟨rfl, hfree⟩ := hasserted
      cases outcome with
      | error error => exact .pure (hediting.deleted _)
      | ok value =>
          obtain ⟨hlease, hpin⟩ := hfree value rfl
          refine .seq (M := fun _ after => Still asserted after) (E := fun _ _ => False)
            (.attempt (safe_readSimctlInventory.weaken (fun _ _ _ h => h.1) fun _ _ _ h => h.1))
            (fun _ _ _ h => h.elim) fun outcome listed hlisted => ?_
          replace hediting := hediting.kept hlisted.toKept
          replace hdoomed := fun hcauseOnly => (hdoomed hcauseOnly).of_ledger hlisted.ledger
          cases outcome with
          | error error => exact .pure (hediting.deleted _)
          | ok inventory =>
              dsimp only
              split
              · have hok : DestructiveOk context listed hostAlias.simulatorId .delete := by
                  obtain ⟨disk, hread, hsubset⟩ := hediting.config
                  refine hread.destructiveOk (hsubset hostAlias hmem) ?_
                  rw [← hname] at hlease hpin hdoomed
                  exact ⟨inactive_of_free (hediting.free hlease), hediting.unpinned hpin,
                    fun hcauseOnly => (hdoomed hcauseOnly).cause⟩
                refine .seq (M := fun _ after => Still listed after) (E := fun _ _ => False)
                  (.attempt (safe_deleteAliasSimulator hok)) (fun _ _ _ h => h.elim)
                  fun outcome deleted hdeleted => ?_
                replace hediting := hediting.kept hdeleted.toKept
                replace hdoomed := fun hcauseOnly => (hdoomed hcauseOnly).of_ledger hdeleted.ledger
                cases outcome with
                | ok value => exact safe_removeDeletedAliasRecords hediting hlease hpin hdoomed
                | error error =>
                    exact safe_failedDelete hediting (hname ▸ List.mem_map_of_mem hmem)
              · exact safe_removeDeletedAliasRecords hediting hlease hpin hdoomed

theorem safe_deleteSimulator (hready : Ready context timestamp world)
    (hcause : context.causeOnly = false) :
    Safe context (deleteSimulator context.paths name) (fun _ after => Settled context after)
      (fun _ after => Counted context after) world := by
  unfold deleteSimulator
  refine .seq (E := fun _ _ => False) (safe_now hready) (fun _ _ _ h => h.elim)
    fun timestamp started hstarted => ?_
  replace hready := hstarted.2
  refine .seq (safe_loadBrokerState hready.counted hready.loadOk) (fun _ _ _ h => h.2)
    fun state loaded hloaded => ?_
  refine .assume fun hinvariant => ?_
  have hediting := hloaded.loaded.toCurrent.editing hloaded.settled hinvariant
  refine .seq (safe_deleteAliasUnderHeldLocks hediting (by simp [hcause])) (fun _ _ _ h => h.elim)
    fun outcome deleted hdeleted => ?_
  cases outcome.result with
  | ok value => exact .pure hdeleted.editing.settled
  | error error => exact .throw hdeleted.editing.settled.2

theorem safe_deleteSimulatorBroker (hready : Ready context timestamp world)
    (hcause : context.causeOnly = false) :
    Safe context (deleteSimulatorBroker context.paths name) (fun _ after => Settled context after)
      (fun _ after => Counted context after) world :=
  safe_settledUnderLock hready.counted fun _ hcapacity =>
    safe_settledUnderLock (hready.kept hcapacity.toKept).counted fun _ hlease =>
      safe_deleteSimulator (hready.kept (hcapacity.trans hlease).toKept) hcause

/-! ## Purpose delete -/

/-- The candidates are aliases of the config, in its order. -/
theorem buildCandidateAnalysis_hostAliases (state : BrokerState) (purpose : Purpose)
    (project : ProjectConfig) (explicitAlias : Option AliasName) :
    ((buildCandidateAnalysis state purpose project explicitAlias).map (·.hostAlias)).Sublist
      state.hostConfig.aliases := by
  unfold buildCandidateAnalysis
  generalize state.hostConfig.aliases = aliases
  generalize 0 = index
  induction aliases generalizing index with
  | nil => exact .slnil
  | cons hostAlias rest ih =>
      rw [List.zipIdx_cons, List.filterMap_cons]
      cases hentry : state.entry hostAlias.aliasName with
      | none =>
          simp only [hentry, Option.map_none]
          exact (ih (index + 1)).cons hostAlias
      | some entry =>
          simp only [hentry, Option.map_some, List.map_cons]
          exact (ih (index + 1)).cons_cons hostAlias

/-- No alias is a candidate twice. -/
theorem structuralCandidates_nodup {purpose : Purpose} {project : ProjectConfig}
    (hvalid : state.hostConfig.Valid) :
    ((structuralCandidates locale state purpose project).map (·.hostAlias.aliasName)).Nodup := by
  have hanalysis := (buildCandidateAnalysis_hostAliases state purpose project none).map
    (·.aliasName)
  rw [List.map_map] at hanalysis
  have hnodup := hvalid.names.sublist hanalysis
  exact ((List.perm_insertionSort _ _).map _).nodup_iff.mpr (nodup_map_filter hnodup)

/-- Between two turns: the candidates to come have no failed delete. -/
structure Deleting (context : Context) (rest : List Candidate) (progress : DeleteProgress)
    (world : World) : Prop where
  editing : Editing context progress.state progress.failed world
  nodup : (rest.map (·.hostAlias.aliasName)).Nodup
  fresh : ∀ candidate ∈ rest, candidate.hostAlias.aliasName ∉ progress.failed

/-- An alias that is deleted for its cause has one. -/
theorem Editing.doomed (hediting : Editing context state failed world) (hname : name ∉ failed)
    (htriggered : (state.entry name).any deleteTriggered = true) :
    Doomed state failed world name := by
  obtain ⟨entry, hentry, htriggered⟩ := (Option.any_eq_true _ _).mp htriggered
  unfold deleteTriggered at htriggered
  rw [Bool.and_eq_true, decide_eq_true_eq] at htriggered
  have hlatched : entry.health.latched = true := by
    rw [htriggered.1]
    rfl
  obtain ⟨code, hcode, -⟩ := (Option.any_eq_true _ _).mp htriggered.2
  have hdrift : ∃ other, entry.driftCauseCode = some other := by
    cases hcause : entry.driftCauseCode with
    | none => simp [knownDriftCauseCode, hcause] at hcode
    | some other => exact ⟨other, rfl⟩
  obtain ⟨other, hother⟩ := hdrift
  obtain ⟨-, hnoted | hledger⟩ := hediting.tracks.cause name entry other hentry hother
  · exact absurd hnoted hname
  · exact ⟨by simp [hledger], hname, entry, hentry, hlatched⟩

theorem safe_deleteCandidate {rest : List Candidate} {candidate : Candidate}
    {progress : DeleteProgress} (hdeleting : Deleting context (candidate :: rest) progress world) :
    Safe context (deleteCandidate timestamp progress candidate)
      (fun progress' after => Deleting context rest progress' after) (fun _ _ => False) world := by
  obtain ⟨hediting, hnodup, hfresh⟩ := hdeleting
  rw [List.map_cons, List.nodup_cons] at hnodup
  have hrest : ∀ other ∈ rest, other.hostAlias.aliasName ∉ progress.failed :=
    fun other hother => hfresh other (List.mem_cons_of_mem _ hother)
  unfold deleteCandidate
  dsimp only
  split
  · rename_i htriggered
    split
    · exact .pure ⟨hediting, hnodup.2, hrest⟩
    · refine .seq (safe_deleteAliasUnderHeldLocks hediting fun _ =>
        hediting.doomed (hfresh candidate List.mem_cons_self) htriggered) (fun _ _ _ h => h)
        fun outcome deleted hdeleted => ?_
      refine .pure ⟨hdeleted.editing, hnodup.2, fun other hother hnoted => ?_⟩
      obtain hsame | hbefore := hdeleted.failed _ hnoted
      · exact hnodup.1 (hsame ▸ List.mem_map_of_mem (f := (·.hostAlias.aliasName)) hother)
      · exact hrest other hother hbefore
  · exact .pure ⟨hediting, hnodup.2, hrest⟩

theorem safe_deletePurposeSimulators {purposeId : PurposeId}
    (hready : Ready context timestamp world) :
    Safe context (deletePurposeSimulators context.paths purposeId)
      (fun _ after => Settled context after) (fun _ after => Counted context after) world := by
  unfold deletePurposeSimulators
  refine .seq (E := fun _ _ => False) (safe_now hready) (fun _ _ _ h => h.elim)
    fun timestamp started hstarted => ?_
  replace hready := hstarted.2
  refine .seq (safe_loadBrokerState hready.counted hready.loadOk) (fun _ _ _ h => h.2)
    fun state loaded hloaded => ?_
  refine .seq (safe_read rfl (by simp)) (fun _ _ _ h => h.1.toKept.counted hloaded.counted)
    fun project read hread => ?_
  have hsettled := hread.2.toKept.settled hloaded.settled
  refine .seq (safe_getPurpose hsettled.2) (fun _ _ _ h => h) fun purpose found hfound => ?_
  subst hfound
  refine .assume fun hinvariant => ?_
  have hcurrent := hloaded.loaded.toCurrent.kept hread.2.toKept
  have hdeleting : Deleting context (structuralCandidates context.paths.locale state purpose project)
      { state } found :=
    ⟨hcurrent.editing hsettled hinvariant, structuralCandidates_nodup hcurrent.config.valid,
      by simp⟩
  refine .seq (E := fun _ _ => False)
    (.foldlM (P := fun _ after => Settled context after) (Deleting context)
      (fun _ _ _ _ h => safe_deleteCandidate h) (fun _ _ _ h => h.editing.settled) _ _ hdeleting)
    (fun _ _ _ h => h.elim) fun progress deleted hdeleted => ?_
  dsimp only
  split
  · exact .throw hdeleted.2
  · split
    · exact .throw hdeleted.2
    · exact .pure hdeleted

theorem safe_deletePurposeSimulatorsBroker {purposeId : PurposeId}
    (hready : Ready context timestamp world) :
    Safe context (deletePurposeSimulatorsBroker context.paths purposeId)
      (fun _ after => Settled context after) (fun _ after => Counted context after) world :=
  safe_settledUnderLock hready.counted fun _ hcapacity =>
    safe_settledUnderLock (hready.kept hcapacity.toKept).counted fun _ hlease =>
      safe_deletePurposeSimulators (hready.kept (hcapacity.trans hlease).toKept)

end SimulatorBroker.Safety
