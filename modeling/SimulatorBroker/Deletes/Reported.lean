import SimulatorBroker.Broker.Loading
import SimulatorBroker.Deletes.Turns
import SimulatorBroker.Runs.System

/-!
# What a purpose delete reports

In every call that completes the record of each deletion it has begun, the aliases counted
as deleted are those that left the host config.
-/

namespace SimulatorBroker.Deletes

open SimulatorBroker.Effects
open SimulatorBroker.State
open SimulatorBroker.Broker

variable {project : ProjectConfig} {purposeId : PurposeId} {first : Records}
  {original : HostConfig} {loaded : BrokerState} {world : World} {state : BrokerState}
  {name : AliasName} {timestamp : Timestamp} {failed : List AliasName}

/-! ## One alias -/

/-- How the delete of one alias ends. -/
def TurnOutcome (first : Records) (state : BrokerState) (now : Records) (name : AliasName)
    (outcome : DeleteOutcome) (after : Records) : Prop :=
  match outcome.result with
  | .ok _ => DeletedTurn first state now name outcome.state after
  | .error _ => FailedTurn state now name outcome.state after

/-- The alias is about to leave the host config, and no event says so. -/
structure Leaving (first now : Records) (state : BrokerState) (name : AliasName) : Prop where
  configured : name ∈ first.configuredAliases
  silent : ∀ event ∈ first.eventsSince now, eventOf .simulatorDeleted name event = false

/-- Nothing was written. -/
theorem failedTurn_same (now : Records) (state : BrokerState) (name : AliasName) :
    FailedTurn state now name state now where
  hostConfig := rfl
  aliases := .inl rfl
  entries _ _ := rfl
  entry := id
  registry := .inl rfl
  events := .inl rfl

theorem Leaving.unreported {now : Records} (hleaving : Leaving first now state name)
    (registry : Option Registry) : Unreported first
      { now with hostConfig := some (removeAlias state.hostConfig name), registry } name := by
  refine ⟨hleaving.configured, ?_, hleaving.silent⟩
  simp only [Records.configuredAliases, Option.map_some, Option.getD_some]
  exact fun hmem => (Safety.mem_aliasNames_removeAlias.mp hmem).2 rfl

theorem wp_removeDeletedAliasRecords (hleaving : Leaving first (recordsOf world) state name) :
    wp (completingHandler project first) (ChangesMatches project purposeId first)
      (removeDeletedAliasRecords state name failed timestamp)
      (fun outcome after => TurnOutcome first state (recordsOf world) name outcome (recordsOf after))
      (fun _ _ => False) world := by
  have hunguarded := unguarded_changesMatches project purposeId first
  unfold removeDeletedAliasRecords
  dsimp only
  refine (wp_bind _ _).mpr ((wp_attempt _).mpr ?_)
  refine (wp_replace (W := { recordsOf world with
    hostConfig := some (removeAlias state.hostConfig name) }) hunguarded ?_).weaken ?_ ?_
  · rintro middle hmiddle
    rw [← hmiddle]
    rfl
  · rintro _ configured ⟨hconfigured, hsingle⟩
    have hunreported := hleaving.unreported (recordsOf world).registry
    refine (wp_bind _ _).mpr ((wp_attempt _).mpr ?_)
    refine (wp_writeRegistry hunguarded).weaken ?_ ?_
    · rintro _ registered hregistered
      rw [hconfigured] at hregistered
      refine (wp_bind _ _).mpr ((wp_appendEventRecord hunguarded).weaken ?_ fun _ _ h => h)
      rintro appended after (hafter | ⟨-, hnone⟩)
      · rw [hregistered] at hafter
        refine (wp_pure _).mpr ?_
        rw [hafter]
        refine ⟨rfl, rfl, ?_, rfl, ⟨_, rfl, rfl, rfl⟩, ?_⟩
        · intro other hne
          simp [BrokerState.entry, BrokerState.forgetAlias, BrokerState.withoutAlias,
            Registry.remove, Registry.touch, hne]
        · exact fun other hother => hsingle other name hother hunreported
      · rw [hregistered] at hnone
        exact absurd (hleaving.unreported _) (hnone name)
    · rintro error after ⟨-, hnone⟩
      rw [hconfigured] at hnone
      exact absurd hunreported (hnone name)
  · rintro error after (⟨hsame, -⟩ | ⟨-, hnone⟩)
    · refine (wp_pure _).mpr ?_
      rw [hsame]
      exact ⟨rfl, .inr rfl, fun _ _ => rfl, id, .inl rfl, .inl rfl⟩
    · exact absurd (hleaving.unreported _) (hnone name)

theorem wp_failedDelete {error : BrokerError} :
    wp (completingHandler project first) (ChangesMatches project purposeId first)
      (failedDelete state name failed timestamp error)
      (fun outcome after => TurnOutcome first state (recordsOf world) name outcome (recordsOf after))
      (fun _ _ => False) world := by
  have hunguarded := unguarded_changesMatches project purposeId first
  unfold failedDelete
  dsimp only
  generalize (if error.isBrokerError = true then error
    else BrokerError.broker .simulatorActionFailed error.text) = failure
  generalize hmodified : (state.registry.modify name (deleteFailedEntry failure timestamp)).touch
    timestamp = registry
  have hentries : ∀ other, other ≠ name →
      (state.withRegistry registry).entry other = state.entry other := by
    intro other hne
    rw [← hmodified]
    exact Registry.modify_aliases_of_ne state.registry _ hne
  have hentry : (state.entry name).isSome → ((state.withRegistry registry).entry name).isSome := by
    intro hsome
    obtain ⟨entry, hentry⟩ := Option.isSome_iff_exists.mp hsome
    have hentry : state.registry.aliases name = some entry := hentry
    rw [← hmodified]
    simp [BrokerState.entry, BrokerState.withRegistry, Registry.touch, Registry.modify, hentry]
  unfold persistDeleteFailure
  refine (wp_bind _ _).mpr ((wp_attempt _).mpr ((wp_bind _ _).mpr ?_))
  refine (wp_writeRegistry hunguarded).weaken ?_ ?_
  · rintro _ registered hregistered
    refine (wp_bind _ _).mpr ((wp_appendEventRecord hunguarded).weaken ?_ fun _ _ h => h.elim)
    rintro appended after (hafter | ⟨hafter, -⟩)
    · rw [hregistered] at hafter
      refine (wp_pure _).mpr ((wp_pure _).mpr ?_)
      rw [hafter]
      exact ⟨rfl, .inl rfl, hentries, hentry, .inr rfl, .inr ⟨_, rfl, rfl, rfl⟩⟩
    · rw [hregistered] at hafter
      refine (wp_pure _).mpr ((wp_pure _).mpr ?_)
      rw [hafter]
      exact ⟨rfl, .inl rfl, hentries, hentry, .inr rfl, .inl rfl⟩
  · rintro error after ⟨hsame | hwritten, -⟩
    · refine (wp_pure _).mpr ?_
      rw [hsame]
      exact ⟨rfl, .inl rfl, hentries, hentry, .inl rfl, .inl rfl⟩
    · refine (wp_pure _).mpr ?_
      rw [hwritten]
      exact ⟨rfl, .inl rfl, hentries, hentry, .inr rfl, .inl rfl⟩

/-- A part of a turn in which only one simulator may be changed. -/
theorem wp_matching {α : Type} {body : Broker α} {hostAlias : HostAlias}
    (hbody : body.All fun op => keepsRecords op = true ∧
      (changedSimulator op = none ∨ changedSimulator op = some hostAlias.simulatorId))
    (hbound : first.hostAlias hostAlias.aliasName = some hostAlias)
    (hmatches : Matches project purposeId hostAlias)
    (htriggered : ((recordsOf world).entry hostAlias.aliasName).any deleteTriggered = true) :
    wp (completingHandler project first) (ChangesMatches project purposeId first) body
      (fun _ after => recordsOf after = recordsOf world)
      (fun _ after => recordsOf after = recordsOf world) world := by
  refine wp_keeping hbody (fun _ hop => hop.1) fun op middle hop hsame => ?_
  rcases hop.2 with hnone | hchanged
  · exact changesMatches_of_none hnone
  · intro simulatorId hsimulator
    rw [hchanged, Option.some_inj] at hsimulator
    exact ⟨hostAlias, hbound, hsimulator, hmatches, hsame ▸ htriggered⟩

theorem wp_deleteAliasUnderHeldLocks {hostAlias : HostAlias}
    (hfind : state.hostConfig.find name = some hostAlias)
    (hbound : first.hostAlias hostAlias.aliasName = some hostAlias)
    (hmatches : Matches project purposeId hostAlias)
    (htriggered : ((recordsOf world).entry hostAlias.aliasName).any deleteTriggered = true)
    (hleaving : Leaving first (recordsOf world) state name) :
    wp (completingHandler project first) (ChangesMatches project purposeId first)
      (deleteAliasUnderHeldLocks state name failed timestamp)
      (fun outcome after => TurnOutcome first state (recordsOf world) name outcome (recordsOf after))
      (fun _ _ => False) world := by
  unfold deleteAliasUnderHeldLocks
  simp only [hfind]
  refine (wp_bind _ _).mpr ((wp_attempt _).mpr ?_)
  have hasserted : (assertAliasCanBeDeleted state name).All fun op : BrokerOp =>
      keepsRecords op = true ∧
        (changedSimulator op = none ∨ changedSimulator op = some hostAlias.simulatorId) := by
    unfold assertAliasCanBeDeleted
    dsimp only
    split
    · exact trivial
    · split
      · exact trivial
      · split
        · exact .throw _
        · exact .pure _
  have hlisted : readSimctlInventory.All fun op : BrokerOp => keepsRecords op = true ∧
      (changedSimulator op = none ∨ changedSimulator op = some hostAlias.simulatorId) := by
    unfold readSimctlInventory
    exact .bind (.request ⟨rfl, .inl rfl⟩) fun _ => .bind (.request ⟨rfl, .inl rfl⟩)
      fun _ => .bind (.request ⟨rfl, .inl rfl⟩) fun _ => .pure _
  have hremoved : (deleteAliasSimulator hostAlias.simulatorId .delete).All fun op : BrokerOp =>
      keepsRecords op = true ∧
        (changedSimulator op = none ∨ changedSimulator op = some hostAlias.simulatorId) := by
    unfold deleteAliasSimulator
    exact .bind (.request ⟨rfl, .inr rfl⟩) fun _ => .request ⟨rfl, .inr rfl⟩
  refine (wp_matching hasserted hbound hmatches htriggered).weaken ?_ ?_
  · intro _ asserted hasserted
    dsimp only
    refine (wp_bind _ _).mpr ((wp_attempt _).mpr ?_)
    refine (wp_matching hlisted hbound hmatches (hasserted ▸ htriggered)).weaken ?_ ?_
    · intro inventory listed hlisted
      rw [hasserted] at hlisted
      dsimp only
      split
      · refine (wp_bind _ _).mpr ((wp_attempt _).mpr ?_)
        refine (wp_matching hremoved hbound hmatches (hlisted ▸ htriggered)).weaken ?_ ?_
        · intro _ deleted hdeleted
          rw [hlisted] at hdeleted
          dsimp only
          rw [← hdeleted] at hleaving ⊢
          exact wp_removeDeletedAliasRecords hleaving
        · intro error deleted hdeleted
          rw [hlisted] at hdeleted
          dsimp only
          rw [← hdeleted]
          exact wp_failedDelete
      · rw [← hlisted] at hleaving ⊢
        exact wp_removeDeletedAliasRecords hleaving
    · intro error listed hlisted
      rw [hasserted] at hlisted
      refine (wp_pure _).mpr ?_
      rw [hlisted]
      exact failedTurn_same _ _ _
  · intro error asserted hasserted
    refine (wp_pure _).mpr ?_
    rw [hasserted]
    exact failedTurn_same _ _ _

/-! ## One turn -/

theorem find_of_mem {config : HostConfig} {hostAlias : HostAlias} (hnames : config.aliasNames.Nodup)
    (hmem : hostAlias ∈ config.aliases) : config.find hostAlias.aliasName = some hostAlias := by
  obtain ⟨found, hfound⟩ := Option.isSome_iff_exists.mp
    (Safety.find_isSome_iff.mpr (List.mem_map_of_mem (f := (·.aliasName)) hmem))
  have hname : found.aliasName = hostAlias.aliasName := by simpa using List.find?_some hfound
  rw [hfound, Safety.eq_of_nodup_map hnames (List.mem_of_find?_eq_some hfound) hmem hname]

theorem Turning.find {rest : List Candidate} {turn : CountedTurn} {now : Records}
    {candidate : Candidate} (hnames : original.aliasNames.Nodup)
    (hturning : Turning project purposeId first original loaded (candidate :: rest) turn now) :
    turn.progress.state.hostConfig.find candidate.hostAlias.aliasName = some candidate.hostAlias := by
  obtain ⟨horiginal, -, hdeleted, hnotFailed, -⟩ := hturning.fresh candidate List.mem_cons_self
  obtain ⟨ahead, hahead, haliases⟩ := hturning.memory
  refine find_of_mem ?_ ?_
  · rw [HostConfig.aliasNames, haliases]
    exact Safety.nodup_map_filter hnames
  · rw [haliases]
    refine List.mem_filter.mpr ⟨horiginal, decide_eq_true ⟨hdeleted, fun hmem => ?_⟩⟩
    exact hnotFailed (hahead _ hmem)

theorem wp_countedCandidate {rest : List Candidate} {turn : CountedTurn} {candidate : Candidate}
    (hfirst : first.hostConfig = some original) (hnames : original.aliasNames.Nodup)
    (hturning : Turning project purposeId first original loaded (candidate :: rest) turn
      (recordsOf world)) :
    wp (completingHandler project first) (ChangesMatches project purposeId first)
      (countedCandidate timestamp turn candidate)
      (fun turn' after => Turning project purposeId first original loaded rest turn'
        (recordsOf after)) (fun _ _ => False) world := by
  obtain ⟨horiginal, hmatches, hdeleted, hnotFailed, -⟩ :=
    hturning.fresh candidate List.mem_cons_self
  obtain ⟨hdisk, hmemory⟩ := hturning.others _ hdeleted hnotFailed
  unfold countedCandidate deleteCandidate
  dsimp only
  refine (wp_bind _ _).mpr ?_
  split
  · rename_i htriggered
    split
    · refine (wp_pure _).mpr ((wp_pure _).mpr ?_)
      rw [CountedAliases.raised_held]
      exact hturning.held htriggered rfl
    · refine (wp_bind _ _).mpr ?_
      have hbound : first.hostAlias candidate.hostAlias.aliasName = some candidate.hostAlias := by
        rw [Records.hostAlias, hfirst]
        exact find_of_mem hnames horiginal
      have hconfigured : candidate.hostAlias.aliasName ∈ first.configuredAliases := by
        rw [Records.configuredAliases, hfirst]
        exact List.mem_map_of_mem (f := (·.aliasName)) horiginal
      refine (wp_deleteAliasUnderHeldLocks (hturning.find hnames) hbound hmatches
        (by rw [hdisk, ← hmemory]; exact htriggered)
        ⟨hconfigured, hturning.events.others _ hdeleted⟩).weaken ?_ fun _ _ h => h
      intro outcome after houtcome
      refine (wp_pure _).mpr ((wp_pure _).mpr ?_)
      unfold TurnOutcome at houtcome
      cases hresult : outcome.result with
      | ok deleted =>
          rw [hresult] at houtcome
          dsimp only
          rw [CountedAliases.raised_done]
          exact hturning.deleted hfirst htriggered houtcome
      | error error =>
          rw [hresult] at houtcome
          dsimp only
          rw [CountedAliases.raised_failed]
          exact hturning.failed htriggered houtcome
  · refine (wp_pure _).mpr ((wp_pure _).mpr ?_)
    rw [CountedAliases.raised_same]
    exact hturning.skip

/-! ## The load -/

/-- What a load leaves of the three files. -/
structure LoadedRecords (first : Records) (original : HostConfig) (state : BrokerState)
    (now : Records) : Prop where
  hostConfig : now.hostConfig = some original
  aliases : state.hostConfig.aliases = original.aliases
  names : original.aliasNames.Nodup
  valid : state.hostConfig.Valid
  registry : now.registry = some state.registry
  present : ∀ name ∈ original.aliasNames, (state.entry name).isSome
  events : ∃ events, now.events = first.events ++ events ∧
    ∀ event ∈ events, event.type ∈ [EventType.leaseReclaimed, .leaseContained]

/-- A load keeps the host config and appends events about leases. -/
structure Grows (before after : Records) : Prop where
  hostConfig : after.hostConfig = before.hostConfig
  events : ∃ events, after.events = before.events ++ events ∧
    ∀ event ∈ events, event.type ∈ [EventType.leaseReclaimed, .leaseContained]

theorem Grows.refl (records : Records) : Grows records records :=
  ⟨rfl, [], by simp, by simp⟩

theorem Grows.trans {before middle after : Records} (hfirst : Grows before middle)
    (hlast : Grows middle after) : Grows before after := by
  obtain ⟨former, hformer, hformerTypes⟩ := hfirst.events
  obtain ⟨latter, hlatter, hlatterTypes⟩ := hlast.events
  refine ⟨hlast.hostConfig.trans hfirst.hostConfig, former ++ latter, ?_, fun event hmem => ?_⟩
  · rw [hlatter, hformer, List.append_assoc]
  · rcases List.mem_append.mp hmem with hmem | hmem
    · exact hformerTypes event hmem
    · exact hlatterTypes event hmem

theorem grows_effect {op : BrokerOp} (hop : loads op = true) (world : World) :
    Grows (recordsOf world) (recordsOf (op.effect world)) := by
  cases op with
  | rename file =>
      cases file with
      | hostConfig config => cases hop
      | registry content note => exact ⟨rfl, [], (List.append_nil _).symm, by simp⟩
      | _ => exact .refl _
  | appendEvent event =>
      refine ⟨rfl, [event], rfl, fun other hother => ?_⟩
      rw [List.mem_singleton.mp hother]
      exact of_decide_eq_true hop
  | _ => exact .refl _

theorem wp_loading {α : Type} {body : Broker α} (hbody : Loading body) :
    wp (completingHandler project first) (ChangesMatches project purposeId first) body
      (fun _ after => Grows (recordsOf world) (recordsOf after))
      (fun _ after => Grows (recordsOf world) (recordsOf after)) world := by
  refine wp_of_all (R := fun before after => Grows (recordsOf before) (recordsOf after)) hbody
    (.refl _) (fun _ _ => .trans) (fun op middle hop _ => changesMatches_of_none ?_) ?_
  · cases op with
    | _ => first | rfl | cases hop
  · rintro op middle answer last hop ⟨⟨hanswers, -⟩, -⟩
    cases answer with
    | ok value =>
        rw [recordsOf_settles (settles_of_ok hanswers)]
        exact grows_effect hop middle
    | error error =>
        rcases settles_of_error hanswers with hsettles | ⟨-, hsettles⟩
        · rw [recordsOf_settles hsettles]
          exact .refl _
        · rw [recordsOf_settles hsettles]
          exact grows_effect hop middle

/-- The load returns the registry it has written. -/
theorem wp_loadBrokerState_registry {paths : BrokerPaths} {options : LoadOptions} :
    wp (completingHandler project first) (fun _ _ => True) (loadBrokerState paths options)
      (fun state after => (recordsOf after).registry = some state.registry) (fun _ _ => True)
      world := by
  have hunguarded : Unguarded fun _ _ => True := fun _ _ _ => trivial
  unfold loadBrokerState ensureStatePaths
  refine (wp_anything _).seq (fun _ _ h => h) fun _ _ _ => ?_
  refine (wp_anything _).seq (fun _ _ h => h) fun config _ _ => ?_
  refine (wp_anything _).seq (fun _ _ h => h) fun knownProjects _ _ => ?_
  refine (wp_anything _).seq (fun _ _ h => h) fun rawRegistry _ _ => ?_
  refine (wp_anything _).seq (fun _ _ h => h) fun pins _ _ => ?_
  refine (wp_anything _).seq (fun _ _ h => h) fun leases _ _ => ?_
  refine (wp_anything _).seq (fun _ _ h => h) fun scan _ _ => ?_
  refine (wp_anything _).seq (fun _ _ h => h) fun synced before _ => ?_
  have hwrite : wp (completingHandler project first) (fun _ _ => True)
      (writeLoadedRegistry options (synced.touch options.timestamp))
      (fun _ after => (recordsOf after).registry = some (synced.touch options.timestamp))
      (fun _ _ => True) before := by
    have hwritten : wp (completingHandler project first) (fun _ _ => True)
        (writeRegistry (synced.touch options.timestamp))
        (fun _ after => (recordsOf after).registry = some (synced.touch options.timestamp))
        (fun _ _ => True) before := by
      refine (wp_writeRegistry hunguarded).weaken ?_ fun _ _ _ => trivial
      rintro _ after hafter
      rw [hafter]
    unfold writeLoadedRegistry writeIdleRegistry
    split
    · exact (wp_tryCatch _ _).mpr (hwritten.weaken (fun _ _ h => h) fun _ _ _ => trivial)
    · exact hwritten
  refine hwrite.seq (fun _ _ h => h) fun _ written hregistry => ?_
  have hprojects : (writeKnownProjects knownProjects).All fun op : BrokerOp =>
      keepsRecords op = true := by
    unfold writeKnownProjects writeJsonAtomicRestricted
    exact .bind (.request rfl) fun _ => .bind (.request rfl) fun _ => .bind (.request rfl)
      fun _ => .bind (.request rfl) fun _ => .request rfl
  refine (wp_keeping hprojects (fun _ hop => hop) fun _ _ _ _ => trivial).seq (fun _ _ _ => trivial)
    fun _ after hafter => ?_
  refine (wp_pure _).mpr ?_
  rw [hafter]
  exact hregistry

/-! ## The call -/

theorem wp_loadRecords {paths : BrokerPaths} (hconsistent : Safety.Consistent paths world)
    (hpast : timestamp ≤ world.outside.clock) (hrecords : recordsOf world = first) :
    wp (completingHandler project first) (ChangesMatches project purposeId first)
      (loadBrokerState paths { timestamp })
      (fun state after => ∃ original, first.hostConfig = some original ∧
        LoadedRecords first original state (recordsOf after)) (fun _ _ => True) world := by
  have hmoment : Safety.Moment (Runs.Command.context .hostStatus paths .arbitrary timestamp world)
      world := Runs.moment_of_consistent (fun _ => id) (fun _ => id) trivial hconsistent
  have hok : Safety.LoadOk (Runs.Command.context .hostStatus paths .arbitrary timestamp world)
      timestamp [] world := ⟨le_rfl, hpast, by simp⟩
  have hload : Safety.Safe (Runs.Command.context .hostStatus paths .arbitrary timestamp world)
      (loadBrokerState paths { timestamp }) (Safety.LoadDone _ [] world)
      (Safety.LoadFailed _ world) world :=
    Safety.safe_loadBrokerState (Runs.counted_failing rfl) hok
  have hsafe := Runs.wp_of_safe rfl (fun _ => trivial) hmoment hload
  have hgrowing : wp (completingHandler project first) (ChangesMatches project purposeId first)
      (loadBrokerState paths { timestamp })
      (fun _ after => Grows (recordsOf world) (recordsOf after))
      (fun _ after => Grows (recordsOf world) (recordsOf after)) world :=
    wp_loading loading_loadBrokerState
  have hall := ((wp.refine (completing_refines project first) hsafe).and hgrowing).and
    wp_loadBrokerState_registry
  refine hall.mono (fun _ _ h => h.1.2) ?_ fun _ _ _ => trivial
  rintro state after ⟨⟨⟨hdone, -⟩, hgrows⟩, hregistry⟩
  have hcurrent := hdone.loaded.toCurrent
  obtain ⟨disk, hdisk, hvalid, hconfig⟩ := hcurrent.config
  have hfirst : first.hostConfig = some disk := by
    rw [← hrecords, ← hgrows.hostConfig]
    exact hdisk
  refine ⟨disk, hfirst, hdisk, by rw [hconfig], hvalid.names, hcurrent.config.valid, hregistry,
    fun name hname => ?_, hrecords ▸ hgrows.events⟩
  obtain ⟨entry, hentry⟩ := hcurrent.tracks.present name (by
    rw [hcurrent.config.configuredAliases, hconfig]
    exact hname)
  exact Option.isSome_iff_exists.mpr ⟨entry, hentry⟩

theorem mem_structuralCandidates {purpose : Purpose} {candidate : Candidate}
    (hmem : candidate ∈ structuralCandidates locale state purpose project) :
    candidate.hostAlias ∈ state.hostConfig.aliases ∧
      structuralCapacityMatches candidate.hostAlias purpose = true := by
  obtain ⟨hanalysed, hmatches⟩ := List.mem_filter.mp ((List.mem_insertionSort _).mp hmem)
  refine ⟨?_, hmatches⟩
  exact (Safety.buildCandidateAnalysis_hostAliases state purpose project none).subset
    (List.mem_map_of_mem (f := (·.hostAlias)) hanalysed)

/-- Before the first turn. -/
theorem LoadedRecords.turning {now : Records} {purpose : Purpose}
    (hloaded : LoadedRecords first original state now)
    (hpurpose : project.purposes.find? (fun purpose => purpose.id = purposeId) = some purpose) :
    Turning project purposeId first original state (structuralCandidates locale state purpose project)
      { progress := { state } } now where
  disk := ⟨original, hloaded.hostConfig, by simp⟩
  memory := ⟨[], by simp, by simpa using hloaded.aliases⟩
  entries name hname _ := by
    refine ⟨?_, hloaded.present name hname⟩
    rw [Records.entry, hloaded.registry]
    exact hloaded.present name hname
  others name _ _ := by
    refine ⟨?_, rfl⟩
    rw [Records.entry, hloaded.registry]
    rfl
  events := by
    obtain ⟨events, happended, htypes⟩ := hloaded.events
    have hsince : first.eventsSince now = events := by simp [Records.eventsSince, happended]
    have hnot : ∀ type, type ∉ [EventType.leaseReclaimed, .leaseContained] →
        ∀ name, ∀ event ∈ events, eventOf type name event = false := by
      intro type htype name event hevent
      refine decide_eq_false fun hsame => htype ?_
      exact hsame.1 ▸ htypes event hevent
    refine ⟨⟨events, happended⟩, by simp, fun name _ => ?_, fun name _ => ?_⟩
    · exact hsince ▸ hnot .simulatorDeleted (by simp) name
    · exact hsince ▸ hnot .simulatorDeleteFailed (by simp) name
  counted := by simp
  apart := by simp
  distinct := Safety.structuralCandidates_nodup hloaded.valid
  fresh candidate hcandidate := by
    obtain ⟨hmem, hmatches⟩ := mem_structuralCandidates hcandidate
    exact ⟨hloaded.aliases ▸ hmem, ⟨purpose, hpurpose, hmatches⟩, by simp, by simp, by simp⟩

/-- What the aliases that were counted say about the files. -/
structure Reported (project : ProjectConfig) (purposeId : PurposeId) (first : Records)
    (report : DeleteReport) (after : Records) : Prop where
  missing : ∀ name ∈ first.configuredAliases,
    name ∉ after.configuredAliases ↔ name ∈ report.counted.deleted
  configured : ∀ name ∈ after.configuredAliases, name ∈ first.configuredAliases
  deleted : ∀ name ∈ report.counted.deleted,
    (first.eventsSince after).countP (eventOf .simulatorDeleted name) = 1
  kept : ∀ name, name ∈ report.counted.failed ∨ name ∈ report.counted.held →
    (after.hostAlias name).isSome ∧ after.hostAlias name = first.hostAlias name ∧
      (after.entry name).isSome
  matched : ∀ name, name ∈ report.counted.deleted ∨ name ∈ report.counted.failed ∨
      name ∈ report.counted.held →
    ∃ hostAlias, first.hostAlias name = some hostAlias ∧ Matches project purposeId hostAlias ∧
      (report.loaded.entry name).any deleteTriggered = true
  others : ∀ name, name ∉ report.counted.deleted → name ∉ report.counted.failed →
    after.hostAlias name = first.hostAlias name ∧ after.entry name = report.loaded.entry name ∧
      ∀ event ∈ first.eventsSince after, eventOf .simulatorDeleted name event = false ∧
        eventOf .simulatorDeleteFailed name event = false

theorem find?_filter_aliases {aliases : List HostAlias} {p : AliasName → Prop}
    [DecidablePred p] (hname : p name) :
    (aliases.filter fun hostAlias => decide (p hostAlias.aliasName)).find?
        (fun hostAlias => decide (hostAlias.aliasName = name)) =
      aliases.find? fun hostAlias => decide (hostAlias.aliasName = name) := by
  rw [List.find?_filter]
  refine congrArg (List.find? · aliases) (funext fun hostAlias => ?_)
  by_cases hsame : hostAlias.aliasName = name
  · simp [hsame, hname]
  · simp [hsame]

/-- After the last turn. -/
theorem Turning.reported {turn : CountedTurn} {now : Records}
    (hfirst : first.hostConfig = some original) (hunique : original.aliasNames.Nodup)
    (hturning : Turning project purposeId first original loaded [] turn now) :
    Reported project purposeId first { loaded, counted := turn.counted } now := by
  obtain ⟨config, hconfig, haliases⟩ := hturning.disk
  have hbefore : first.configuredAliases = original.aliasNames := by
    simp [Records.configuredAliases, hfirst]
  have hnow : ∀ name, name ∈ now.configuredAliases ↔
      name ∈ original.aliasNames ∧ name ∉ turn.counted.deleted := by
    intro name
    simp only [Records.configuredAliases, hconfig, Option.map_some, Option.getD_some,
      HostConfig.aliasNames, haliases, List.mem_map, List.mem_filter, decide_eq_true_eq]
    constructor
    · rintro ⟨hostAlias, ⟨hmem, hkept⟩, rfl⟩
      exact ⟨⟨hostAlias, hmem, rfl⟩, hkept⟩
    · rintro ⟨⟨hostAlias, hmem, rfl⟩, hkept⟩
      exact ⟨hostAlias, ⟨hmem, hkept⟩, rfl⟩
  have hbound : ∀ name, name ∉ turn.counted.deleted → now.hostAlias name = first.hostAlias name := by
    intro name hname
    simp only [Records.hostAlias, hconfig, hfirst, Option.bind_some, HostConfig.find, haliases]
    exact find?_filter_aliases (p := fun name => name ∉ turn.counted.deleted) hname
  have hmatched := hturning.counted
  have hnames : ∀ name, name ∈ turn.counted.deleted ∨ name ∈ turn.counted.failed ∨
      name ∈ turn.counted.held → name ∈ original.aliasNames := by
    intro name hname
    obtain ⟨hostAlias, hmem, rfl, -⟩ := hmatched name hname
    exact List.mem_map_of_mem (f := (·.aliasName)) hmem
  constructor
  · intro name hname
    rw [hnow, ← hbefore]
    constructor
    · intro hmissing
      by_contra hkept
      exact hmissing ⟨hname, hkept⟩
    · rintro hdeleted ⟨-, hkept⟩
      exact hkept hdeleted
  · intro name hname
    rw [hbefore]
    exact ((hnow name).mp hname).1
  · exact hturning.events.deleted
  · intro name hname
    have hmem := hnames name (.inr hname)
    have hkept := hturning.apart name hname
    have hsame := hbound name hkept
    refine ⟨?_, hsame, (hturning.entries name hmem hkept).1⟩
    rw [hsame, Records.hostAlias, hfirst]
    exact Safety.find_isSome_iff.mpr hmem
  · intro name hname
    obtain ⟨hostAlias, hmem, rfl, hmatches, htriggered⟩ := hmatched name hname
    refine ⟨hostAlias, ?_, hmatches, htriggered⟩
    rw [Records.hostAlias, hfirst]
    exact find_of_mem hunique hmem
  · intro name hkept hnotFailed
    refine ⟨hbound name hkept, (hturning.others name hkept hnotFailed).1, fun event hevent => ?_⟩
    exact ⟨hturning.events.others name hkept event hevent,
      hturning.events.failures name hnotFailed event hevent⟩

theorem wp_countedDelete {paths : BrokerPaths} (hconsistent : Safety.Consistent paths world)
    (hrecords : recordsOf world = first) :
    wp (completingHandler project first) (ChangesMatches project purposeId first)
      (countedDelete paths purposeId)
      (fun report after => Reported project purposeId first report (recordsOf after))
      (fun _ _ => True) world := by
  unfold countedDelete
  refine wp.seq (M := fun timestamp after => Settles .arbitrary world after ∧
      timestamp ≤ after.outside.clock) (E := fun _ _ => True)
    (wp_request.mpr ⟨changesMatches_of_none rfl, ?_, fun _ _ _ => trivial⟩) (fun _ _ h => h) ?_
  · rintro value after ⟨⟨hanswers, -⟩, -⟩
    have hsettles := settles_of_ok hanswers
    have hclock : value = world.outside.clock := answered_of_ok hanswers
    exact ⟨hsettles, hclock ▸ (Safety.Settles.kept hsettles).later.clock⟩
  rintro timestamp started ⟨hsettles, hpast⟩
  have hstarted := (Safety.Settles.kept hsettles).consistent hconsistent
  refine (wp_loadRecords hstarted hpast ((recordsOf_settles hsettles).trans hrecords)).seq (fun _ _ h => h) ?_
  rintro state loaded ⟨original, hfirst, hloaded⟩
  refine wp.seq (M := fun value after => recordsOf after = recordsOf loaded ∧
      value = project) (E := fun _ _ => True)
    (wp_request.mpr ⟨changesMatches_of_none rfl, ?_, fun _ _ _ => trivial⟩) (fun _ _ h => h) ?_
  · rintro value after ⟨⟨hanswers, hreads⟩, -⟩
    exact ⟨recordsOf_settles (settles_of_ok hanswers), hreads⟩
  rintro project read ⟨hread, rfl⟩
  unfold getPurpose
  cases hpurpose : project.purposes.find? fun purpose => purpose.id = purposeId with
  | none => exact trivial
  | some purpose =>
      refine (wp_bind _ _).mpr ((wp_pure _).mpr ((wp_bind _ _).mpr ?_))
      have hturning : Turning project purposeId first original state
          (structuralCandidates paths.locale state purpose project) { progress := { state } }
          (recordsOf read) := hread ▸ hloaded.turning hpurpose
      refine wp_foldlM (fun rest turn after => Turning project purposeId first original state rest
        turn (recordsOf after)) _ ?_ ?_ _ _ hturning
      · exact fun candidate rest turn before hbefore =>
          (wp_countedCandidate hfirst hloaded.names hbefore).weaken (fun _ _ h => h)
            fun _ _ h => h.elim
      · exact fun turn after hafter => hafter.reported hfirst hloaded.names

/-- A part of the call under one of its locks. -/
theorem wp_underLock {α : Type} {lock : LockName} {body : Broker α} {P : α → Records → Prop}
    (hbody : ∀ locked, Settles .arbitrary world locked →
      wp (completingHandler project first) (ChangesMatches project purposeId first) body
        (fun value after => P value (recordsOf after)) (fun _ _ => True) locked) :
    wp (completingHandler project first) (ChangesMatches project purposeId first)
      (withLock lock body) (fun value after => P value (recordsOf after)) (fun _ _ => True)
      world := by
  unfold withLock ensureStatePaths
  refine wp.seq (M := fun _ after => Settles .arbitrary world after) (E := fun _ _ => True)
    (wp_request.mpr ⟨changesMatches_of_none rfl, ?_, fun _ _ _ => trivial⟩) (fun _ _ h => h) ?_
  · exact fun _ _ hstep => settles_of_ok hstep.1.1
  intro _ ensured hensured
  refine wp.seq (M := fun _ after => Settles .arbitrary world after) (E := fun _ _ => True)
    (wp_request.mpr ⟨changesMatches_of_none rfl, ?_, fun _ _ _ => trivial⟩) (fun _ _ h => h) ?_
  · intro _ after hstep
    have hsettles := settles_of_ok hstep.1.1
    exact ⟨hsettles.store.trans hensured.store, hsettles.ledger.trans hensured.ledger,
      hensured.drift.trans hsettles.drift⟩
  intro _ locked hlocked
  refine (wp_ensuring _ _).mpr ((hbody locked hlocked).weaken ?_ ?_)
  · intro value worked hworked
    refine (wp_keep rfl (changesMatches_of_none rfl)).weaken (fun _ after hafter => ?_)
      fun _ _ _ => trivial
    rw [hafter]
    exact hworked
  · exact fun error failed _ => (wp_keep rfl (changesMatches_of_none rfl)).weaken
      (fun _ _ _ => trivial) fun _ _ _ => trivial

/-- What holds of the calls of a purpose delete. -/
structure ReportsDeletes (paths : BrokerPaths) (project : ProjectConfig) (purposeId : PurposeId)
    (H : Handler brokerSignature BrokerError World) (world : World) : Prop where
  reported : ∀ report after, Steps H (countedDeleteBroker paths purposeId) world (.done report) after →
    Reported project purposeId (recordsOf world) report (recordsOf after)
  changes : ∀ op middle, Performs H (countedDeleteBroker paths purposeId) world op middle →
    ChangesMatches project purposeId (recordsOf world) op middle

/-- In every reached world, the calls that complete what they have begun. -/
theorem reportsDeletes_of_run {paths : BrokerPaths} (hrun : Runs.Run paths .arbitrary world) :
    deletePurposeSimulatorsBroker paths purposeId =
        (countedDeleteBroker paths purposeId >>= fun report => replyOf report.counted.counts) ∧
      ReportsDeletes paths project purposeId (completingHandler project (recordsOf world)) world := by
  refine ⟨deletePurposeSimulatorsBroker_eq paths purposeId, ?_⟩
  have hcall : wp (completingHandler project (recordsOf world))
      (ChangesMatches project purposeId (recordsOf world)) (countedDeleteBroker paths purposeId)
      (fun report after => Reported project purposeId (recordsOf world) report (recordsOf after))
      (fun _ _ => True) world := by
    refine wp_underLock fun locked hlocked => wp_underLock fun held hheld => ?_
    refine wp_countedDelete ?_ ((recordsOf_settles hheld).trans (recordsOf_settles hlocked))
    exact (Safety.Settles.kept hheld).consistent
      ((Safety.Settles.kept hlocked).consistent hrun.consistent)
  exact ⟨fun report after hsteps => hcall.returned hsteps,
    fun op middle hperforms => hcall.guarded hperforms⟩

/-! ## A registry that cannot be written -/

/-- The simulator of the alias is gone, and its runtime is not installed. -/
def strandedHost : World :=
  { singleHost with outside := { singleHost.outside with devices := [], runtimes := [] } }

theorem fresh_strandedHost : Runs.Fresh strandedHost where
  registry := rfl
  leases := rfl
  pins := rfl
  ledger := rfl
  devicesDrawn := by
    rintro device ⟨⟩
  boundDrawn := Runs.fresh_singleHost.boundDrawn

/-- A repair has failed. -/
def unrepairedWorld : World :=
  (((Command.lifecycle .repair { aliasName := "build-1" }).body {} 0).run ({} : Script).respond 0
    strandedHost).2

theorem run_unrepairedWorld : Runs.Run {} .arbitrary unrepairedWorld :=
  (Runs.Run.fresh fresh_strandedHost).script {} _ (Nat.zero_le _)

theorem reportsDeletes_unrepairedWorld :
    ((recordsOf unrepairedWorld).entry "build-1").any deleteTriggered = true ∧
      ReportsDeletes {} buildProject "tests"
        (completingHandler buildProject (recordsOf unrepairedWorld)) unrepairedWorld :=
  ⟨by decide +kernel, (reportsDeletes_of_run run_unrepairedWorld).2⟩

/-- The host config is written, the registry is not. -/
def failingRegistry : Script where
  project := buildProject
  fault position := if position = 33 then some .thrown else none

/-- The answer that a project file gives. -/
def readsBuildProject (op : BrokerOp) (_ : World) (answer : Except BrokerError op.Ret) : Bool :=
  match op, answer with
  | .readProject, .ok value => decide (value = buildProject)
  | _, _ => true

theorem readsProject_of_bool {op : BrokerOp} {world : World} {answer : Except BrokerError op.Ret}
    (hreads : readsBuildProject op world answer = true) : ReadsProject buildProject op answer := by
  cases op with
  | readProject =>
      cases answer with
      | ok value =>
          have hvalue : value = buildProject := of_decide_eq_true hreads
          exact hvalue
      | error error => trivial
  | _ => trivial

/-- The report and the world of that call. -/
def halfDeleted : Except BrokerError DeleteReport × World :=
  (countedDeleteBroker {} "tests").run failingRegistry.respond 0 unrepairedWorld

/-- A deletion whose record fails half-way is counted as failed. -/
theorem not_reportsDeletes : ¬ ∀ (world : World) (project : ProjectConfig) (purposeId : PurposeId),
    Runs.Run {} .arbitrary world →
      ReportsDeletes {} project purposeId (projectHandler project) world := by
  intro hreports
  have hsteps : Steps (projectHandler buildProject) (countedDeleteBroker {} "tests")
      unrepairedWorld (.ofOutcome halfDeleted.1) halfDeleted.2 := by
    refine failingRegistry.sound_respond.run_steps_of_answersIn ?_ _ _ _
      (by decide +kernel : (countedDeleteBroker {} "tests").answersIn failingRegistry.respond
        readsBuildProject 0 unrepairedWorld = true)
    exact fun op world answer after hallowed hstep => ⟨hstep, readsProject_of_bool hallowed⟩
  have hmissing : halfDeleted.2.store.configuredAliases = [] := by decide +kernel
  have hcounted : halfDeleted.1.toOption.map (·.counted.deleted) = some [] := by decide +kernel
  cases houtcome : halfDeleted.1 with
  | error error =>
      rw [houtcome] at hcounted
      cases hcounted
  | ok report =>
      rw [houtcome] at hsteps hcounted
      have hreported := (hreports unrepairedWorld buildProject "tests" run_unrepairedWorld).reported
        report halfDeleted.2 hsteps
      have hconfigured : "build-1" ∈ (recordsOf unrepairedWorld).configuredAliases := by
        decide +kernel
      have hdeleted := (hreported.missing "build-1" hconfigured).mp (by
        have hsame : (recordsOf halfDeleted.2).configuredAliases = [] := hmissing
        rw [hsame]
        exact List.not_mem_nil)
      have hnone : report.counted.deleted = [] := Option.some_inj.mp hcounted
      rw [hnone] at hdeleted
      cases hdeleted

end SimulatorBroker.Deletes
