import SimulatorBroker.Hosting.Repair

/-!
# Repairing and deleting aliases

The commands that rebind an alias or drop it: a repair, alone or for a purpose,
and a delete, alone or for a purpose.
-/

namespace SimulatorBroker.Hosting

open SimulatorBroker.Effects
open SimulatorBroker.State
open SimulatorBroker.Broker
open SimulatorBroker.Safety (ReadConfig)

variable {α β : Type} {surroundings : Surroundings} {distinct : Prop} {world : World}
  {paths : BrokerPaths} {state : BrokerState} {hostAlias : HostAlias} {timestamp : Timestamp}

/-! ## Sequences -/

/-- A part that leaves the file alone, and what follows it. -/
theorem keeps_after {body : Broker α} {rest : α → Broker β}
    (hdrawn : Drawn surroundings distinct world) (hbody : Static body)
    (hrest : ∀ value after, Onward surroundings world after → Drawn surroundings distinct after →
      Keeps surroundings distinct (rest value) after) :
    Keeps surroundings distinct (body >>= rest) world :=
  .seq (Hosts.frame (hostless_of_static hbody)) (fun _ _ h => hdrawn.onward h)
    fun value after h => hrest value after h (hdrawn.onward h)

theorem keeps_of_static {body : Broker α} (hdrawn : Drawn surroundings distinct world)
    (hbody : Static body) : Keeps surroundings distinct body world :=
  keeps_of_hostless hdrawn (hostless_of_static hbody)

/-! ## Repair -/

theorem keeps_runRepairAction {requester : LifecycleRequester}
    (hdrawn : Drawn surroundings distinct world) (hread : ReadConfig world state.hostConfig)
    (hmem : hostAlias ∈ state.hostConfig.aliases) :
    Keeps surroundings distinct (runRepairAction locale state hostAlias requester timestamp) world := by
  unfold runRepairAction
  refine keeps_after hdrawn static_writeRegistry fun _ marked hmarked hdrawnMarked => ?_
  refine keeps_after hdrawnMarked static_appendEventRecord fun _ started hstarted hdrawnStarted => ?_
  have hreread : ReadConfig started state.hostConfig :=
    hread.of_hostConfig (hmarked.trans hstarted).hostConfig
  have hrepair : Keeps surroundings distinct
      (invokeLifecycleAdapter (repairHostAlias locale state.hostConfig hostAlias)) started := by
    unfold invokeLifecycleAdapter
    refine .tryCatch ((hosts_repairHostAlias hdrawnStarted hreread hmem).weaken
      (fun _ _ h => h.drawn) fun _ _ h => h) fun error failed hfailed => ?_
    split
    · exact .throw hfailed
    · exact .throw hfailed
  refine .seq (hrepair.tryCatch fun error failed hfailed => ?_) (fun _ _ h => h)
    fun hostConfig repaired hrepaired => ?_
  · refine keeps_after hfailed static_writeRegistry fun _ noted _ hnoted => ?_
    refine keeps_after hnoted static_appendEventRecord fun _ _ _ hlast => ?_
    exact .throw hlast
  · refine keeps_after hrepaired static_writeRegistry fun _ noted _ hnoted => ?_
    exact keeps_after hnoted static_appendEventRecord fun _ _ _ hlast => .pure hlast

/-- Whoever is admitted, the config in memory stays the one that was read. -/
theorem hosts_admitLifecycleRequester {action : LifecycleAction} {options : LifecycleOptions}
    {requester : LifecycleRequester} {name : AliasName} :
    Hosts surroundings distinct
      (admitLifecycleRequester paths state action options requester name timestamp)
      (fun admitted after => admitted.hostConfig = state.hostConfig ∧
        Onward surroundings world after)
      (fun _ after => Onward surroundings world after) world := by
  unfold admitLifecycleRequester
  split
  · exact .pure ⟨rfl, .refl _⟩
  · next activeLease _ =>
      have hrevoke : Hosts surroundings distinct
          (do
            validateForceOverride action options requester name activeLease
            revokeLeaseForOverride paths state activeLease timestamp)
          (fun admitted after => admitted.hostConfig = state.hostConfig ∧
            Onward surroundings world after)
          (fun _ after => Onward surroundings world after) world := by
        unfold revokeLeaseForOverride
        refine .seq (Hosts.frame (hostless_of_static static_validateForceOverride))
          (fun _ _ h => h) fun _ first hfirst => ?_
        refine .seq (Hosts.frame (hostless_of_static static_assertLeaseArtifactPathAllowed))
          (fun _ _ h => hfirst.trans h) fun _ second hsecond => ?_
        refine .seq (Hosts.frame (hostless_of_static static_writeRegistry))
          (fun _ _ h => (hfirst.trans hsecond).trans h) fun _ third hthird => ?_
        have honward := (hfirst.trans hsecond).trans hthird
        refine .seq (Hosts.frame (hostless_of_static static_removeLeaseRecordFiles))
          (fun _ _ h => honward.trans h) fun _ fourth hfourth => ?_
        refine .seq (Hosts.frame (hostless_of_static static_appendEventRecord))
          (fun _ _ h => (honward.trans hfourth).trans h) fun _ fifth hfifth => ?_
        exact .pure ⟨rfl, (honward.trans hfourth).trans hfifth⟩
      split
      · exact .pure ⟨rfl, .refl _⟩
      · split
        · exact .throw (.refl _)
        · exact .throw (.refl _)
        · exact hrevoke
        · exact hrevoke

theorem mem_of_findHostAlias {config : HostConfig} {name : AliasName}
    (hfound : config.find name = some hostAlias) : hostAlias ∈ config.aliases :=
  List.mem_of_find?_eq_some hfound

theorem hosts_findHostAliasOrThrow {config : HostConfig} {name : AliasName} :
    Hosts surroundings distinct (findHostAliasOrThrow config name)
      (fun found after => found ∈ config.aliases ∧ after = world) (fun _ after => after = world)
      world := by
  unfold findHostAliasOrThrow
  split
  · exact .throw rfl
  · next hfound => exact .pure ⟨mem_of_findHostAlias hfound, rfl⟩

theorem keeps_runLifecycleAction {action : LifecycleAction} {options : LifecycleOptions}
    (hdrawn : Drawn surroundings distinct world) :
    Keeps surroundings distinct (runLifecycleAction paths action options) world := by
  by_cases haction : action = .repair
  · cases haction
    unfold runLifecycleAction
    refine keeps_after hdrawn (static_perform rfl) fun timestamp begun _ hbegun => ?_
    refine .seq hosts_loadBrokerState (fun _ _ h => hbegun.onward h) ?_
    rintro state loaded ⟨hread, honward⟩
    have hdrawnLoaded := hbegun.onward honward
    have hreread : ReadConfig loaded state.hostConfig := hread.of_hostConfig honward.hostConfig
    refine .seq hosts_findHostAliasOrThrow ?_ ?_
    · rintro _ _ rfl
      exact hdrawnLoaded
    rintro hostAlias _ ⟨hmem, rfl⟩
    split
    · exact .throw hdrawnLoaded
    · refine keeps_after hdrawnLoaded static_resolveLifecycleRequester
        fun requester resolved hresolved hdrawnResolved => ?_
      refine keeps_after hdrawnResolved static_assertLifecycleHealth
        fun _ healthy hhealthy hdrawnHealthy => ?_
      refine .seq hosts_admitLifecycleRequester (fun _ _ h => hdrawnHealthy.onward h) ?_
      rintro admitted after ⟨hsame, hadmitted⟩
      have hlast : ReadConfig after admitted.hostConfig := by
        rw [hsame]
        exact hreread.of_hostConfig ((hresolved.trans hhealthy).trans hadmitted).hostConfig
      refine .seq (keeps_runRepairAction (hdrawnHealthy.onward hadmitted) hlast ?_)
        (fun _ _ h => h) fun _ _ h => .pure h
      rw [hsame]
      exact hmem
  · exact keeps_of_static hdrawn (static_runLifecycleAction haction)

theorem keeps_repairPurposeSimulators {options : PurposeOptions}
    (hdrawn : Drawn surroundings distinct world) :
    Keeps surroundings distinct (repairPurposeSimulators paths options) world := by
  unfold repairPurposeSimulators
  refine keeps_after hdrawn (static_perform rfl) fun timestamp _ _ hbegun => ?_
  refine keeps_after hbegun static_loadBrokerState fun state _ _ hloaded => ?_
  refine keeps_after hloaded (static_perform rfl) fun project _ _ hproject => ?_
  refine keeps_after hproject (static_of_passive passive_getPurpose) fun purpose _ _ hpurpose => ?_
  refine .seq (?_ : Keeps surroundings distinct _ _) (fun _ _ h => h) fun counts _ hrepaired => ?_
  · refine wp_foldlM (fun _ _ before => Drawn surroundings distinct before) _ ?_
      (fun _ _ h => h) _ _ hpurpose
    intro candidate rest counts before hbefore
    change Hosts surroundings distinct _ _ _ _
    unfold repairCandidate
    split
    · exact .pure hbefore
    · split
      · exact .pure hbefore
      · refine .tryCatch (.seq (keeps_runLifecycleAction hbefore) (fun _ _ h => h)
          fun _ _ h => .pure h) fun error _ hfailed => ?_
        split
        · exact .pure hfailed
        · exact .pure hfailed
  · split
    · exact .throw hrepaired
    · split
      · exact .throw hrepaired
      · exact .pure hrepaired

/-! ## Delete -/

/-- Without an alias whose simulator is gone, the config keeps what it should. -/
theorem Kept.removeAlias {config : HostConfig} (hkept : Kept surroundings distinct world config)
    {name : AliasName}
    (hgone : NeverReturns surroundings → ∀ hostAlias ∈ config.aliases, hostAlias.aliasName = name →
      Absent world.outside hostAlias.simulatorId) :
    Kept surroundings distinct world (removeAlias config name) where
  drawn := hkept.drawn
  retains := by
    have hsub : ∀ simulatorId ∈ managedIds (Broker.removeAlias config name),
        simulatorId ∈ managedIds config := by
      intro simulatorId hmem
      rcases List.mem_append.mp hmem with hbound | hpending
      · obtain ⟨old, hold, rfl⟩ := List.mem_map.mp hbound
        exact List.mem_append_left _ (List.mem_map_of_mem (List.mem_of_mem_filter hold))
      · exact List.mem_append_right _ hpending
    refine hkept.retains.next (fun _ hmem => hkept.retains.drawn _ (hsub _ hmem)) ?_
    intro hnever simulatorId hmem
    rcases List.mem_append.mp hmem with hbound | hpending
    · obtain ⟨old, hold, rfl⟩ := List.mem_map.mp hbound
      by_cases hname : old.aliasName = name
      · exact .inr (hgone hnever old hold hname)
      · exact .inl (List.mem_append_left _
          (List.mem_map_of_mem (List.mem_filter.mpr ⟨hold, decide_eq_true hname⟩)))
    · exact .inl (List.mem_append_right _ hpending)
  sound hkeeps hdistinct := by
    obtain ⟨hvalid, hnamed⟩ := hkept.sound hkeeps hdistinct
    refine ⟨?_, fun old hold => hnamed old (List.mem_of_mem_filter hold)⟩
    obtain ⟨hnames, hsimulators, haliases, hrest⟩ := hvalid
    refine ⟨?_, ?_, fun old hold => haliases old (List.mem_of_mem_filter hold), hrest⟩
    · exact (List.filter_sublist.map _).nodup hnames
    · exact (List.filter_sublist.map _).nodup hsimulators

/-- What a delete carries from one alias to the next: its config may replace the one on disk. -/
structure Carries (surroundings : Surroundings) (distinct : Prop) (world : World)
    (state : BrokerState) : Prop extends Kept surroundings distinct world state.hostConfig where
  names : state.hostConfig.aliasNames.Nodup

theorem Carries.onward {after : World} (hcarries : Carries surroundings distinct world state)
    (honward : Onward surroundings world after) : Carries surroundings distinct after state :=
  ⟨hcarries.toKept.onward honward, hcarries.names⟩

theorem hosts_removeDeletedAliasRecords {name : AliasName} {failed : List AliasName}
    (hremoved : Carries surroundings distinct world (state.withoutAlias name)) :
    Hosts surroundings distinct (removeDeletedAliasRecords state name failed timestamp)
      (fun outcome after => Carries surroundings distinct after outcome.state)
      (fun _ after => Drawn surroundings distinct after) world := by
  unfold removeDeletedAliasRecords
  simp only
  have hforgotten : ∀ {after : World}, Carries surroundings distinct after (state.withoutAlias name) →
      Carries surroundings distinct after ((state.withoutAlias name).forgetAlias name timestamp) :=
    fun hcarries => ⟨hcarries.toKept, hcarries.names⟩
  refine .either (hosts_writeHostConfig hremoved.toKept) (fun _ written hwritten => ?_)
    fun error _ hfailed => .pure ⟨hfailed, hremoved.names⟩
  have hcarries := hforgotten ⟨hwritten.toKept, hremoved.names⟩
  refine .either (Hosts.frame (hostless_of_static static_writeRegistry)) (fun _ noted hnoted => ?_)
    fun error _ hfailed => .pure (hcarries.onward hfailed)
  refine .seq (Hosts.frame (hostless_of_static static_appendEventRecord))
    (fun _ _ h => (hcarries.onward hnoted).drawn.onward h) fun _ _ h => ?_
  exact .pure ((hcarries.onward hnoted).onward h)

theorem hosts_failedDelete {name : AliasName} {failed : List AliasName} {error : BrokerError}
    (hcarries : Carries surroundings distinct world state) :
    Hosts surroundings distinct (failedDelete state name failed timestamp error)
      (fun outcome after => Carries surroundings distinct after outcome.state)
      (fun _ after => Drawn surroundings distinct after) world := by
  unfold failedDelete persistDeleteFailure
  have hpersists : ∀ {registry : Registry} {names : List AliasName}, Static (do
      writeRegistry registry { failed := names }
      let _ ← appendEventRecord { type := .simulatorDeleteFailed, aliasName := name, timestamp }) :=
    .bind static_writeRegistry fun _ => .bind static_appendEventRecord fun _ => .pure _
  refine .either (Hosts.frame (hostless_of_static hpersists)) (fun _ _ h => ?_) fun _ _ h => ?_
  · exact .pure ⟨hcarries.toKept.onward h, hcarries.names⟩
  · exact .pure ⟨hcarries.toKept.onward h, hcarries.names⟩

theorem hosts_deleteAliasUnderHeldLocks {name : AliasName} {failed : List AliasName}
    (hcarries : Carries surroundings distinct world state) :
    Hosts surroundings distinct (deleteAliasUnderHeldLocks state name failed timestamp)
      (fun outcome after => Carries surroundings distinct after outcome.state)
      (fun _ after => Drawn surroundings distinct after) world := by
  unfold deleteAliasUnderHeldLocks
  split
  · exact .pure hcarries
  next hostAlias hfound =>
  have hmem := mem_of_findHostAlias hfound
  have hname : hostAlias.aliasName = name := by
    have hselected := List.find?_some hfound
    exact of_decide_eq_true hselected
  have hid : hostAlias.simulatorId < world.outside.nextDevice :=
    hcarries.retains.drawn _ (List.mem_append_left _ (List.mem_map_of_mem hmem))
  -- once the simulator of the alias is gone, its records may go
  have hremove : ∀ {before : World}, Onward surroundings world before →
      (NeverReturns surroundings → Absent before.outside hostAlias.simulatorId) →
      Hosts surroundings distinct (removeDeletedAliasRecords state name failed timestamp)
        (fun outcome after => Carries surroundings distinct after outcome.state)
        (fun _ after => Drawn surroundings distinct after) before := by
    intro before honward hgone
    refine hosts_removeDeletedAliasRecords
      ⟨(hcarries.toKept.onward honward).removeAlias fun hnever other hother hsame => ?_, ?_⟩
    · rw [List.inj_on_of_nodup_map hcarries.names hother hmem (hsame.trans hname.symm)]
      exact hgone hnever
    · exact (List.filter_sublist.map _).nodup hcarries.names
  refine .either (Hosts.frame (hostless_of_static static_assertAliasCanBeDeleted))
    (fun _ asserted hasserted => ?_) fun _ _ h => .pure (hcarries.onward h)
  refine .either (hosts_readSimctlInventory (hcarries.drawn.onward hasserted))
    (fun inventory listed hlisted => ?_)
    fun _ _ h => .pure (hcarries.onward (hasserted.trans h))
  have hbegun := hlisted.begun hasserted
  simp only
  split
  · refine .either hosts_deleteAliasSimulator ?_ fun _ _ h => ?_
    · rintro - deleted ⟨honward, hgone⟩
      exact hremove (hbegun.onward.trans honward) fun hnever =>
        hgone hnever (hid.trans_le hbegun.onward.later.nextDevice)
    · exact hosts_failedDelete (hcarries.onward (hbegun.onward.trans h))
  · next hmissing =>
      exact hremove hbegun.onward fun hnever => hbegun.gone hnever _ hid hmissing

theorem carries_of_read (hdrawn : Drawn surroundings distinct world)
    (hread : ReadConfig world state.hostConfig) : Carries surroundings distinct world state :=
  ⟨.read hdrawn hread, hread.valid.names⟩

theorem keeps_deleteSimulator {name : AliasName} (hdrawn : Drawn surroundings distinct world) :
    Keeps surroundings distinct (deleteSimulator paths name) world := by
  unfold deleteSimulator
  refine keeps_after hdrawn (static_perform rfl) fun timestamp _ _ hbegun => ?_
  refine .seq hosts_loadBrokerState (fun _ _ h => hbegun.onward h) ?_
  rintro state loaded ⟨hread, honward⟩
  refine .seq (hosts_deleteAliasUnderHeldLocks (carries_of_read (hbegun.onward honward)
    (hread.of_hostConfig honward.hostConfig))) (fun _ _ h => h) fun outcome _ houtcome => ?_
  split
  · exact .pure houtcome.drawn
  · exact .throw houtcome.drawn

theorem keeps_deletePurposeSimulators {purposeId : PurposeId}
    (hdrawn : Drawn surroundings distinct world) :
    Keeps surroundings distinct (deletePurposeSimulators paths purposeId) world := by
  unfold deletePurposeSimulators
  refine keeps_after hdrawn (static_perform rfl) fun timestamp _ _ hbegun => ?_
  refine .seq hosts_loadBrokerState (fun _ _ h => hbegun.onward h) ?_
  rintro state loaded ⟨hread, honward⟩
  have hcarries : Carries surroundings distinct loaded state :=
    carries_of_read (hbegun.onward honward) (hread.of_hostConfig honward.hostConfig)
  refine .seq (Hosts.frame (hostless_perform rfl)) (fun _ _ h => hcarries.drawn.onward h)
    fun project _ hproject => ?_
  have hprojected := hcarries.onward hproject
  refine .seq (Hosts.frame (hostless_of_passive passive_getPurpose))
    (fun _ _ h => hprojected.drawn.onward h) fun purpose _ hpurpose => ?_
  refine .seq (?_ : Hosts surroundings distinct _
    (fun (progress : DeleteProgress) after => Carries surroundings distinct after progress.state)
    (fun _ after => Drawn surroundings distinct after) _) (fun _ _ h => h) fun progress _ h => ?_
  · refine wp_foldlM (fun _ (progress : DeleteProgress) before =>
      Carries surroundings distinct before progress.state) _ ?_ (fun _ _ h => h) _ _ (hprojected.onward hpurpose)
    intro candidate rest progress before hbefore
    change Hosts surroundings distinct _ _ _ _
    unfold deleteCandidate
    simp only
    split
    · split
      · exact .pure hbefore
      · exact .seq (hosts_deleteAliasUnderHeldLocks hbefore) (fun _ _ h => h)
          fun _ _ h => .pure h
    · exact .pure hbefore
  · simp only
    split
    · exact .throw h.drawn
    · split
      · exact .throw h.drawn
      · exact .pure h.drawn

end SimulatorBroker.Hosting
