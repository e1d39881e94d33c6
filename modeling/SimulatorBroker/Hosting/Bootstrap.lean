import SimulatorBroker.Hosting.Fleets

/-!
# Bootstrapping a host

`host init` provisions the starter aliases one by one and then replaces the
config, if there is one.
-/

namespace SimulatorBroker.Hosting

open SimulatorBroker.Effects
open SimulatorBroker.State
open SimulatorBroker.Broker
open SimulatorBroker.Safety (ReadConfig)

variable {surroundings : Surroundings} {distinct : Prop} {world after : World} {hostId : String}
  {paths : BrokerPaths} {timestamp : Timestamp}

/-! ## The starter aliases -/

/-- A template whose alias a reader accepts, with the name of its simulator. -/
structure Fitting (hostId : String) (template : AliasTemplate) : Prop where
  aliasName : isNonEmptyString template.aliasName = true
  capabilities : template.capabilities ≠ []
  nonEmpty : ∀ capability ∈ template.capabilities, isNonEmptyString capability = true
  displayName : isNonEmptyString template.displayName = true
  simulatorName : template.simulatorName = simulatorDisplayName hostId template.aliasName

theorem fitting_starterTemplate {iosVersion name displayName : String} {capabilities : List String}
    {deviceFamily : DeviceFamily} {resetPolicy : ResetPolicy}
    (hname : isNonEmptyString name = true)
    (hcapabilities : capabilities ≠ [] ∧ capabilities.all isNonEmptyString = true)
    (hdisplay : isNonEmptyString displayName = true) :
    Fitting hostId
      (starterTemplate hostId iosVersion name capabilities deviceFamily displayName resetPolicy) :=
  ⟨hname, hcapabilities.1, List.all_eq_true.mp hcapabilities.2, hdisplay, rfl⟩

theorem fitting_starterTemplates {iosVersion : String} :
    ∀ template ∈ buildStarterAliasTemplates hostId iosVersion, Fitting hostId template := by
  simp only [buildStarterAliasTemplates, List.forall_mem_cons, List.not_mem_nil, false_imp_iff,
    implies_true, and_true]
  refine ⟨?_, ?_, ?_, ?_, ?_, ?_⟩
  all_goals
    apply fitting_starterTemplate
    · decide +kernel
    · decide +kernel
    · decide +kernel

theorem starterNames_nodup {iosVersion : String} :
    ((buildStarterAliasTemplates hostId iosVersion).map (·.aliasName)).Nodup := by
  have hnames : (buildStarterAliasTemplates hostId iosVersion).map (·.aliasName) =
      ["manual-1", "ui-1", "ui-2", "build-1", "build-2", "ipad-1"] := rfl
  rw [hnames]
  decide

/-! ## Provisioning -/

/-- The aliases provisioned so far: those of the templates that came first. -/
structure Provisioned (surroundings : Surroundings) (world : World) (hostId : String)
    (done : List AliasTemplate) (aliases : List HostAlias) : Prop where
  names : aliases.map (·.aliasName) = done.map (·.aliasName)
  valid : ∀ hostAlias ∈ aliases, hostAlias.Valid
  bears : Bears surroundings world hostId (aliases.map binding)

theorem Provisioned.onward {done : List AliasTemplate} {aliases : List HostAlias}
    (hprovisioned : Provisioned surroundings world hostId done aliases)
    (honward : Onward surroundings world after) :
    Provisioned surroundings after hostId done aliases :=
  ⟨hprovisioned.names, hprovisioned.valid, hprovisioned.bears.onward honward⟩

/-- One more alias, for a template with a name of its own. -/
theorem Provisioned.snoc {done : List AliasTemplate} {aliases : List HostAlias}
    {template : AliasTemplate} {provisioned : ProvisionedSimulator}
    (hprovisioned : Provisioned surroundings world hostId done aliases)
    (hfitting : Fitting hostId template)
    (hfree : template.aliasName ∉ done.map (·.aliasName))
    (hchosen : Chosen surroundings world after template.simulatorName none provisioned)
    (hversion : isHostSchemaIosVersion provisioned.iosVersion = true) :
    Provisioned surroundings after hostId (done ++ [template])
      (aliases ++ [provisionedAlias template provisioned]) := by
  have honward : Onward surroundings world after := hchosen.moved
  constructor
  · rw [List.map_append, List.map_append, hprovisioned.names]
    rfl
  · intro hostAlias hmem
    rcases List.mem_append.mp hmem with hold | hnew
    · exact hprovisioned.valid hostAlias hold
    · rw [List.mem_singleton.mp hnew]
      exact ⟨hfitting.aliasName, hfitting.capabilities, hfitting.nonEmpty, hfitting.displayName,
        hversion⟩
  · rw [hfitting.simulatorName] at hchosen
    have hnames : (aliases.map binding).map (·.1) = done.map (·.aliasName) := by
      rw [List.map_map, ← hprovisioned.names]
      rfl
    have horigin := hchosen.origin.resolve_left (by rintro ⟨⟩)
    have hunbound := hprovisioned.bears.unbound (by rwa [hnames]) horigin
    have hcons := (hprovisioned.bears.onward honward).cons hchosen.drawn hchosen.named hunbound
    refine hcons.perm ?_
    rw [List.map_append]
    exact List.perm_append_singleton _ _

theorem hosts_provisionTemplates (templates : List AliasTemplate) (progress : ProvisionProgress)
    (done : List AliasTemplate) {before : World} (hdrawn : Drawn surroundings distinct before)
    (hfitting : ∀ template ∈ templates, Fitting hostId template)
    (hnames : ((done ++ templates).map (·.aliasName)).Nodup)
    (hprovisioned : Provisioned surroundings before hostId done progress.aliases) :
    Hosts surroundings distinct (provisionTemplates locale templates progress)
      (fun progress' after => Onward surroundings before after ∧ (progress'.error = none →
        Provisioned surroundings after hostId (done ++ templates) progress'.aliases))
      (fun _ after => Onward surroundings before after) before := by
  induction templates generalizing progress done before with
  | nil =>
      refine .pure ⟨.refl _, fun _ => ?_⟩
      rwa [List.append_nil]
  | cons template rest ih =>
      unfold provisionTemplates
      have hensure : Hosts surroundings distinct (ensureAliasSimulator locale template none false) _ _
          before :=
        hosts_ensureAliasSimulator hdrawn (by rintro _ ⟨⟩) fun _ _ _ _ => allows_none _
      refine .either hensure ?_ fun error _ honward => .pure ⟨honward, by simp⟩
      rintro provisioned chosen ⟨hchosen, hversion⟩
      have honward : Onward surroundings before chosen := hchosen.moved
      have happend : done ++ template :: rest = (done ++ [template]) ++ rest := by simp
      have hfree : template.aliasName ∉ done.map (·.aliasName) := by
        rw [List.map_append, List.map_cons] at hnames
        exact fun hmem => List.disjoint_of_nodup_append hnames hmem List.mem_cons_self
      rw [happend] at hnames ⊢
      refine (ih _ (done ++ [template]) (hdrawn.onward honward)
        (fun other hother => hfitting other (List.mem_cons_of_mem _ hother)) hnames
        (hprovisioned.snoc (hfitting template List.mem_cons_self) hfree hchosen hversion)).weaken
          ?_ fun _ _ h => honward.trans h
      rintro progress' after ⟨hafter, hresult⟩
      exact ⟨honward.trans hafter, hresult⟩

theorem hostless_rollbackDelete {failures : List RollbackFailure} {simulatorId : SimulatorId} :
    Hostless (rollbackDelete failures simulatorId) :=
  .tryCatch (.bind (hostless_perform rfl) fun _ => .pure _) fun _ => .pure _

theorem hostless_rollbackCreatedSimulators {createdSimulatorIds : List SimulatorId}
    {attribution : Option (List SimulatorId × List String)} :
    Hostless (rollbackCreatedSimulators createdSimulatorIds attribution) := by
  unfold rollbackCreatedSimulators
  have hdeletes : ∀ planned : List SimulatorId × List RollbackFailure,
      Hostless ((createdSimulatorIds ++ planned.1).eraseDups.reverse.foldlM rollbackDelete
        planned.2) :=
    fun planned => .foldlM (fun _ _ => hostless_rollbackDelete) _ _
  simp only
  split
  · exact .bind (.pure _) hdeletes
  · exact .bind (.tryCatch (.bind (hostless_of_loading loading_readSimctlInventory) fun _ => .pure _)
      fun _ => .pure _) hdeletes

/-- The host id is given, and all the aliases are those of the templates. -/
theorem hosts_buildProvisionedStarterHostConfig {iosVersion : String}
    (hdrawn : Drawn surroundings distinct world) :
    Hosts surroundings distinct (buildProvisionedStarterHostConfig locale hostId iosVersion)
      (fun provisioned after => Onward surroundings world after ∧
        provisioned.hostConfig = { aliases := provisioned.hostConfig.aliases, hostId } ∧
          Provisioned surroundings after hostId (buildStarterAliasTemplates hostId iosVersion)
            provisioned.hostConfig.aliases)
      (fun _ after => Onward surroundings world after) world := by
  unfold buildProvisionedStarterHostConfig
  simp only
  refine .seq (Hosts.frame (hostless_of_loading loading_readSimctlInventory)) (fun _ _ h => h)
    fun baseline listed hlisted => ?_
  refine .seq (hosts_provisionTemplates _ {} [] (hdrawn.onward hlisted) fitting_starterTemplates
    starterNames_nodup ⟨rfl, by simp, .nil⟩) (fun _ _ h => hlisted.trans h) ?_
  rintro progress after ⟨honward, hprovisioned⟩
  have hafter := hlisted.trans honward
  cases herror : progress.error with
  | some error =>
      refine .seq (Hosts.frame hostless_rollbackCreatedSimulators) (fun _ _ h => hafter.trans h)
        fun failures last hlast => .throw (hafter.trans hlast)
  | none => exact .pure ⟨hafter, rfl, hprovisioned herror⟩

/-! ## Replacing the config -/

/-- The config that is replaced is the one on disk; there is none where nothing is replaced. -/
def Replaces (world : World) (previous : Option HostConfig) : Prop :=
  match previous with
  | none => world.store.hostConfig = none
  | some config => ReadConfig world config

theorem Replaces.onward {previous : Option HostConfig} (hreplaces : Replaces world previous)
    (honward : Onward surroundings world after) : Replaces after previous := by
  cases previous with
  | none => exact honward.hostConfig.trans hreplaces
  | some config => exact ReadConfig.of_hostConfig hreplaces honward.hostConfig

theorem hosts_hostConfigExists :
    Hosts surroundings distinct (perform .hostConfigExists)
      (fun found after => found = world.store.hostConfig.isSome ∧ Onward surroundings world after)
      (fun _ after => Onward surroundings world after) world := by
  refine wp_perform (admits_of_onward rfl) ?_ ?_
  · exact fun value after hvalue hsettles => ⟨hvalue, moved_settles hsettles⟩
  · rintro error after - hfalse -
    exact hfalse.elim

theorem hosts_previousHostConfig {configExists : Bool}
    (hexists : configExists = world.store.hostConfig.isSome) :
    Hosts surroundings distinct (previousHostConfig paths configExists timestamp)
      (fun previous after => Replaces after previous ∧ Onward surroundings world after)
      (fun _ after => Onward surroundings world after) world := by
  unfold previousHostConfig assertHostConfigCanBeReplaced
  cases configExists with
  | false =>
      have hnone : world.store.hostConfig = none := by simpa using hexists.symm
      exact .pure ⟨hnone, .refl _⟩
  | true =>
      refine .seq hosts_readHostConfigOrThrow (fun _ _ h => h) ?_
      rintro previous read ⟨hread, hreadOnward⟩
      refine .seq (Hosts.frame (hostless_of_static (.bind static_loadBrokerState fun state => ?_)))
        (fun _ _ h => hreadOnward.trans h) fun _ after hafter => ?_
      · split
        · exact .pure _
        · exact .throw _
      · have honward := hreadOnward.trans hafter
        exact .pure ⟨hread.of_hostConfig honward.hostConfig, honward⟩

/-- What is bound now is not pending; what was bound or pending is, unless it is bound now. -/
theorem mem_pendingRetirementIds {previous next : HostConfig} {simulatorId : SimulatorId} :
    simulatorId ∈ pendingRetirementIdsForHostReplacement previous next ↔
      simulatorId ∈ managedIds previous ∧ simulatorId ∉ next.simulatorIds := by
  simp only [pendingRetirementIdsForHostReplacement, List.mem_filter, List.mem_eraseDups,
    List.mem_append, decide_eq_true_eq, managedIds]
  exact and_congr_left fun _ => or_comm

/-- A host id that a reader accepts. -/
def HostIdOk (hostId : String) : Prop :=
  isNonEmptyString hostId = true

theorem checked_starter {iosVersion : String} {aliases : List HostAlias}
    {previous : Option HostConfig} (hhostId : HostIdOk hostId) (hreplaces : Replaces world previous)
    (hprovisioned : Provisioned surroundings world hostId
      (buildStarterAliasTemplates hostId iosVersion) aliases) :
    Checked (keepSlotReclaim previous { aliases, hostId }) := by
  have hnames : (aliases.map (·.aliasName)).Nodup := by
    rw [hprovisioned.names]
    exact starterNames_nodup
  unfold keepSlotReclaim
  split
  · exact ⟨hnames, hprovisioned.valid, hhostId, by simp⟩
  · next policy hpolicy =>
      obtain ⟨config, rfl, hsome⟩ := Option.bind_eq_some_iff.mp hpolicy
      obtain ⟨-, -, -, -, hvalid⟩ := ReadConfig.valid hreplaces
      refine ⟨hnames, hprovisioned.valid, hhostId, ?_⟩
      rintro other ⟨⟩
      exact hvalid policy hsome

@[simp] theorem keepSlotReclaim_aliases {previous : Option HostConfig} {next : HostConfig} :
    (keepSlotReclaim previous next).aliases = next.aliases := by
  unfold keepSlotReclaim
  split
  · rfl
  · rfl

@[simp] theorem keepSlotReclaim_hostId {previous : Option HostConfig} {next : HostConfig} :
    (keepSlotReclaim previous next).hostId = next.hostId := by
  unfold keepSlotReclaim
  split
  · rfl
  · rfl

/-- The new config, with the old simulators to be retired. -/
theorem kept_replacement {iosVersion : String} {aliases : List HostAlias}
    {previous : Option HostConfig} (hdrawn : Drawn surroundings distinct world)
    (hhostId : distinct → HostIdOk hostId) (hreplaces : Replaces world previous)
    (hprovisioned : Provisioned surroundings world hostId
      (buildStarterAliasTemplates hostId iosVersion) aliases) :
    Kept surroundings distinct world
      (hostConfigWithPendingRetirements (keepSlotReclaim previous { aliases, hostId })
        ((previous.map fun previous =>
          pendingRetirementIdsForHostReplacement previous { aliases, hostId }).getD [])) := by
  have hbound : ∀ simulatorId ∈ (keepSlotReclaim previous { aliases, hostId }).simulatorIds,
      simulatorId < world.outside.nextDevice := by
    have haliases : (keepSlotReclaim previous { aliases, hostId }).aliases = aliases :=
      keepSlotReclaim_aliases
    have hbears := hprovisioned.bears
    rw [← haliases] at hbears
    exact hbears.bound_drawn
  constructor
  · exact hdrawn
  · cases previous with
    | none =>
        refine .fresh hreplaces fun simulatorId hmem => ?_
        rcases List.mem_append.mp hmem with hnew | hpending
        · exact hbound simulatorId hnew
        · cases hpending
    | some config =>
        have hread := Retains.read hdrawn hreplaces
        refine hread.next ?_ ?_
        · intro simulatorId hmem
          rcases List.mem_append.mp hmem with hnew | hpending
          · exact hbound simulatorId hnew
          · exact hread.drawn _ (mem_pendingRetirementIds.mp hpending).1
        · intro _ simulatorId hmem
          refine .inl ?_
          by_cases hnew : simulatorId ∈ (keepSlotReclaim (some config) { aliases, hostId }).simulatorIds
          · exact List.mem_append_left _ hnew
          · refine List.mem_append_right _ (mem_pendingRetirementIds.mpr ⟨hmem, ?_⟩)
            simpa [HostConfig.simulatorIds] using hnew
  · intro hkeeps hdistinct
    have hsound : Sound world.outside (keepSlotReclaim previous { aliases, hostId }) := by
      refine Bears.sound hkeeps (checked_starter (hhostId hdistinct) hreplaces hprovisioned) ?_
      rw [keepSlotReclaim_aliases, keepSlotReclaim_hostId]
      exact hprovisioned.bears
    exact ⟨hsound.valid, hsound.named⟩

theorem keeps_bootstrapHostConfig {options : InitOptions} {previous : Option HostConfig}
    (hdrawn : Drawn surroundings distinct world) (hhostId : distinct → HostIdOk options.hostId)
    (hreplaces : Replaces world previous) :
    Keeps surroundings distinct (bootstrapHostConfig locale options previous) world := by
  unfold bootstrapHostConfig
  refine .seq (hosts_buildProvisionedStarterHostConfig hdrawn) (fun _ _ h => hdrawn.onward h) ?_
  rintro provisioned built ⟨honward, hconfig, hprovisioned⟩
  have hkept := kept_replacement (hdrawn.onward honward) hhostId (hreplaces.onward honward)
    hprovisioned
  rw [← hconfig] at hkept
  simp only
  refine .seq ((hosts_writeHostConfig hkept).tryCatch fun error failed hfailed => ?_)
    (fun _ _ h => h) fun _ written hwritten => ?_
  · exact .seq (keeps_of_hostless hfailed.drawn hostless_rollbackCreatedSimulators)
      (fun _ _ h => h) fun _ _ h => .throw h
  · split
    · unfold retireReplacedSimulators
      have hpending := fun simulatorId hid => hwritten.retains.drawn simulatorId
        (List.mem_append_right _ hid)
      refine .seq (hosts_retirePendingHostSimulators hwritten.drawn hpending)
        (fun _ _ h => hwritten.drawn.onward h) ?_
      rintro failedRetirements retired ⟨hafter, hretired⟩
      have hrest : Kept surroundings distinct retired _ :=
        (hwritten.toKept.onward hafter).pending
          (fun simulatorId hid => (hpending simulatorId (hretired.pending simulatorId hid)).trans_le
            hafter.later.nextDevice)
          hretired.kept
      refine .seq (hosts_writeHostConfig hrest) (fun _ _ h => h.drawn) fun _ last hlast => ?_
      split
      · exact .pure hlast.drawn
      · exact .throw hlast.drawn
    · exact .pure hwritten.drawn

theorem keeps_initHost {options : InitOptions} (hdrawn : Drawn surroundings distinct world)
    (hhostId : distinct → HostIdOk options.hostId) :
    Keeps surroundings distinct (initHost paths options timestamp) world := by
  unfold initHost
  have hrest : ∀ {before : World}, Drawn surroundings distinct before →
      Keeps surroundings distinct (do
        let _ ← loadBrokerState paths { timestamp }
        let _ ← appendEventRecord { type := .hostInitialized, timestamp }) before :=
    fun hbefore => keeps_of_static hbefore (.bind static_loadBrokerState fun _ =>
      .bind static_appendEventRecord fun _ => .pure _)
  simp only
  split
  · refine .seq hosts_hostConfigExists (fun _ _ h => hdrawn.onward h) ?_
    rintro configExists found ⟨hexists, hfound⟩
    split
    · refine .seq (hosts_previousHostConfig (by rw [hexists, hfound.hostConfig]))
        (fun _ _ h => hdrawn.onward (hfound.trans h)) ?_
      rintro previous read ⟨hreplaces, hread⟩
      exact .seq (keeps_bootstrapHostConfig (hdrawn.onward (hfound.trans hread)) hhostId hreplaces)
        (fun _ _ h => h) fun _ _ h => hrest h
    · exact hrest (hdrawn.onward hfound)
  · exact hrest hdrawn

theorem keeps_initBroker {options : InitOptions} (hdrawn : Drawn surroundings distinct world)
    (hhostId : distinct → HostIdOk options.hostId) :
    Keeps surroundings distinct (initBroker paths options timestamp) world := by
  unfold initBroker
  split
  · exact keeps_withLock hdrawn fun _ hlocked =>
      keeps_withLock hlocked fun _ hboth => keeps_initHost hboth hhostId
  · exact keeps_withLock hdrawn fun _ hlocked => keeps_initHost hlocked hhostId

end SimulatorBroker.Hosting
