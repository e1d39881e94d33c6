import Mathlib.Data.List.Perm.Subperm
import Mathlib.Data.List.TakeWhile
import SimulatorBroker.Hosting.Setup
import SimulatorBroker.Safety.Capacity

/-!
# Adding capacity

A confirmed plan gives each missing alias a free name, creates its simulator
under that name, and appends the aliases to the config in one write.
-/

namespace SimulatorBroker.Hosting

open SimulatorBroker.Effects
open SimulatorBroker.State
open SimulatorBroker.Broker
open SimulatorBroker.Safety (ReadConfig evaluateLoadedProject)

variable {surroundings : Surroundings} {distinct : Prop} {world after : World} {hostId : String}
  {paths : BrokerPaths} {timestamp : Timestamp} {config : HostConfig} {base : SimulatorId}
  {planner : CapacityPlanner} {options : CapacityOptions}

/-! ## Names of the plan -/

theorem toString_injective {left right : Nat} (hsame : toString left = toString right) :
    left = right := by
  have hdigits : Nat.toDigits 10 left = Nat.toDigits 10 right := by
    rw [← Nat.toList_repr, ← Nat.toList_repr]
    exact congrArg String.toList hsame
  have hvalue := congrArg (Nat.ofDigitChars 10 · 0) hdigits
  simpa using hvalue

/-- Of one name more than there are, one is free. -/
theorem first_free {named : Nat → AliasName} (hinjective : Function.Injective named)
    (existingAliases : List AliasName) :
    named ((((List.range (existingAliases.length + 1)).map (· + 1)).find?
      fun index => named index ∉ existingAliases).getD 1) ∉ existingAliases := by
  cases hfound : ((List.range (existingAliases.length + 1)).map (· + 1)).find?
      fun index => named index ∉ existingAliases with
  | some index =>
      have hselected := List.find?_some hfound
      simpa using hselected
  | none =>
      exfalso
      have hall : ((List.range (existingAliases.length + 1)).map (· + 1)).map named ⊆
          existingAliases := by
        intro name hmem
        obtain ⟨index, hindex, rfl⟩ := List.mem_map.mp hmem
        simpa using List.find?_eq_none.mp hfound index hindex
      have hnodup : (((List.range (existingAliases.length + 1)).map (· + 1)).map named).Nodup :=
        (List.nodup_range.map (add_left_injective 1)).map hinjective
      have hlength := (hnodup.subperm hall).length_le
      simp only [List.length_map, List.length_range] at hlength
      omega

theorem nextCapacityAlias_free (existingAliases : List AliasName)
    (requirement : CapacityRequirement) :
    nextCapacityAlias existingAliases requirement ∉ existingAliases :=
  first_free (fun _ _ hsame => toString_injective (append_left_cancel hsame)) existingAliases

/-- The aliases of a plan are new, and no two have one name. -/
theorem capacityActions_nodup (needs : List CapacityNeed) (existingAliases : List AliasName)
    (hnodup : existingAliases.Nodup) :
    (existingAliases ++ (capacityActions hostId existingAliases needs).map (·.aliasName)).Nodup := by
  induction needs generalizing existingAliases with
  | nil => simpa [capacityActions] using hnodup
  | cons need rest ih =>
      have hfree := nextCapacityAlias_free existingAliases need.requirement
      have hnext : (existingAliases ++
          [nextCapacityAlias existingAliases need.requirement]).Nodup := by
        rw [← List.concat_eq_append]
        exact List.Nodup.concat hfree hnodup
      have hrest := ih _ hnext
      rw [List.append_assoc] at hrest
      exact hrest

theorem trimEnd_ne_nil {text : List Char} {char : Char} (hmem : char ∈ text)
    (hvisible : isWhiteSpace char = false) : trimEnd text ≠ [] := by
  intro hnil
  unfold trimEnd at hnil
  rw [List.reverse_eq_nil_iff, List.dropWhile_eq_nil_iff] at hnil
  have hspace := hnil char (List.mem_reverse.mpr hmem)
  rw [hvisible] at hspace
  cases hspace

/-- A text with a visible character is not empty. -/
theorem isNonEmptyString_of_mem {text : String} {char : Char} (hmem : char ∈ text.toList)
    (hvisible : isWhiteSpace char = false) : isNonEmptyString text = true := by
  unfold isNonEmptyString trimString trimChars
  rw [decide_eq_true_eq]
  intro hempty
  have hnil : trimEnd (text.toList.dropWhile isWhiteSpace) = [] := by
    simpa using congrArg String.toList hempty
  cases hrest : text.toList.dropWhile isWhiteSpace with
  | nil =>
      have hspace := List.dropWhile_eq_nil_iff.mp hrest char hmem
      rw [hvisible] at hspace
      cases hspace
  | cons first rest =>
      have hfirst := List.head_dropWhile_not isWhiteSpace (by rw [hrest]; simp)
      simp only [hrest, List.head_cons] at hfirst
      rw [hrest] at hnil
      exact trimEnd_ne_nil List.mem_cons_self hfirst hnil

theorem isNonEmptyString_nextCapacityAlias {existingAliases : List AliasName}
    {requirement : CapacityRequirement} :
    isNonEmptyString (nextCapacityAlias existingAliases requirement) = true := by
  unfold nextCapacityAlias
  refine isNonEmptyString_of_mem (?_ : '-' ∈ _) (by decide)
  simp only [String.toList_append, List.mem_append]
  exact .inl (.inr (by decide))

theorem isNonEmptyString_capacityDisplayName {requirement : CapacityRequirement} :
    isNonEmptyString (capacityDisplayName requirement) = true := by
  unfold capacityDisplayName
  refine isNonEmptyString_of_mem (?_ : 'P' ∈ _) (by decide)
  simp only [String.toList_append, List.mem_append]
  refine .inr ?_
  cases requirement.deviceFamily with
  | iPhone => decide
  | iPad => decide

/-- A need that a reader accepts as an alias. -/
def NeedOk (need : CapacityNeed) : Prop :=
  isNonEmptyString need.requirement.capability = true ∧
    isHostSchemaIosVersion need.iosVersion = true

theorem mem_capacityActions (needs : List CapacityNeed) {existingAliases : List AliasName}
    {action : CapacityAction} (hmem : action ∈ capacityActions hostId existingAliases needs) :
    ∃ need ∈ needs, ∃ earlier, action =
      capacityAction hostId (nextCapacityAlias earlier need.requirement) need := by
  induction needs generalizing existingAliases with
  | nil => cases hmem
  | cons need rest ih =>
      rcases List.mem_cons.mp hmem with rfl | hrest
      · exact ⟨need, List.mem_cons_self, existingAliases, rfl⟩
      · obtain ⟨other, hother, hsame⟩ := ih hrest
        exact ⟨other, List.mem_cons_of_mem _ hother, hsame⟩

/-! ## The additions -/

/-- The aliases of the additions so far: those of the actions that came first, each bound to a
simulator that was created for it. -/
structure Added (surroundings : Surroundings) (base : SimulatorId) (world : World) (hostId : String)
    (done : List CapacityAction) (aliases : List HostAlias) : Prop where
  names : aliases.map (·.aliasName) = done.map (·.aliasName)
  actions : ∀ hostAlias ∈ aliases, ∃ action ∈ done,
    hostAlias.aliasName = action.aliasName ∧ hostAlias.capabilities = action.capabilities ∧
      hostAlias.displayName = action.displayName ∧ hostAlias.iosVersion = action.iosVersion
  fresh : ∀ hostAlias ∈ aliases, base ≤ hostAlias.simulatorId
  bears : Bears surroundings world hostId (aliases.map binding)

theorem Added.nil : Added surroundings base world hostId [] [] :=
  ⟨rfl, by simp, by simp, .nil⟩

theorem Added.onward {done : List CapacityAction} {aliases : List HostAlias}
    (hadded : Added surroundings base world hostId done aliases)
    (honward : Onward surroundings world after) :
    Added surroundings base after hostId done aliases :=
  ⟨hadded.names, hadded.actions, hadded.fresh, hadded.bears.onward honward⟩

/-- One more addition, for the simulator created just now. -/
theorem Added.snoc {done : List CapacityAction} {aliases : List HostAlias}
    {action : CapacityAction} {simulatorId : SimulatorId} {added : HostAlias}
    (hadded : Added surroundings base world hostId done aliases)
    (honward : Onward surroundings world after) (hbase : base ≤ world.outside.nextDevice)
    (hfresh : world.outside.nextDevice ≤ simulatorId)
    (hdrawn : simulatorId < after.outside.nextDevice)
    (hnamed : KeepsNames surroundings → ∀ last, nameOf after.outside simulatorId = some last →
      last = simulatorDisplayName hostId action.aliasName)
    (hbinding : binding added = (action.aliasName, simulatorId))
    (hsame : added.capabilities = action.capabilities ∧ added.displayName = action.displayName ∧
      added.iosVersion = action.iosVersion) :
    Added surroundings base after hostId (done ++ [action]) (aliases ++ [added]) := by
  obtain ⟨hname, hid⟩ := Prod.mk.inj hbinding
  constructor
  · rw [List.map_append, List.map_append, hadded.names, List.map_singleton, List.map_singleton,
      hname]
  · intro hostAlias hmem
    rcases List.mem_append.mp hmem with hold | hnew
    · obtain ⟨other, hother, hrest⟩ := hadded.actions hostAlias hold
      exact ⟨other, List.mem_append_left _ hother, hrest⟩
    · rw [List.mem_singleton.mp hnew]
      exact ⟨action, List.mem_append_right _ List.mem_cons_self, hname, hsame⟩
  · intro hostAlias hmem
    rcases List.mem_append.mp hmem with hold | hnew
    · exact hadded.fresh hostAlias hold
    · rw [List.mem_singleton.mp hnew, hid]
      exact hbase.trans hfresh
  · have hother : KeepsNames surroundings → ∀ bound ∈ aliases.map binding, bound.2 ≠ simulatorId :=
      fun _ bound hbound heq =>
        absurd (hadded.bears.drawn bound hbound) (by rw [heq]; exact hfresh.not_gt)
    refine ((hadded.bears.onward honward).cons hdrawn hnamed hother).perm ?_
    rw [List.map_append, List.map_singleton, hbinding]
    exact List.perm_append_singleton _ _

/-! ## The plan of an apply -/

theorem hosts_evaluateLoadedProject {project : ProjectConfig} {before : World}
    (hbefore : Onward surroundings world before) :
    Hosts surroundings distinct (evaluateLoadedProject paths project timestamp true)
      (fun evaluation after => Onward surroundings world after ∧
        ∀ state, evaluation.state = some state → ReadConfig after state.hostConfig)
      (fun _ after => Onward surroundings world after) before := by
  unfold evaluateLoadedProject hostConfigReadable
  have hreadable : Passive (tryCatch (do let _ ← readHostConfigOrThrow; return true)
      fun error => if isMissingHostConfig error then pure false else throw error) := by
    refine .tryCatch (.bind passive_readHostConfigOrThrow fun _ => .pure _) fun error => ?_
    split
    · exact .pure _
    · exact .throw _
  refine .seq (Hosts.frame (hostless_of_passive hreadable)) (fun _ _ h => hbefore.trans h)
    fun readable third hthird => ?_
  have honward := hbefore.trans hthird
  split
  · refine .either (Hosts.frame (hostless_of_passive passive_readSimctlInventory))
      (fun inventory listed hlisted => ?_)
      fun _ _ h => .pure ⟨honward.trans h, by simp⟩
    refine .either hosts_loadBrokerState ?_ fun error failed hfailed => ?_
    · rintro state loaded ⟨hconfig, hloaded⟩
      refine .pure ⟨(honward.trans hlisted).trans hloaded, ?_⟩
      rintro other ⟨⟩
      exact hconfig.of_hostConfig hloaded.hostConfig
    · simp only
      split
      · exact .pure ⟨(honward.trans hlisted).trans hfailed, by simp⟩
      · exact .throw ((honward.trans hlisted).trans hfailed)
  · exact .pure ⟨honward, by simp⟩

/-- The state of the evaluation is about the config on disk. -/
theorem hosts_buildCapacityEvaluation :
    Hosts surroundings distinct (buildCapacityEvaluation paths options true)
      (fun evaluation after => Onward surroundings world after ∧
        ∀ state, evaluation.state = some state → ReadConfig after state.hostConfig)
      (fun _ after => Onward surroundings world after) world := by
  unfold buildCapacityEvaluation loadCapacityProject
  refine .seq (Hosts.frame (hostless_perform rfl)) (fun _ _ h => h) fun timestamp first hfirst => ?_
  have hproject : Hostless (tryCatch
      (do
        let project ← perform .readProject
        return some project)
      fun error : BrokerError =>
        if error.reasonCode = some .missingProjectFile then pure none else throw error) := by
    refine .tryCatch (.bind (hostless_perform rfl) fun _ => .pure _) fun error => ?_
    split
    · exact .pure _
    · exact .throw _
  refine .seq (Hosts.frame hproject) (fun _ _ h => hfirst.trans h) fun project second hsecond => ?_
  have hbegun := hfirst.trans hsecond
  cases project with
  | none =>
      exact .seq (Hosts.frame (hostless_perform rfl)) (fun _ _ h => hbegun.trans h)
        fun _ _ h => .pure ⟨hbegun.trans h, by simp⟩
  | some project =>
      simp only
      cases options.purposeId with
      | none => exact hosts_evaluateLoadedProject hbegun
      | some purposeId =>
          exact .seq (Hosts.frame (hostless_of_passive passive_getPurpose))
            (fun _ _ h => hbegun.trans h) fun _ _ h => hosts_evaluateLoadedProject (hbegun.trans h)

/-- The actions of a plan are for the config on disk. -/
def PlansFor (world : World) (planner : CapacityPlanner) (plan : CapacityPlan) : Prop :=
  plan.actions = [] ∨ ∃ config evaluation, ReadConfig world config ∧
    plan.actions =
      capacityActions config.hostId config.aliasNames (planner evaluation).needs

theorem PlansFor.onward {plan : CapacityPlan} (hplans : PlansFor world planner plan)
    (honward : Onward surroundings world after) : PlansFor after planner plan := by
  rcases hplans with hempty | ⟨config, evaluation, hread, hactions⟩
  · exact .inl hempty
  · exact .inr ⟨config, evaluation, hread.of_hostConfig honward.hostConfig, hactions⟩

theorem hosts_buildCapacityPlan :
    Hosts surroundings distinct (buildCapacityPlan paths planner options true)
      (fun plan after => Onward surroundings world after ∧ PlansFor after planner plan)
      (fun _ after => Onward surroundings world after) world := by
  unfold buildCapacityPlan
  refine .seq hosts_buildCapacityEvaluation (fun _ _ h => h) ?_
  rintro evaluation after ⟨honward, hstate⟩
  refine .pure ⟨honward, ?_⟩
  cases hsome : evaluation.state with
  | none => exact .inl rfl
  | some state => exact .inr ⟨state.hostConfig, evaluation, hstate state hsome, rfl⟩

/-! ## Creating and committing -/

theorem static_writeCapacityTransaction {transaction : CapacityTransaction} :
    Static (writeCapacityTransaction transaction) :=
  static_writeJsonAtomicRestricted rfl

theorem static_appendCapacityEvent {type : EventType} :
    Static (appendCapacityEvent type timestamp) :=
  .bind static_appendEventRecord fun _ => .pure _

theorem static_recordCapacityRejection : Static (recordCapacityRejection timestamp) :=
  .bind (.bind (static_perform rfl) fun _ => .pure _) fun _ =>
    .bind static_writeCapacityTransaction fun _ => static_appendCapacityEvent

theorem static_admitCapacityPlan {plan : CapacityPlan} :
    Static (admitCapacityPlan options plan timestamp) := by
  unfold admitCapacityPlan
  split
  · exact .pure _
  · exact .bind static_recordCapacityRejection fun _ => .throw _

theorem static_buildCapacityPlan {apply : Bool} :
    Static (buildCapacityPlan paths planner options apply) :=
  .bind static_buildCapacityEvaluation fun _ => .pure _

/-- The alias that the addition of an action becomes. -/
theorem hosts_createAdditions (actions : List CapacityAction) (transaction : CapacityTransaction)
    (done : List CapacityAction) {before : World} (hdrawn : Drawn surroundings distinct before)
    (hbase : base ≤ before.outside.nextDevice)
    (hnames : ∀ action ∈ actions,
      action.simulatorName = simulatorDisplayName hostId action.aliasName)
    (hadded : Added surroundings base before hostId done
      (transaction.additions.filterMap additionAlias)) :
    Hosts surroundings distinct (createAdditions timestamp actions transaction)
      (fun progress after => Onward surroundings before after ∧ (progress.error = none →
        Added surroundings base after hostId (done ++ actions)
          (progress.transaction.additions.filterMap additionAlias)))
      (fun _ after => Onward surroundings before after) before := by
  induction actions generalizing transaction done before with
  | nil =>
      refine .pure ⟨.refl _, fun _ => ?_⟩
      rwa [List.append_nil]
  | cons action rest ih =>
      unfold createAdditions
      simp only
      refine .either (Hosts.frame (.bind (hostless_of_loading loading_readSimctlInventory)
        fun _ => .pure _)) (fun preCreateDeviceIds captured hcaptured => ?_)
        fun _ _ h => .pure ⟨h, by simp⟩
      refine .either (Hosts.frame (hostless_of_static static_writeCapacityTransaction))
        (fun _ journaled hjournaled => ?_) fun _ _ h => .pure ⟨hcaptured.trans h, by simp⟩
      have hbegun := hcaptured.trans hjournaled
      refine .either (hosts_createDevice (hdrawn.onward hbegun).devices) ?_
        fun _ _ h => .pure ⟨hbegun.trans h, by simp⟩
      rintro simulatorId created ⟨hcreated, hfresh, hid, hnamed⟩
      refine .either (Hosts.frame (hostless_of_static static_writeCapacityTransaction))
        (fun _ recorded hrecorded => ?_)
        fun _ _ h => .pure ⟨(hbegun.trans hcreated).trans h, by simp⟩
      have honward := (hbegun.trans hcreated).trans hrecorded
      have hlater := hcreated.trans hrecorded
      have hnext : Added surroundings base recorded hostId (done ++ [action])
          ((transaction.additions.filterMap additionAlias) ++
            [{ aliasName := action.aliasName, capabilities := action.capabilities
               deviceFamily := action.deviceFamily, displayName := action.displayName
               iosVersion := action.iosVersion, resetPolicy := action.resetPolicy
               simulatorId }]) := by
        refine (hadded.onward hbegun).snoc hlater (hbase.trans hbegun.later.nextDevice) hfresh
          (hid.trans_le hrecorded.later.nextDevice) ?_ rfl ⟨rfl, rfl, rfl⟩
        intro hkeeps last hlast
        rw [hnamed hkeeps last (hrecorded.nameOf hkeeps hid hlast)]
        exact hnames action List.mem_cons_self
      have happend : done ++ action :: rest = (done ++ [action]) ++ rest := by simp
      rw [happend]
      refine (ih _ (done ++ [action]) (hdrawn.onward honward)
        (hbase.trans honward.later.nextDevice)
        (fun other hother => hnames other (List.mem_cons_of_mem _ hother)) ?_).weaken ?_
          fun _ _ h => honward.trans h
      · rw [List.filterMap_append]
        exact hnext
      · rintro progress after ⟨hafter, hresult⟩
        exact ⟨honward.trans hafter, hresult⟩

/-- The config with the aliases of the plan. -/
theorem kept_additions {needs : List CapacityNeed} {aliases : List HostAlias}
    (hdrawn : Drawn surroundings distinct world) (hread : ReadConfig world config)
    (hbase : ∀ simulatorId ∈ config.simulatorIds, simulatorId < base)
    (hneeds : distinct → ∀ need ∈ needs, NeedOk need)
    (hadded : Added surroundings base world config.hostId
      (capacityActions config.hostId config.aliasNames needs) aliases) :
    Kept surroundings distinct world { config with aliases := config.aliases ++ aliases } := by
  have hkept := Kept.read hdrawn hread
  constructor
  · exact hdrawn
  · refine hkept.retains.next ?_ ?_
    · intro simulatorId hmem
      rcases List.mem_append.mp hmem with hbound | hpending
      · obtain ⟨hostAlias, hhostAlias, rfl⟩ := List.mem_map.mp hbound
        rcases List.mem_append.mp hhostAlias with hold | hnew
        · exact hkept.retains.drawn _ (List.mem_append_left _ (List.mem_map_of_mem hold))
        · exact hadded.bears.drawn (binding hostAlias) (List.mem_map_of_mem hnew)
      · exact hkept.retains.drawn _ (List.mem_append_right _ hpending)
    · intro _ simulatorId hmem
      refine .inl ?_
      rcases List.mem_append.mp hmem with hbound | hpending
      · obtain ⟨hostAlias, hhostAlias, rfl⟩ := List.mem_map.mp hbound
        exact List.mem_append_left _ (List.mem_map_of_mem (List.mem_append_left _ hhostAlias))
      · exact List.mem_append_right _ hpending
  · intro hkeeps hdistinct
    obtain ⟨⟨hnames, hsimulators, hvalid, hhostId, hpolicy⟩, hnamed⟩ :=
      hkept.sound hkeeps hdistinct
    refine ⟨⟨?_, ?_, ?_, hhostId, hpolicy⟩, ?_⟩
    · show (List.map _ _).Nodup
      rw [List.map_append, hadded.names]
      exact capacityActions_nodup needs config.aliasNames hnames
    · show (List.map _ _).Nodup
      rw [List.map_append]
      have hnew := hadded.bears.simulators hkeeps
      rw [List.map_map] at hnew
      refine List.nodup_append.mpr ⟨hsimulators, hnew, ?_⟩
      rintro simulatorId hold other hother rfl
      obtain ⟨hostAlias, hhostAlias, hsame⟩ := List.mem_map.mp hother
      have hfresh := hadded.fresh hostAlias hhostAlias
      rw [hsame] at hfresh
      exact absurd (hbase simulatorId hold) hfresh.not_gt
    · intro hostAlias hmem
      rcases List.mem_append.mp hmem with hold | hnew
      · exact hvalid hostAlias hold
      · obtain ⟨action, haction, hname, hcapabilities, hdisplay, hversion⟩ :=
          hadded.actions hostAlias hnew
        obtain ⟨need, hneed, earlier, rfl⟩ := mem_capacityActions needs haction
        obtain ⟨hcapability, hschema⟩ := hneeds hdistinct need hneed
        refine ⟨?_, ?_, ?_, ?_, ?_⟩
        · rw [hname]
          exact isNonEmptyString_nextCapacityAlias
        · rw [hcapabilities]
          exact List.cons_ne_nil _ _
        · rw [hcapabilities]
          simpa [capacityAction] using hcapability
        · rw [hdisplay]
          exact isNonEmptyString_capacityDisplayName
        · rw [hversion]
          exact hschema
    · intro hostAlias hmem name hname
      rcases List.mem_append.mp hmem with hold | hnew
      · exact hnamed hostAlias hold name hname
      · exact simulatorDisplayName_injective
          (hadded.bears.named hkeeps (binding hostAlias) (List.mem_map_of_mem hnew) _ hname)

theorem ReadConfig.unique {other : HostConfig} (hread : ReadConfig world config)
    (hother : ReadConfig world other) : other = config := by
  obtain ⟨disk, hdisk, -, rfl⟩ := hread
  obtain ⟨again, hagain, -, rfl⟩ := hother
  rw [hdisk] at hagain
  cases hagain
  rfl

/-! ## The command -/

theorem hostless_resolvePlannedCapacityAdditions {transaction : CapacityTransaction} :
    Hostless (resolvePlannedCapacityAdditions transaction) := by
  unfold resolvePlannedCapacityAdditions
  split
  · exact .bind (hostless_of_loading loading_readSimctlInventory) fun _ => .pure _
  · exact .pure _

theorem hostless_deleteCapacityDevice {simulatorId : SimulatorId} :
    Hostless (deleteCapacityDevice simulatorId) := by
  unfold deleteCapacityDevice
  refine .bind (hostless_perform rfl) fun _ =>
    .bind (hostless_of_loading loading_readSimctlInventory) fun inventory => ?_
  split
  · exact .throw _
  · exact .pure _

theorem hostless_journal {α : Type} {transaction : CapacityTransaction} {type : EventType}
    {rest : Broker α} (hrest : Hostless rest) :
    Hostless (do
      writeCapacityTransaction transaction
      appendCapacityEvent type timestamp
      rest) :=
  .bind (hostless_of_static static_writeCapacityTransaction) fun _ =>
    .bind (hostless_of_static static_appendCapacityEvent) fun _ => hrest

theorem hostless_rollbackCapacityTransaction {α : Type} {transaction : CapacityTransaction} :
    Hostless (rollbackCapacityTransaction transaction timestamp : Broker α) := by
  unfold rollbackCapacityTransaction
  refine .bind hostless_resolvePlannedCapacityAdditions fun resolution =>
    .bind (.foldlM (fun failedDeletes simulatorId => ?_) _ _) fun failedDeletes => ?_
  · exact .tryCatch (.bind hostless_deleteCapacityDevice fun _ => .pure _) fun _ => .pure _
  · split
    · exact hostless_journal (.throw _)
    · exact hostless_journal (.throw _)

theorem hostless_recoverTransaction {hostConfig : Option HostConfig}
    {transaction : CapacityTransaction} :
    Hostless (recoverTransaction hostConfig timestamp transaction) := by
  have hsettle : ∀ resolved : CapacityTransaction,
      Hostless (settleTransaction hostConfig timestamp resolved) := by
    intro resolved
    unfold settleTransaction settleRecovery failRecovery
    simp only
    split
    · exact .bind (hostless_of_static static_writeCapacityTransaction) fun _ =>
        hostless_of_static static_appendCapacityEvent
    · split
      · exact hostless_journal (.throw _)
      · refine .bind (.tryCatch (.forM (fun _ => hostless_deleteCapacityDevice) _)
          fun _ => hostless_journal (.throw _)) fun _ => ?_
        exact .bind (hostless_of_static static_writeCapacityTransaction) fun _ =>
          hostless_of_static static_appendCapacityEvent
  unfold recoverTransaction
  split
  · exact .pure _
  · refine .bind hostless_resolvePlannedCapacityAdditions fun resolution => ?_
    have hrest : Hostless (if resolutionAmbiguous resolution then
        failRecovery { transaction with additions := resolution.map (·.addition) }
          .rollbackIncomplete .capacityReconcileRollbackIncomplete .capacityRollbackIncomplete
          timestamp
      else settleTransaction hostConfig timestamp
        { transaction with additions := resolution.map (·.addition) }) := by
      split
      · exact hostless_journal (.throw _)
      · exact hsettle _
    simp only
    split
    · exact .bind (hostless_of_static static_writeCapacityTransaction) fun _ => hrest
    · exact hrest

theorem hostless_recoverCapacityTransactions : Hostless recoverCapacityTransactions := by
  unfold recoverCapacityTransactions
  refine .bind (hostless_perform rfl) fun timestamp => .bind (hostless_perform rfl)
    fun transactions => ?_
  split
  · exact .pure _
  · refine .bind (hostless_perform rfl) fun found => ?_
    cases found with
    | none => exact .bind (.pure _) fun _ => .forM (fun _ => hostless_recoverTransaction) _
    | some config =>
        refine .bind (.map ?_) fun _ => .forM (fun _ => hostless_recoverTransaction) _
        unfold validateHostConfig
        split
        · exact .pure _
        · exact .throw _

/-- Every need of a plan is one that a reader accepts as an alias. -/
def PlansNeeds (planner : CapacityPlanner) : Prop :=
  ∀ evaluation, ∀ need ∈ (planner evaluation).needs, NeedOk need

theorem keeps_applyCapacityPlan {plan : CapacityPlan}
    (hdrawn : Drawn surroundings distinct world) (hneeds : distinct → PlansNeeds planner)
    (hplans : PlansFor world planner plan) (hsome : plan.actions ≠ []) :
    Keeps surroundings distinct (applyCapacityPlan paths plan timestamp) world := by
  obtain ⟨config, evaluation, hread, hactions⟩ := hplans.resolve_left hsome
  have hbound : ∀ simulatorId ∈ config.simulatorIds, simulatorId < world.outside.nextDevice :=
    fun simulatorId hmem =>
      (Kept.read hdrawn hread).retains.drawn _ (List.mem_append_left _ hmem)
  have hnames : ∀ action ∈ plan.actions,
      action.simulatorName = simulatorDisplayName config.hostId action.aliasName := by
    rw [hactions]
    intro action hmem
    obtain ⟨need, -, earlier, rfl⟩ := mem_capacityActions _ hmem
    rfl
  unfold applyCapacityPlan createCapacityTransaction
  have hstart : Hosts surroundings distinct (do
        let transactionId ← perform .randomUuid
        return ({ transactionId, status := .intent, updatedAt := timestamp } : CapacityTransaction))
      (fun transaction after => Onward surroundings world after ∧ transaction.additions = [])
      (fun _ after => Onward surroundings world after) world :=
    .seq (Hosts.frame (hostless_perform rfl)) (fun _ _ h => h) fun _ _ h => .pure ⟨h, rfl⟩
  refine .seq hstart (fun _ _ h => hdrawn.onward h) ?_
  rintro transaction begun ⟨hbegun, hempty⟩
  refine .seq (Hosts.frame (hostless_of_static static_writeCapacityTransaction))
    (fun _ _ h => hdrawn.onward (hbegun.trans h)) fun _ journaled hjournaled => ?_
  have honward := hbegun.trans hjournaled
  have hready := hdrawn.onward honward
  have hnothing : Added surroundings world.outside.nextDevice journaled config.hostId []
      (transaction.additions.filterMap additionAlias) := by
    rw [hempty]
    exact .nil
  refine .seq (hosts_createAdditions plan.actions transaction [] hready honward.later.nextDevice
    hnames hnothing) (fun _ _ h => hready.onward h) ?_
  rintro progress created ⟨hcreated, hadded⟩
  have hdone := hready.onward hcreated
  cases herror : progress.error with
  | some error => exact keeps_of_hostless hdone hostless_rollbackCapacityTransaction
  | none =>
      have haliases := hadded herror
      rw [List.nil_append, hactions] at haliases
      have hall := honward.trans hcreated
      have hcommit : Hosts surroundings distinct (commitCapacityAdditions progress.transaction)
          (fun _ after => Drawn surroundings distinct after)
          (fun _ after => Drawn surroundings distinct after) created := by
        unfold commitCapacityAdditions
        refine .seq hosts_readHostConfigOrThrow (fun _ _ h => hdone.onward h) ?_
        rintro current read ⟨hcurrent, hlater⟩
        have hthere := hread.of_hostConfig (hall.trans hlater).hostConfig
        obtain rfl := ReadConfig.unique hthere (hcurrent.of_hostConfig hlater.hostConfig)
        exact (hosts_writeJsonAtomicDurable (kept_additions (hdone.onward hlater) hthere hbound
          (fun hdistinct => hneeds hdistinct evaluation) (haliases.onward hlater))).weaken
          (fun _ _ h => h.drawn) fun _ _ h => h.drawn
      refine .either hcommit (fun _ committed hcommitted => ?_) fun failure failed hfailed => ?_
      · refine (keeps_of_static hcommitted ?_).tryCatch fun _ after hafter =>
          keeps_of_hostless hafter (hostless_journal (.throw _))
        exact .bind static_writeCapacityTransaction fun _ => .bind static_loadBrokerState fun _ =>
          .bind static_writeCapacityTransaction fun _ => static_appendCapacityEvent
      · simp only
        split
        · exact keeps_of_hostless hfailed (hostless_journal (.throw _))
        · exact keeps_of_hostless hfailed hostless_rollbackCapacityTransaction

theorem keeps_reconcileCapacity (hdrawn : Drawn surroundings distinct world)
    (hneeds : distinct → PlansNeeds planner) :
    Keeps surroundings distinct (reconcileCapacity paths planner options timestamp) world := by
  unfold reconcileCapacity
  refine .seq (keeps_of_hostless hdrawn hostless_recoverCapacityTransactions) (fun _ _ h => h)
    fun _ recovered hrecovered => ?_
  refine .seq hosts_buildCapacityPlan (fun _ _ h => hrecovered.onward h) ?_
  rintro plan planned ⟨hplanned, hplans⟩
  have hready := hrecovered.onward hplanned
  refine .seq (Hosts.frame (hostless_of_static static_admitCapacityPlan))
    (fun _ _ h => hready.onward h) fun _ admitted hadmitted => ?_
  split
  · refine keeps_of_static (hready.onward hadmitted) ?_
    exact .bind (.bind (static_perform rfl) fun _ => .pure _) fun _ =>
      .bind static_writeCapacityTransaction fun _ => static_appendCapacityEvent
  · exact keeps_applyCapacityPlan (hready.onward hadmitted) hneeds (hplans.onward hadmitted)
      (by assumption)

theorem keeps_reconcileCapacityBroker (hdrawn : Drawn surroundings distinct world)
    (hneeds : distinct → PlansNeeds planner) :
    Keeps surroundings distinct (reconcileCapacityBroker paths planner options timestamp)
      world := by
  unfold reconcileCapacityBroker
  split
  · refine .seq (?_ : Keeps surroundings distinct _ world) (fun _ _ h => h) fun _ _ h => .throw h
    exact keeps_of_hostless hdrawn (hostless_ignoringErrors (hostless_of_static
      (static_withLock (by decide) (.bind static_buildCapacityPlan fun _ =>
        static_recordCapacityRejection))))
  · refine keeps_withLock hdrawn fun locked hlocked => ?_
    refine .seq (Hosts.frame (hostless_of_static static_buildCapacityPlan))
      (fun _ _ h => hlocked.onward h) fun _ planned hplanned => ?_
    have hready := hlocked.onward hplanned
    refine .seq (Hosts.frame (hostless_of_static static_admitCapacityPlan))
      (fun _ _ h => hready.onward h) fun _ admitted hadmitted => ?_
    exact keeps_withLock (hready.onward hadmitted) fun _ hboth =>
      keeps_reconcileCapacity hboth hneeds

end SimulatorBroker.Hosting
