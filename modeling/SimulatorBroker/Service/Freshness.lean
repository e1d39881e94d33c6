import SimulatorBroker.Service.AppBudget

/-!
# When the app's budget covers the daemon's

The daemon refuses a command whose budget it computes to be larger than the one
the app sent along.  For each command of the dashboard, the files on which that
does not happen.
-/

namespace SimulatorBroker.Service

open App (DashboardCommand)

/-! ## The condition -/

/-- A request for capacity selects one purpose of the project file, or the file has no other. -/
def SelectsOnePurpose (purposes : List String) (purposeId : Option String) : Prop :=
  purposes.length ≤ 1 ∨ ∃ purpose ∈ purposes, purposeId = some purpose ∧ isBlank purpose = false

/-- The transactions can be listed, and each has come to its end. -/
def NoUnfinishedTransaction : Listing TransactionFile → Prop
  | .missing => True
  | .unreadable => False
  | .entries files => ∀ transaction ∈ files.filterMap StoredFile.read,
      transaction.status ∈ terminalTransactionStatuses

/-- The files on which the app's budget for a command is large enough. -/
def Covered (files : ServiceFiles) : DashboardCommand → Prop
  | .releaseLease =>
      files.leases ≠ .unreadable ∧ enabledSlotReclaimCandidateCount files = 0
  | .loadCapacityPreview _ _ => True
  | .applyConfirmedCapacityPlan projectFilePath purposeId =>
      let request := (DashboardCommand.applyConfirmedCapacityPlan projectFilePath purposeId).request
      files.leases ≠ .unreadable ∧ NoUnfinishedTransaction files.capacityTransactions ∧
        SelectsOnePurpose (projectPurposes (dispatchBudgetPaths files request))
          request.options.purposeId
  | _ => files.leases ≠ .unreadable

/-! ## Leases -/

/-- Both sides see the same leases as containable. -/
theorem hasContainmentProcessMetadata_eq (lease : LeaseFile) :
    App.hasContainmentProcessMetadata lease = leaseHasContainmentProcessMetadata lease := by
  obtain ⟨runtime⟩ := lease
  cases runtime with
  | none => rfl
  | some runtime =>
      have hpositive : ∀ field : Option Nat, decide (0 < field.getD 0) = field.any (0 < ·) := by
        intro field
        cases field <;> rfl
      have hnames : runtime.simulatorProcessNames.filter (!isBlank ·) =
          runtime.simulatorProcessNames := by
        rw [List.filter_eq_self]
        intro name hname
        rw [runtime.named name hname]
        rfl
      simp only [App.hasContainmentProcessMetadata, leaseHasContainmentProcessMetadata,
        hpositive, hnames]

/-- The leases that a state load may have to contain. -/
def containableLeases : Listing LeaseFile → Nat
  | .entries leases => (leases.filterMap StoredFile.read).countP leaseHasContainmentProcessMetadata
  | _ => 0

theorem staleContainmentLeaseCountFromPaths_eq {files : ServiceFiles}
    (hreadable : files.leases ≠ .unreadable) :
    staleContainmentLeaseCountFromPaths files = .ok (containableLeases files.leases) := by
  unfold staleContainmentLeaseCountFromPaths
  cases hleases : files.leases with
  | missing => rfl
  | unreadable => exact absurd hleases hreadable
  | entries leases => rfl

theorem staleContainmentLeaseCount_eq {request : CommandRequest} (files : ServiceFiles)
    (hexplicit : request.options.staleContainmentLeaseCount = none) :
    App.staleContainmentLeaseCount request files = containableLeases files.leases := by
  unfold App.staleContainmentLeaseCount containableLeases
  rw [hexplicit]
  cases files.leases with
  | missing => rfl
  | unreadable => rfl
  | entries leases =>
      exact congrArg (fun p => List.countP p _) (funext hasContainmentProcessMetadata_eq)

/-! ## State loads -/

/-- A request that neither counts leases itself nor sets how long to wait for them. -/
structure PlainLoads (request : CommandRequest) : Prop where
  mayRun : commandMayRunStaleContainment request = true
  count : request.options.staleContainmentLeaseCount = none
  termWait : request.options.termWaitMs = none

variable {files : ServiceFiles} {request : CommandRequest}

theorem brokerStateLoadBudgetMs_eq (hplain : PlainLoads request)
    (hreadable : files.leases ≠ .unreadable) (stateLoadCount : Nat) :
    brokerStateLoadBudgetMs files request stateLoadCount =
      .ok (stateLoadCount * 370000 + stateLoadCount * containableLeases files.leases * 80300) := by
  have hlease : staleLeaseBudgetMs request = 80300 := by
    simp [staleLeaseBudgetMs, staleContainmentTermWaitMs, hplain.termWait, nonNegativeInteger,
      staleContainmentProcessSamplerInvocations, processSamplerTimeoutMs,
      defaultContainmentPostKillWaitMs, defaultContainmentPostKillPollMs,
      defaultContainmentTermWaitMs]
  have hload : stateLoadBudgetMs stateLoadCount = stateLoadCount * 370000 := rfl
  by_cases hzero : stateLoadCount = 0
  · simp [brokerStateLoadBudgetMs, staleContainmentBudgetMs, hplain.mayRun, hzero]
    rfl
  · simp [brokerStateLoadBudgetMs, staleContainmentBudgetMs, hplain.mayRun, hload, hzero,
      hplain.count, staleContainmentLeaseCountFromPaths_eq hreadable, hlease]

theorem brokerStateLoadBudgetMs_unreadable (hplain : PlainLoads request)
    (hunreadable : files.leases = .unreadable) {stateLoadCount : Nat}
    (hsome : stateLoadCount ≠ 0) :
    brokerStateLoadBudgetMs files request stateLoadCount = .error .directoryUnreadable := by
  simp [brokerStateLoadBudgetMs, staleContainmentBudgetMs, hplain.mayRun, hsome, hplain.count,
    staleContainmentLeaseCountFromPaths, hunreadable, Listing.list]

theorem brokerStateLoadBudgetSeconds_eq (hplain : PlainLoads request) (files : ServiceFiles)
    (stateLoadCount : Nat) :
    App.brokerStateLoadBudgetSeconds request files stateLoadCount =
      stateLoadCount * 370 +
        App.wholeSeconds (stateLoadCount * containableLeases files.leases * 80300) := by
  have hmay : App.mayRunStaleContainment request = true := hplain.mayRun
  unfold App.brokerStateLoadBudgetSeconds App.staleContainmentBudgetSeconds
  rw [staleContainmentLeaseCount_eq files hplain.count, hplain.termWait, if_neg (by simp [hmay])]
  by_cases hzero : stateLoadCount = 0
  · simp [hzero, App.wholeSeconds]
  · by_cases hnone : containableLeases files.leases = 0
    · simp [hzero, hnone, App.wholeSeconds, App.stateLoadBudgetSeconds,
        App.simctlInventoryCommandsPerStateLoad, App.simctlCommandTimeoutSeconds,
        App.processSamplerInvocationsPerStateLoad, App.processSamplerTimeoutSeconds]
    · rw [if_neg hzero, if_neg hnone]
      rfl

/-- Rounding up to seconds adds less than one. -/
theorem wholeSeconds_bounds (milliseconds : Nat) :
    milliseconds ≤ App.wholeSeconds milliseconds * 1000 ∧
      App.wholeSeconds milliseconds * 1000 < milliseconds + 1000 := by
  unfold App.wholeSeconds
  omega

/-! ## Commands with one state load before and one after -/

/-- The daemon's budget fits into the app's. -/
def Fits (files : ServiceFiles) (request : CommandRequest) : Prop :=
  ∃ budget, commandExecutionTimeoutMsForDispatch files request = .ok budget ∧
    budget ≤ App.calculatedExecutionTimeoutSeconds request files * 1000

/-- What a command is given beyond the lease lock and its two state loads. -/
def extraMs (files : ServiceFiles) (request : CommandRequest) : Nat :=
  match request.group, request.command with
  | .simulators, .repair | .simulators, .delete =>
      capacityLockTimeoutMs request + simulatorLifecycleSimctlBudgetMs files request
  | .simulators, _ => simulatorLifecycleSimctlBudgetMs files request
  | .idle, _ =>
      idleShutdownSimctlBudgetMs files request + idleReconcileSlotReclaimBudgetMs files request
  | .lease, _ => leaseReleaseSlotReclaimBudgetMs files request
  | _, _ => 0

def extraSeconds (files : ServiceFiles) (request : CommandRequest) : Nat :=
  match request.group, request.command with
  | .simulators, .repair | .simulators, .delete =>
      App.capacityLockTimeoutSeconds request
        + App.simulatorLifecycleSimctlBudgetSeconds request files
  | .simulators, _ => App.simulatorLifecycleSimctlBudgetSeconds request files
  | .idle, _ => App.idleShutdownSimctlBudgetSeconds request files
  | _, _ => 0

/-- The commands of the dashboard that mutate one simulator, pin, lease or policy. -/
inductive Mutation : DashboardCommand → Prop where
  | releaseLease : Mutation .releaseLease
  | clearPin : Mutation .clearPin
  | createPin (projectFilePath purposeId : String) : Mutation (.createPin projectFilePath purposeId)
  | lifecycle (action : App.LifecycleAction) : Mutation (.performLifecycleAction action)
  | applyIdlePolicy : Mutation .applyIdlePolicy
  | disableIdlePolicy : Mutation .disableIdlePolicy
  | requestIdleCleanup : Mutation .requestIdleCleanup
  | applyConfirmedIdleCleanup : Mutation .applyConfirmedIdleCleanup

namespace Mutation

variable {command : DashboardCommand}

theorem plainLoads (hmutation : Mutation command) : PlainLoads command.request := by
  cases hmutation with
  | lifecycle action => cases action <;> exact ⟨rfl, rfl, rfl⟩
  | _ => exact ⟨rfl, rfl, rfl⟩

theorem stateLoadCount (hmutation : Mutation command) :
    brokerStateLoadCount command.request = 2 ∧ App.commandStateLoadCount command.request = 2 := by
  cases hmutation with
  | lifecycle action => cases action <;> exact ⟨rfl, rfl⟩
  | _ => exact ⟨rfl, rfl⟩

/-- The lease lock is waited for twice, a minute each time. -/
theorem locks (hmutation : Mutation command) :
    leaseLockTimeoutMs command.request = 60000 ∧
      finalSnapshotLeaseLockTimeoutMs command.request = 60000 ∧
      App.leaseLockTimeoutSeconds command.request = 60 ∧
      App.finalSnapshotLeaseLockTimeoutSeconds command.request = 60 := by
  have hwrites : App.writesFinalSnapshot command.request = true := by
    cases hmutation with
    | lifecycle action => cases action <;> rfl
    | _ => rfl
  have hoption : command.request.options.leaseLockTimeoutMilliseconds = none := by
    cases hmutation with
    | lifecycle action => cases action <;> rfl
    | _ => rfl
  have happ : App.leaseLockTimeoutSeconds command.request = 60 := by
    rw [App.leaseLockTimeoutSeconds, hoption]
    rfl
  refine ⟨?_, ?_, happ, (if_pos hwrites).trans happ⟩
  · cases hmutation with
    | lifecycle action => cases action <;> rfl
    | _ => rfl
  · cases hmutation with
    | lifecycle action => cases action <;> rfl
    | _ => rfl

theorem serviceBudget (hmutation : Mutation command) (files : ServiceFiles) :
    serviceCommandExecutionTimeoutMs files command.request =
      (brokerStateLoadBudgetMs files command.request (brokerStateLoadCount command.request)).map
        fun stateLoads => defaultCommandTimeoutMs + leaseLockTimeoutMs command.request
          + finalSnapshotLeaseLockTimeoutMs command.request + stateLoads
          + extraMs files command.request := by
  unfold serviceCommandExecutionTimeoutMs
  cases brokerStateLoadBudgetMs files command.request (brokerStateLoadCount command.request) with
  | error _ => rfl
  | ok stateLoads =>
      have hcapacity : ∀ lock lease snapshot extra : Nat,
          defaultCommandTimeoutMs + lock + lease + snapshot + stateLoads + extra =
            defaultCommandTimeoutMs + lease + snapshot + stateLoads + (lock + extra) := by
        intro lock lease snapshot extra
        omega
      cases hmutation with
      | lifecycle action =>
          cases action with
          | repair => exact congrArg Except.ok (hcapacity _ _ _ _)
          | delete => exact congrArg Except.ok (hcapacity _ _ _ _)
          | _ => rfl
      | requestIdleCleanup => exact congrArg Except.ok (Nat.add_assoc _ _ _)
      | applyConfirmedIdleCleanup => exact congrArg Except.ok (Nat.add_assoc _ _ _)
      | applyIdlePolicy => exact congrArg Except.ok (Nat.add_assoc _ _ _)
      | disableIdlePolicy => exact congrArg Except.ok (Nat.add_assoc _ _ _)
      | _ => rfl

theorem appBudget (hmutation : Mutation command) (files : ServiceFiles) :
    App.calculatedExecutionTimeoutSeconds command.request files =
      App.defaultCommandTimeoutSeconds + App.leaseLockTimeoutSeconds command.request
        + App.finalSnapshotLeaseLockTimeoutSeconds command.request
        + App.brokerStateLoadBudgetSeconds command.request files
          (App.commandStateLoadCount command.request)
        + extraSeconds files command.request := by
  have hcapacity : ∀ lock lease snapshot stateLoads extra : Nat,
      App.defaultCommandTimeoutSeconds + lock + lease + snapshot + stateLoads + extra =
        App.defaultCommandTimeoutSeconds + lease + snapshot + stateLoads + (lock + extra) := by
    intro lock lease snapshot stateLoads extra
    omega
  cases hmutation with
  | lifecycle action =>
      cases action with
      | repair => exact hcapacity _ _ _ _ _
      | delete => exact hcapacity _ _ _ _ _
      | _ => rfl
  | _ => rfl

end Mutation

theorem dispatchBudgetPaths_eq (files : ServiceFiles) (request : CommandRequest) :
    (dispatchBudgetPaths files request).leases = files.leases ∧
      (dispatchBudgetPaths files request).hostConfig = files.hostConfig ∧
      (dispatchBudgetPaths files request).capacityTransactions = files.capacityTransactions := by
  unfold dispatchBudgetPaths
  split
  · split <;> exact ⟨rfl, rfl, rfl⟩
  · exact ⟨rfl, rfl, rfl⟩

/-- A mutation fits when its extra budget does; half a minute more is never enough. -/
theorem Mutation.fits_iff {command : DashboardCommand} (hmutation : Mutation command)
    (files : ServiceFiles) :
    let extra := extraMs (dispatchBudgetPaths files command.request) command.request
    (extra ≤ extraSeconds files command.request * 1000 ∧ files.leases ≠ .unreadable →
        Fits files command.request) ∧
      (extraSeconds files command.request * 1000 + 30000 ≤ extra ∨ files.leases = .unreadable →
        ¬ Fits files command.request) := by
  obtain ⟨hleases, -, -⟩ := dispatchBudgetPaths_eq files command.request
  have hservice := hmutation.serviceBudget (dispatchBudgetPaths files command.request)
  obtain ⟨hdaemonLoads, happLoads⟩ := hmutation.stateLoadCount
  obtain ⟨hlease, hsnapshot, happLease, happSnapshot⟩ := hmutation.locks
  have happ := hmutation.appBudget files
  rw [happLoads, brokerStateLoadBudgetSeconds_eq hmutation.plainLoads, happLease, happSnapshot]
    at happ
  have hbounds := wholeSeconds_bounds (2 * containableLeases files.leases * 80300)
  have hdefault : App.defaultCommandTimeoutSeconds = 30 := rfl
  have hdaemonDefault : defaultCommandTimeoutMs = 25000 := rfl
  rw [hdaemonLoads, hlease, hsnapshot] at hservice
  have hbudget : files.leases ≠ .unreadable →
      commandExecutionTimeoutMsForDispatch files command.request = .ok (defaultCommandTimeoutMs
        + 60000 + 60000 + (2 * 370000 + 2 * containableLeases files.leases * 80300)
        + extraMs (dispatchBudgetPaths files command.request) command.request) := by
    intro hreadable
    rw [commandExecutionTimeoutMsForDispatch, hservice,
      brokerStateLoadBudgetMs_eq hmutation.plainLoads (hleases ▸ hreadable), hleases]
    rfl
  refine ⟨?_, ?_⟩
  · rintro ⟨hextra, hreadable⟩
    refine ⟨_, hbudget hreadable, ?_⟩
    rw [happ]
    omega
  · rintro hextra ⟨budget, hok, hfits⟩
    by_cases hreadable : files.leases = .unreadable
    · rw [commandExecutionTimeoutMsForDispatch, hservice,
        brokerStateLoadBudgetMs_unreadable hmutation.plainLoads (hleases.trans hreadable)
          (by decide)] at hok
      cases hok
    · rw [hbudget hreadable, Except.ok.injEq] at hok
      have hlarge := hextra.resolve_right hreadable
      rw [happ] at hfits
      omega

/-! ## What each mutation is given -/

theorem hostAliasCount_eq (files : ServiceFiles) :
    App.hostAliasCount files = hostAliasCountFromPaths files := by
  unfold App.hostAliasCount hostAliasCountFromPaths
  cases files.hostConfig.read with
  | none => rfl
  | some hostConfig =>
      obtain ⟨aliases, _, _⟩ := hostConfig
      cases aliases <;> rfl

theorem pendingRetirementCount_eq (files : ServiceFiles) :
    App.pendingRetirementCount files = pendingRetirementCountFromPaths files := by
  unfold App.pendingRetirementCount pendingRetirementCountFromPaths
  cases files.hostConfig.read with
  | none => rfl
  | some hostConfig =>
      obtain ⟨_, pendingRetirements, _⟩ := hostConfig
      cases pendingRetirements <;> rfl

/-- Both sides give a lifecycle action the same. -/
theorem lifecycle_extra (files : ServiceFiles) (action : App.LifecycleAction) :
    extraMs files (DashboardCommand.performLifecycleAction action).request =
      extraSeconds files (DashboardCommand.performLifecycleAction action).request * 1000 := by
  have haliases := hostAliasCount_eq files
  have hretirements := pendingRetirementCount_eq files
  have hsimctl : simctlCommandTimeoutMs = 120000 := rfl
  have happSimctl : App.simctlCommandTimeoutSeconds = 120 := rfl
  cases action with
  | boot =>
      change (2 + 0) * simctlCommandTimeoutMs = 2 * App.simctlCommandTimeoutSeconds * 1000
      omega
  | shutdown =>
      change (1 + 0) * simctlCommandTimeoutMs = 1 * App.simctlCommandTimeoutSeconds * 1000
      omega
  | erase =>
      change (2 + 0) * simctlCommandTimeoutMs = 2 * App.simctlCommandTimeoutSeconds * 1000
      omega
  | repair =>
      change 60000 + (10 + pendingRetirementCountFromPaths files * 2) * simctlCommandTimeoutMs =
        (60 + (10 + App.pendingRetirementCount files * 2) * App.simctlCommandTimeoutSeconds) * 1000
      rw [hsimctl, happSimctl]
      omega
  | delete =>
      change 60000 + hostAliasCountFromPaths files * 2 * simctlCommandTimeoutMs =
        (60 + App.hostAliasCount files * 2 * App.simctlCommandTimeoutSeconds) * 1000
      rw [hsimctl, happSimctl]
      omega

theorem idleCleanup_extra (files : ServiceFiles) :
    extraMs files DashboardCommand.applyConfirmedIdleCleanup.request =
      extraSeconds files DashboardCommand.applyConfirmedIdleCleanup.request * 1000 := by
  have haliases := hostAliasCount_eq files
  have hsimctl : simctlCommandTimeoutMs = 120000 := rfl
  have happSimctl : App.simctlCommandTimeoutSeconds = 120 := rfl
  change hostAliasCountFromPaths files * simctlCommandTimeoutMs + 0 =
    App.hostAliasCount files * App.simctlCommandTimeoutSeconds * 1000
  rw [hsimctl, happSimctl]
  omega

/-- The app gives a release nothing for the slot it may have to reclaim. -/
theorem release_extra (files : ServiceFiles) :
    extraSeconds files DashboardCommand.releaseLease.request = 0 ∧
      extraMs files DashboardCommand.releaseLease.request =
        if enabledSlotReclaimCandidateCount files = 0 then 0 else 540250 := by
  refine ⟨rfl, ?_⟩
  change slotReclaimBudgetMs DashboardCommand.releaseLease.request
    (min 1 (enabledSlotReclaimCandidateCount files)) = _
  split
  · next hnone =>
      rw [hnone]
      rfl
  · next hsome =>
      rw [Nat.min_eq_left (by omega)]
      rfl

/-! ## Capacity -/

theorem countP_terminal (entries : List (StoredFile TransactionFile)) :
    ((entries.filterMap StoredFile.read).filter
      fun transaction => decide (transaction.status ∉ terminalTransactionStatuses)) = [] ↔
      NoUnfinishedTransaction (.entries entries) := by
  rw [List.filter_eq_nil_iff]
  simp [NoUnfinishedTransaction]

/-- The recovery workload is nothing exactly when no transaction is unfinished. -/
theorem recoveryWorkload_cases (files : ServiceFiles) :
    (NoUnfinishedTransaction files.capacityTransactions ∧
      nonTerminalCapacityRecoveryWorkload files = .ok ⟨0, 0⟩) ∨
    (¬ NoUnfinishedTransaction files.capacityTransactions ∧
      ((∃ error, nonTerminalCapacityRecoveryWorkload files = .error error) ∨
        ∃ additions transactions, 0 < transactions ∧
          nonTerminalCapacityRecoveryWorkload files = .ok ⟨additions, transactions⟩)) := by
  unfold nonTerminalCapacityRecoveryWorkload
  cases files.capacityTransactions with
  | missing => exact Or.inl ⟨trivial, rfl⟩
  | unreadable => exact Or.inr ⟨id, Or.inl ⟨_, rfl⟩⟩
  | entries entries =>
      by_cases hfinished : NoUnfinishedTransaction (.entries entries)
      · refine Or.inl ⟨hfinished, ?_⟩
        simp only [Listing.list, bind, Except.bind, (countP_terminal entries).mpr hfinished]
        rfl
      · refine Or.inr ⟨hfinished, Or.inr ⟨_, _, ?_, rfl⟩⟩
        rw [List.length_pos_iff]
        exact fun hnil => hfinished ((countP_terminal entries).mp hnil)

/-- One purpose is selected, or two and more. -/
theorem selectedPurposes_cases (files : ServiceFiles) (request : CommandRequest) :
    (SelectsOnePurpose (projectPurposes files) request.options.purposeId ∧
      selectedCapacityPurposeCountFromPaths files request = 1) ∨
    (¬ SelectsOnePurpose (projectPurposes files) request.options.purposeId ∧
      2 ≤ selectedCapacityPurposeCountFromPaths files request) := by
  unfold selectedCapacityPurposeCountFromPaths SelectsOnePurpose
  generalize projectPurposes files = purposes
  simp only
  by_cases hnone : purposes = []
  · rw [if_pos hnone]
    exact Or.inl ⟨Or.inl (by simp [hnone]), rfl⟩
  · have hpositive : 0 < purposes.length := List.length_pos_iff.mpr hnone
    rw [if_neg hnone]
    by_cases hfew : purposes.length ≤ 1
    · refine Or.inl ⟨Or.inl hfew, ?_⟩
      split
      · split
        · omega
        · split <;> omega
      · omega
    · cases hpurpose : request.options.purposeId with
      | none => exact Or.inr ⟨by simp [hfew], by simp only; omega⟩
      | some purpose =>
          simp only
          by_cases hblank : isBlank purpose = true
          · rw [if_pos hblank]
            refine Or.inr ⟨?_, by omega⟩
            rintro (hone | ⟨named, -, heq, hnamed⟩)
            · exact hfew hone
            · rw [← Option.some.inj heq, hblank] at hnamed
              cases hnamed
          · rw [if_neg hblank]
            by_cases hmem : purpose ∈ purposes
            · rw [if_pos hmem]
              exact Or.inl ⟨Or.inr ⟨purpose, hmem, rfl, by simpa using hblank⟩, rfl⟩
            · rw [if_neg hmem]
              refine Or.inr ⟨?_, by omega⟩
              rintro (hone | ⟨named, hnamed, heq, -⟩)
              · exact hfew hone
              · exact hmem (Option.some.inj heq ▸ hnamed)

theorem capacityPreview_appBudget (files : ServiceFiles) (projectFilePath : String)
    (purposeId : Option String) :
    App.calculatedExecutionTimeoutSeconds
      (DashboardCommand.loadCapacityPreview projectFilePath purposeId).request files =
      App.defaultCommandTimeoutSeconds + (1 * App.stateLoadBudgetSeconds + 0) := rfl

/-- A preview contains nothing and fits on all files. -/
theorem capacityPreview_fits (files : ServiceFiles) (projectFilePath : String)
    (purposeId : Option String) :
    Fits files (DashboardCommand.loadCapacityPreview projectFilePath purposeId).request := by
  refine ⟨defaultCommandTimeoutMs + (stateLoadBudgetMs 1 + 0), ?_, ?_⟩
  · rfl
  · have hdefault : defaultCommandTimeoutMs = 25000 := rfl
    have hload : stateLoadBudgetMs 1 = 370000 := rfl
    have happDefault : App.defaultCommandTimeoutSeconds = 30 := rfl
    have happLoad : App.stateLoadBudgetSeconds = 370 := rfl
    rw [capacityPreview_appBudget]
    omega

/-- The simctl commands of an apply with so many actions and recovered additions. -/
def applyCommandCount (actionCount additions : Nat) : Nat :=
  actionCount * capacitySimctlCommandsPerAction + capacityRollbackInventoryCommands
    + actionCount * capacityRollbackSimctlCommandsPerAction
    + additions * capacitySimctlCommandsPerAction

section Apply

variable (files : ServiceFiles) (projectFilePath : String) (purposeId : Option String)

/-- The request of an apply. -/
abbrev applyRequest : CommandRequest :=
  (DashboardCommand.applyConfirmedCapacityPlan projectFilePath purposeId).request

theorem capacityApply_simctl :
    capacityReconcileSimctlBudgetMs files (applyRequest projectFilePath purposeId) = (do
      let recovery ← nonTerminalCapacityRecoveryWorkload files
      let stateLoads ← brokerStateLoadBudgetMs files (applyRequest projectFilePath purposeId)
        (4 + recovery.transactions)
      return stateLoads
        + applyCommandCount (capacityActionCount files (applyRequest projectFilePath purposeId))
          recovery.additions * simctlCommandTimeoutMs) := rfl

theorem capacityApply_service :
    serviceCommandExecutionTimeoutMs files (applyRequest projectFilePath purposeId) = (do
      let simctl ← capacityReconcileSimctlBudgetMs files (applyRequest projectFilePath purposeId)
      return max capacityApplyTimeoutMs
        (defaultCommandTimeoutMs + 60000 + 60000 + 60000 + simctl)) := by
  have hloads : brokerStateLoadBudgetMs files (applyRequest projectFilePath purposeId)
      (brokerStateLoadCount (applyRequest projectFilePath purposeId)) =
        .ok (stateLoadBudgetMs 0 + 0) := rfl
  have hlock : leaseLockTimeoutMs (applyRequest projectFilePath purposeId) = 60000 := rfl
  have hcapacity : capacityLockTimeoutMs (applyRequest projectFilePath purposeId) = 60000 := rfl
  have hsnapshot :
      finalSnapshotLeaseLockTimeoutMs (applyRequest projectFilePath purposeId) = 60000 := rfl
  have happly : (applyRequest projectFilePath purposeId).options.apply = some true := rfl
  have hgroup : (applyRequest projectFilePath purposeId).group = .capacity := rfl
  have hcommand : (applyRequest projectFilePath purposeId).command = .reconcile := rfl
  simp only [serviceCommandExecutionTimeoutMs, hloads, hgroup, hcommand, happly, hlock, hcapacity,
    hsnapshot, if_true, bind, Except.bind]

theorem applyRequest_plainLoads : PlainLoads (applyRequest projectFilePath purposeId) :=
  ⟨rfl, rfl, rfl⟩

variable {files}

theorem capacityApply_budget {workload : RecoveryWorkload} (hreadable : files.leases ≠ .unreadable)
    (hworkload : nonTerminalCapacityRecoveryWorkload files = .ok workload) :
    serviceCommandExecutionTimeoutMs files (applyRequest projectFilePath purposeId) =
      .ok (max capacityApplyTimeoutMs
        (defaultCommandTimeoutMs + 60000 + 60000 + 60000
          + ((4 + workload.transactions) * 370000
            + (4 + workload.transactions) * containableLeases files.leases * 80300
            + applyCommandCount
              (capacityActionCount files (applyRequest projectFilePath purposeId))
              workload.additions * simctlCommandTimeoutMs))) := by
  rw [capacityApply_service, capacityApply_simctl, hworkload]
  simp only [bind, Except.bind]
  rw [brokerStateLoadBudgetMs_eq (applyRequest_plainLoads projectFilePath purposeId) hreadable]
  rfl

/-- An apply whose leases or transactions cannot be listed has no budget. -/
theorem capacityApply_unlisted (hunlisted : files.leases = .unreadable ∨
      ∃ error, nonTerminalCapacityRecoveryWorkload files = .error error) :
    ∃ error, serviceCommandExecutionTimeoutMs files (applyRequest projectFilePath purposeId) =
      .error error := by
  rw [capacityApply_service, capacityApply_simctl]
  cases hworkload : nonTerminalCapacityRecoveryWorkload files with
  | error error => exact ⟨error, rfl⟩
  | ok workload =>
      have hunreadable : files.leases = .unreadable := by
        refine hunlisted.resolve_right ?_
        rintro ⟨error, herror⟩
        rw [hworkload] at herror
        cases herror
      simp only [bind, Except.bind]
      rw [brokerStateLoadBudgetMs_unreadable (applyRequest_plainLoads projectFilePath purposeId)
        hunreadable (by omega)]
      exact ⟨_, rfl⟩

/-- The app counts one action and no recovery. -/
theorem capacityApply_appBudget (files : ServiceFiles) :
    App.calculatedExecutionTimeoutSeconds (applyRequest projectFilePath purposeId) files =
      max App.capacityApplyTimeoutSeconds (App.defaultCommandTimeoutSeconds + 60 + 60 + 60
        + (4 * 370 + App.wholeSeconds (4 * containableLeases files.leases * 80300)
          + 11 * App.simctlCommandTimeoutSeconds)) := by
  have hcapacity : App.capacityLockTimeoutSeconds (applyRequest projectFilePath purposeId) = 60 :=
    (rfl : App.timeoutSeconds none App.defaultLockTimeoutMilliseconds = 60)
  have hlease : App.leaseLockTimeoutSeconds (applyRequest projectFilePath purposeId) = 60 :=
    (rfl : App.timeoutSeconds none App.defaultLockTimeoutMilliseconds = 60)
  have hsnapshot :
      App.finalSnapshotLeaseLockTimeoutSeconds (applyRequest projectFilePath purposeId) = 60 :=
    (if_pos rfl).trans hlease
  have hactions : App.capacityActionCount (applyRequest projectFilePath purposeId) = 1 :=
    (rfl : max 1 ((none : Option Int).getD 1).toNat = 1)
  have hadditions :
      App.capacityRecoveryAdditionCount (applyRequest projectFilePath purposeId) = 0 :=
    (rfl : ((none : Option Int).getD 0).toNat = 0)
  have htransactions :
      App.capacityRecoveryTransactionCount (applyRequest projectFilePath purposeId) = 0 :=
    (rfl : ((none : Option Int).getD 0).toNat = 0)
  have hsimctl :
      App.capacityReconcileSimctlBudgetSeconds (applyRequest projectFilePath purposeId) files =
        App.brokerStateLoadBudgetSeconds (applyRequest projectFilePath purposeId) files 4
          + 11 * App.simctlCommandTimeoutSeconds := by
    simp only [App.capacityReconcileSimctlBudgetSeconds, hactions, hadditions, htransactions]
    rfl
  rw [← hsnapshot, ← brokerStateLoadBudgetSeconds_eq
    (applyRequest_plainLoads projectFilePath purposeId), ← hsimctl]
  have happly : (applyRequest projectFilePath purposeId).options.apply = some true := rfl
  have hgroup : (applyRequest projectFilePath purposeId).group = .capacity := rfl
  have hcommand : (applyRequest projectFilePath purposeId).command = .reconcile := rfl
  simp only [App.calculatedExecutionTimeoutSeconds, hgroup, hcommand, happly, if_true, hcapacity,
    hlease, hsnapshot]

end Apply

theorem applyCommandCount_eq (actionCount additions : Nat) :
    applyCommandCount actionCount additions = actionCount * 8 + 3 + additions * 4 := by
  change actionCount * 4 + 3 + actionCount * 4 + additions * 4 = _
  omega

/-- With one action and nothing to recover an apply fits, and otherwise it misses by
minutes; `stale` is what the leases take in four state loads, `staleAll` in all. -/
theorem capacityApply_numbers (actionCount additions : Nat) {transactions stale staleAll : Nat}
    (hstale : stale ≤ staleAll) (hfour : transactions = 0 → staleAll = stale) :
    let daemon := max capacityApplyTimeoutMs (defaultCommandTimeoutMs + 60000 + 60000 + 60000
      + ((4 + transactions) * 370000 + staleAll
        + applyCommandCount actionCount additions * simctlCommandTimeoutMs))
    let app := max App.capacityApplyTimeoutSeconds (App.defaultCommandTimeoutSeconds + 60 + 60 + 60
      + (4 * 370 + App.wholeSeconds stale + 11 * App.simctlCommandTimeoutSeconds))
    (actionCount = 1 ∧ transactions = 0 ∧ additions = 0 → daemon ≤ app * 1000) ∧
      (1 ≤ actionCount → 2 ≤ actionCount ∨ 0 < transactions → app * 1000 < daemon) := by
  have hbounds := wholeSeconds_bounds stale
  have hdefault : defaultCommandTimeoutMs = 25000 := rfl
  have happly : capacityApplyTimeoutMs = 300000 := rfl
  have hsimctl : simctlCommandTimeoutMs = 120000 := rfl
  have happDefault : App.defaultCommandTimeoutSeconds = 30 := rfl
  have happApply : App.capacityApplyTimeoutSeconds = 300 := rfl
  have happSimctl : App.simctlCommandTimeoutSeconds = 120 := rfl
  rw [hdefault, happly, hsimctl, happDefault, happApply, happSimctl, applyCommandCount_eq,
    Nat.max_eq_right (by omega), Nat.max_eq_right (by omega)]
  refine ⟨?_, ?_⟩
  · rintro ⟨rfl, rfl, rfl⟩
    have hequal := hfour rfl
    omega
  · intro hone hmany
    omega

/-- Exactly one purpose and no unfinished transaction is what the app counts on. -/
theorem capacityApply_fits_iff (files : ServiceFiles) (projectFilePath : String)
    (purposeId : Option String) :
    Fits files (applyRequest projectFilePath purposeId) ↔
      Covered files (.applyConfirmedCapacityPlan projectFilePath purposeId) := by
  obtain ⟨hleases, -, htransactions⟩ :=
    dispatchBudgetPaths_eq files (applyRequest projectFilePath purposeId)
  have happ := capacityApply_appBudget projectFilePath purposeId files
  unfold Fits commandExecutionTimeoutMsForDispatch Covered
  simp only
  generalize dispatchBudgetPaths files (applyRequest projectFilePath purposeId) = dispatch at *
  have hactions : capacityActionCount dispatch (applyRequest projectFilePath purposeId) =
      selectedCapacityPurposeCountFromPaths dispatch (applyRequest projectFilePath purposeId) := by
    unfold capacityActionCount
    cases dispatch.projectFilePath <;> rfl
  by_cases hlisted : files.leases = .unreadable ∨
      ∃ error, nonTerminalCapacityRecoveryWorkload dispatch = .error error
  · obtain ⟨error, herror⟩ := capacityApply_unlisted projectFilePath purposeId
      (hlisted.imp_left hleases.trans)
    rw [herror]
    refine ⟨?_, ?_⟩
    · rintro ⟨budget, hok, -⟩
      cases hok
    · rintro ⟨hreadable, hfinished, -⟩
      obtain ⟨error, hunlisted⟩ := hlisted.resolve_left hreadable
      rw [← htransactions] at hfinished
      obtain ⟨-, hok⟩ | ⟨hnot, -⟩ := recoveryWorkload_cases dispatch
      · rw [hunlisted] at hok
        cases hok
      · exact absurd hfinished hnot
  · obtain ⟨hreadable, hworkload⟩ := not_or.mp hlisted
    obtain ⟨workload, hworkload⟩ : ∃ workload,
        nonTerminalCapacityRecoveryWorkload dispatch = .ok workload := by
      cases hcase : nonTerminalCapacityRecoveryWorkload dispatch with
      | error error => exact absurd ⟨error, hcase⟩ hworkload
      | ok workload => exact ⟨workload, rfl⟩
    have hbudget := capacityApply_budget projectFilePath purposeId
      (hleases ▸ hreadable) hworkload
    rw [hactions, hleases] at hbudget
    have hmore : 4 * containableLeases files.leases * 80300 ≤
        (4 + workload.transactions) * containableLeases files.leases * 80300 :=
      Nat.mul_le_mul_right _ (Nat.mul_le_mul_right _ (Nat.le_add_right _ _))
    have hfour : workload.transactions = 0 →
        (4 + workload.transactions) * containableLeases files.leases * 80300 =
          4 * containableLeases files.leases * 80300 := by
      intro hzero
      rw [hzero]
    obtain ⟨hfits, hmisses⟩ := capacityApply_numbers (selectedCapacityPurposeCountFromPaths
      dispatch (applyRequest projectFilePath purposeId)) workload.additions hmore hfour
    have hselected :=
      selectedPurposes_cases dispatch (applyRequest projectFilePath purposeId)
    have hone : 1 ≤ selectedCapacityPurposeCountFromPaths dispatch
        (applyRequest projectFilePath purposeId) := by
      obtain ⟨-, heq⟩ | ⟨-, hmany⟩ := hselected
      · exact Nat.le_of_eq heq.symm
      · exact Nat.le_of_succ_le hmany
    have hrecovery := recoveryWorkload_cases dispatch
    rw [hworkload, htransactions] at hrecovery
    rw [hbudget, happ]
    refine ⟨?_, ?_⟩
    · rintro ⟨budget, hok, hle⟩
      have heq := Except.ok.inj hok
      refine ⟨hreadable, ?_, ?_⟩
      · obtain ⟨hfinished, -⟩ | ⟨-, ⟨error, herror⟩ | ⟨additions, transactions, hsome, hok⟩⟩ :=
          hrecovery
        · exact hfinished
        · cases herror
        · have hpositive : 0 < workload.transactions := by
            rw [Except.ok.inj hok]
            exact hsome
          exact absurd hle (Nat.not_le.mpr (heq ▸ hmisses hone (Or.inr hpositive)))
      · obtain ⟨hselects, -⟩ | ⟨-, hmany⟩ := hselected
        · exact hselects
        · exact absurd hle (Nat.not_le.mpr (heq ▸ hmisses hone (Or.inl hmany)))
    · rintro ⟨-, hfinished, hselects⟩
      refine ⟨_, rfl, hfits ⟨?_, ?_⟩⟩
      · obtain ⟨-, heq⟩ | ⟨hnot, -⟩ := hselected
        · exact heq
        · exact absurd hselects hnot
      · obtain ⟨-, hok⟩ | ⟨hnot, -⟩ := hrecovery
        · rw [Except.ok.inj hok]
          exact ⟨rfl, rfl⟩
        · exact absurd hfinished hnot

/-! ## The result -/

/-- The daemon's budget fits into the app's exactly on the files that are covered. -/
theorem fits_iff (files : ServiceFiles) (command : DashboardCommand) :
    Fits files command.request ↔ Covered files command := by
  have hplain : Mutation command → (Covered files command ↔ files.leases ≠ .unreadable) →
      extraMs (dispatchBudgetPaths files command.request) command.request ≤
        extraSeconds files command.request * 1000 →
      (Fits files command.request ↔ Covered files command) := by
    intro hmutation hcovered hextra
    obtain ⟨hfits, hmisses⟩ := hmutation.fits_iff files
    rw [hcovered]
    refine ⟨fun hfit hunreadable => hmisses (Or.inr hunreadable) hfit, fun hreadable => ?_⟩
    exact hfits ⟨hextra, hreadable⟩
  cases command with
  | releaseLease =>
      obtain ⟨hfits, hmisses⟩ := Mutation.releaseLease.fits_iff files
      obtain ⟨happ, hdaemon⟩ := release_extra files
      have hdispatch : dispatchBudgetPaths files DashboardCommand.releaseLease.request = files := rfl
      rw [hdispatch, happ, hdaemon] at hfits hmisses
      refine ⟨fun hfit => ⟨fun hunreadable => hmisses (Or.inr hunreadable) hfit, ?_⟩, ?_⟩
      · by_contra hsome
        rw [if_neg hsome] at hmisses
        exact hmisses (Or.inl (by decide)) hfit
      · rintro ⟨hreadable, hnone⟩
        rw [if_pos hnone] at hfits
        exact hfits ⟨Nat.le_refl 0, hreadable⟩
  | clearPin => exact hplain .clearPin Iff.rfl (Nat.zero_le _)
  | createPin projectFilePath purposeId =>
      exact hplain (.createPin projectFilePath purposeId) Iff.rfl (Nat.zero_le _)
  | performLifecycleAction action =>
      refine hplain (.lifecycle action) Iff.rfl (Nat.le_of_eq ?_)
      cases action with
      | _ => exact lifecycle_extra files _
  | applyIdlePolicy => exact hplain .applyIdlePolicy Iff.rfl (Nat.zero_le _)
  | disableIdlePolicy => exact hplain .disableIdlePolicy Iff.rfl (Nat.zero_le _)
  | requestIdleCleanup => exact hplain .requestIdleCleanup Iff.rfl (Nat.zero_le _)
  | applyConfirmedIdleCleanup =>
      exact hplain .applyConfirmedIdleCleanup Iff.rfl (Nat.le_of_eq (idleCleanup_extra files))
  | loadCapacityPreview projectFilePath purposeId =>
      exact iff_of_true (capacityPreview_fits files projectFilePath purposeId) trivial
  | applyConfirmedCapacityPlan projectFilePath purposeId =>
      exact capacityApply_fits_iff files projectFilePath purposeId

/-- The app always sends a budget that the daemon can read. -/
theorem appBudget_pos (files : ServiceFiles) (command : DashboardCommand) :
    0 < App.calculatedExecutionTimeoutSeconds command.request files := by
  have hdefault : 0 < App.defaultCommandTimeoutSeconds := by decide
  have hmutation : Mutation command →
      0 < App.calculatedExecutionTimeoutSeconds command.request files := by
    intro hmutation
    rw [hmutation.appBudget files]
    omega
  cases command with
  | releaseLease => exact hmutation .releaseLease
  | clearPin => exact hmutation .clearPin
  | createPin projectFilePath purposeId => exact hmutation (.createPin projectFilePath purposeId)
  | performLifecycleAction action => exact hmutation (.lifecycle action)
  | applyIdlePolicy => exact hmutation .applyIdlePolicy
  | disableIdlePolicy => exact hmutation .disableIdlePolicy
  | requestIdleCleanup => exact hmutation .requestIdleCleanup
  | applyConfirmedIdleCleanup => exact hmutation .applyConfirmedIdleCleanup
  | loadCapacityPreview projectFilePath purposeId =>
      have happ := capacityPreview_appBudget files projectFilePath purposeId
      have hmore := Nat.le_add_right App.defaultCommandTimeoutSeconds
        (1 * App.stateLoadBudgetSeconds + 0)
      exact happ ▸ Nat.lt_of_lt_of_le hdefault hmore
  | applyConfirmedCapacityPlan projectFilePath purposeId =>
      rw [capacityApply_appBudget]
      exact Nat.lt_of_lt_of_le (by decide : 0 < App.capacityApplyTimeoutSeconds)
        (Nat.le_max_left _ _)

/-- A command of the dashboard whose queue wait is within its bounds is let through exactly
on the files that are covered; there the daemon's budget is at most the app's. -/
theorem dashboardCommand_fresh_iff (files : ServiceFiles) (command : DashboardCommand)
    (startedAt : Nat) (now : Int)
    (hqueue : now - startedAt ≤ (App.commandQueueTimeoutSeconds command.request * 1000 : Nat)) :
    ((∃ budget, serviceCommandExecutionTimeoutMs (dispatchBudgetPaths files command.request)
          command.request = .ok budget ∧
        budget ≤ App.calculatedExecutionTimeoutSeconds command.request files * 1000) ↔
      Covered files command) ∧
    (assertCommandFreshForDispatch files (App.makeBodyData command.request files startedAt) now =
        .ok () ↔ Covered files command) := by
  have hfits := fits_iff files command
  have hpositive := appBudget_pos files command
  have hqueuePositive : 0 < App.commandQueueTimeoutSeconds command.request * 1000 := by
    have hoption : command.request.options.serviceCommandQueueTimeoutMilliseconds = none := by
      cases command <;> rfl
    rw [App.commandQueueTimeoutSeconds, hoption]
    decide
  refine ⟨?_, ?_⟩
  · rw [← hfits, Fits, commandExecutionTimeoutMsForDispatch]
    cases serviceCommandExecutionTimeoutMs (dispatchBudgetPaths files command.request)
        command.request with
    | error error => simp [Except.mapError]
    | ok budget => simp [Except.mapError]
  · rw [← hfits, Fits]
    have hexecution : (0 : Int) <
        (App.calculatedExecutionTimeoutSeconds command.request files * 1000 : Nat) := by omega
    have hwait : (0 : Int) < (App.commandQueueTimeoutSeconds command.request * 1000 : Nat) :=
      Int.natCast_pos.mpr hqueuePositive
    have hearly : ¬ ((App.commandQueueTimeoutSeconds command.request * 1000 : Nat) : Int) <
        now - startedAt := Int.not_lt.mpr hqueue
    have hstarted : (0 : Int) ≤ startedAt := Int.natCast_nonneg _
    have hreads : assertCommandFreshForDispatch files
        (App.makeBodyData command.request files startedAt) now = (do
          let recomputed ← commandExecutionTimeoutMsForDispatch files command.request
          if (recomputed : Int) ≤
              (App.calculatedExecutionTimeoutSeconds command.request files * 1000 : Nat) then
            return ()
          else throw .serviceCommandExpired) := by
      unfold assertCommandFreshForDispatch App.makeBodyData
      simp only [optionalBodyInteger, if_true, if_false, Bool.false_eq_true, hexecution, hwait,
        hstarted, bind, Except.bind, hearly]
    rw [hreads]
    cases commandExecutionTimeoutMsForDispatch files command.request with
    | error error => exact iff_of_false (by rintro ⟨⟩) (by rintro ⟨_, ⟨⟩, _⟩)
    | ok recomputed =>
        simp only [bind, Except.bind, Except.ok.injEq, exists_eq_left', Int.ofNat_le]
        by_cases hle : recomputed ≤ App.calculatedExecutionTimeoutSeconds command.request files * 1000
        · rw [if_pos hle]
          exact iff_of_true rfl hle
        · rw [if_neg hle]
          exact iff_of_false (by rintro ⟨⟩) hle

/-- A host with one build slot, nothing else on it. -/
def buildSlotFiles : ServiceFiles where
  hostConfig := .content {
    aliases := some [{ simulatorId := "A", resetPolicy := "none", capabilities := ["build-fast"] }] }
  leases := .entries []
  capacityTransactions := .missing
  projectFile := fun _ => .missing

/-- A pin is cleared there in time. -/
theorem dashboardCommand_fresh_clearPin :
    assertCommandFreshForDispatch buildSlotFiles
      (App.makeBodyData DashboardCommand.clearPin.request buildSlotFiles 0) 1000 = .ok () :=
  (dashboardCommand_fresh_iff buildSlotFiles .clearPin 0 1000 (by decide)).2.mpr (by
    intro hunreadable
    cases hunreadable)

/-- A lease is released there never: the daemon reserves time to reclaim the slot. -/
theorem releaseLease_expired :
    App.calculatedExecutionTimeoutSeconds DashboardCommand.releaseLease.request buildSlotFiles =
      890 ∧
    serviceCommandExecutionTimeoutMs buildSlotFiles DashboardCommand.releaseLease.request =
      .ok 1425250 ∧
    assertCommandFreshForDispatch buildSlotFiles
      (App.makeBodyData DashboardCommand.releaseLease.request buildSlotFiles 0) 0 =
      .error .serviceCommandExpired := by
  decide

end SimulatorBroker.Service
