import SimulatorBroker.Containment.Cleanup

/-!
# When a containment is complete

The verdict of `containLeaseProcesses`, stated on the signals and the samples: no signal
failed but for a process that was gone, and the last sample shows nothing that is left.
-/

namespace SimulatorBroker.Containment

open State

variable {lease : LeaseRecord} {reason : State.ContainmentReason} {options : CleanupOptions}
  {sampler : ProcessSampler} {results : KillResults}

/-! ## The rules -/

/-- The action sends a signal. -/
def Action.signals : Action → Bool
  | .skipped _ _ => false
  | _ => true

/-- How many signals a containment sends. -/
def signalCount (lease : LeaseRecord) (options : ContainmentOptions) (sampler : ProcessSampler) :
    Nat :=
  (containLeaseProcesses lease options sampler).countP (·.signals)

/-- An owned process that gets no signal. -/
def Skipped (lease : LeaseRecord) (options : ContainmentOptions) (sampler : ProcessSampler)
    (pid : Pid) : Prop :=
  IsOwned (firstDiscovery lease options sampler).owned pid ∧
    skipReason (firstDiscovery lease options sampler) options pid ≠ none

/-- A pid to which a signal was sent successfully. -/
def Killed (lease : LeaseRecord) (options : ContainmentOptions) (sampler : ProcessSampler)
    (results : KillResults) (pid : Pid) : Prop :=
  ∃ taken ∈ terminationActions lease options sampler results,
    (∃ signal, taken.action = .killPid pid signal) ∧ taken.result.ok = true

/-- How long the containment has waited at its sample number `polls` after the signals. -/
def waitedAt (options : CleanupOptions) (polls : Nat) : Nat :=
  min (polls * options.boundedPollMs) options.postKillWaitMs

/-- The sample shows an owned process that is not defunct and was not skipped. -/
def Remains (lease : LeaseRecord) (options : CleanupOptions) (sampler : ProcessSampler)
    (polls : Nat) (pid : Pid) : Prop :=
  ∃ records, sampler (polls + 2) = some records ∧
    ∃ entry ∈ (discoverLeaseOwnedProcesses lease records
        (options.afterTermWait + waitedAt options polls)).owned,
      entry.pid = pid ∧ processLooksDefunct entry.toProcessRecord = false ∧
        ¬ Skipped lease options.toContainmentOptions sampler pid

/-- A killed pid is still there. -/
def KilledRemains (lease : LeaseRecord) (options : CleanupOptions) (sampler : ProcessSampler)
    (results : KillResults) (polls : Nat) : Prop :=
  ∃ pid, Killed lease options.toContainmentOptions sampler results pid ∧
    Remains lease options sampler polls pid

/-- The sample is the last one taken: the first that shows no killed pid, or the one at the
end of the wait. -/
structure LastSample (lease : LeaseRecord) (options : CleanupOptions) (sampler : ProcessSampler)
    (results : KillResults) (polls : Nat) : Prop where
  earlier : ∀ poll < polls, KilledRemains lease options sampler results poll ∧
    waitedAt options poll < options.postKillWaitMs
  last : ¬ KilledRemains lease options sampler results polls ∨
    options.postKillWaitMs ≤ waitedAt options polls

/-- The reason calls for containment, no signal failed with anything but `ESRCH`, and the
last sample shows nothing of the lease that is left. -/
structure CleanedUp (lease : LeaseRecord) (options : CleanupOptions) (sampler : ProcessSampler)
    (results : KillResults) : Prop where
  due : ContainmentDue lease options.toContainmentOptions sampler
  signals : ∀ sent < signalCount lease options.toContainmentOptions sampler,
    (results sent).ok = true ∨ (results sent).errorCode = some "ESRCH"
  clear : ∃ polls, LastSample lease options sampler results polls ∧
    ∀ pid, ¬ Remains lease options sampler polls pid

/-! ## Results -/

theorem KillResult.failed_eq_false (result : KillResult) :
    result.failed = false ↔ result.ok = true ∨ result.errorCode = some "ESRCH" := by
  unfold KillResult.failed
  cases result.ok with
  | true => simp
  | false => simp

theorem cleanupFailures_cons (taken : CleanupAction) (rest : List CleanupAction) :
    cleanupFailures (taken :: rest) = [] ↔
      taken.result.failed = false ∧ cleanupFailures rest = [] := by
  unfold cleanupFailures cleanupActionFailed
  cases hfailed : taken.result.failed with
  | true => simp [hfailed]
  | false => simp [hfailed]

/-- The signals that are still to be sent, the next one apart. -/
theorem forall_later_succ (property : Nat → Prop) {sent count : Nat} :
    (∀ later < count + 1, property (sent + later)) ↔
      property sent ∧ ∀ later < count, property (sent + 1 + later) := by
  constructor
  · intro hall
    refine ⟨hall 0 (by omega), fun later hlt => ?_⟩
    rw [show sent + 1 + later = sent + (later + 1) by omega]
    exact hall (later + 1) (by omega)
  · rintro ⟨hfirst, hlater⟩ later hlt
    cases later with
    | zero => exact hfirst
    | succ later =>
        rw [show sent + (later + 1) = sent + 1 + later by omega]
        exact hlater later (by omega)

theorem cleanupFailures_eq_nil (results : KillResults) (actions : List Action) (sent : Nat) :
    cleanupFailures (cleanupActions results sent actions) = [] ↔
      ∀ later < actions.countP (·.signals), (results (sent + later)).failed = false := by
  induction actions generalizing sent with
  | nil => simp [cleanupActions, cleanupFailures]
  | cons action rest ih =>
      cases action with
      | killProcessGroup pgid signal =>
          rw [cleanupActions, cleanupFailures_cons, ih, List.countP_cons_of_pos rfl,
            forall_later_succ fun sent => (results sent).failed = false]
      | killPid pid signal =>
          rw [cleanupActions, cleanupFailures_cons, ih, List.countP_cons_of_pos rfl,
            forall_later_succ fun sent => (results sent).failed = false]
      | skipped pid why =>
          rw [cleanupActions, cleanupFailures_cons, ih,
            List.countP_cons_of_neg (by simp [Action.signals])]
          exact ⟨And.right, fun hall => ⟨rfl, hall⟩⟩

/-! ## Skipped and killed pids -/

theorem mem_cleanupActions_skipped {actions : List Action} {sent : Nat} {pid : Pid} :
    pid ∈ skippedPids (cleanupActions results sent actions) ↔
      ∃ why, .skipped pid why ∈ actions := by
  induction actions generalizing sent with
  | nil => simp [cleanupActions, skippedPids]
  | cons action rest ih =>
      have hrest : ∀ {taken : CleanupAction} {later : Nat}, skippedPid? taken = none →
          (pid ∈ skippedPids (taken :: cleanupActions results later rest) ↔
            ∃ why, .skipped pid why ∈ rest) := by
        intro taken later hnone
        rw [← @ih later, skippedPids, List.filterMap_cons_none hnone]
        rfl
      cases action with
      | killProcessGroup pgid signal =>
          rw [cleanupActions, hrest rfl]
          simp
      | killPid other signal =>
          rw [cleanupActions, hrest rfl]
          simp
      | skipped other cause =>
          have hcons : skippedPids (cleanupActions results sent (.skipped other cause :: rest)) =
              other :: skippedPids (cleanupActions results sent rest) := rfl
          rw [hcons, List.mem_cons, ih]
          simp [exists_or]

theorem termAction_eq_skipped {discovery : Discovery} {options : ContainmentOptions}
    {pid other : Pid} {why : SkipReason} :
    termAction discovery options pid = .skipped other why ↔
      pid = other ∧ skipReason discovery options pid = some why := by
  unfold termAction
  cases skipReason discovery options pid with
  | none => simp
  | some why => simp

theorem skipped_mem {discovery : Discovery} {options : ContainmentOptions} {pid : Pid}
    {why : SkipReason} :
    .skipped pid why ∈ terminateOwnedProcesses lease discovery options sampler ↔
      IsOwned discovery.owned pid ∧ skipReason discovery options pid = some why := by
  unfold terminateOwnedProcesses
  simp only [List.mem_append, List.mem_map, termAction_eq_skipped, ← mem_sortedPids]
  constructor
  · rintro ((⟨pgid, -, ⟨⟩⟩ | ⟨found, hfound, rfl, hskip⟩) | hkill)
    · exact ⟨hfound, hskip⟩
    · split at hkill
      · cases hkill
      · obtain ⟨found, -, heq⟩ := List.mem_map.mp hkill
        cases heq
  · rintro ⟨hfound, hskip⟩
    exact Or.inl (Or.inr ⟨pid, hfound, rfl, hskip⟩)

theorem mem_skippedPids {options : ContainmentOptions} {pid : Pid}
    (hdue : ContainmentDue lease options sampler) :
    pid ∈ skippedPids (terminationActions lease options sampler results) ↔
      Skipped lease options sampler pid := by
  unfold terminationActions Skipped
  rw [mem_cleanupActions_skipped]
  simp only [mem_containLeaseProcesses, terminations, skipped_mem, hdue, true_and, exists_and_left,
    ← Option.ne_none_iff_exists']

theorem mem_sortedUnique {pids : List Pid} {pid : Pid} : pid ∈ sortedUnique pids ↔ pid ∈ pids := by
  unfold sortedUnique
  rw [List.mem_insertionSort, List.mem_dedup]

theorem mem_killedPids {options : ContainmentOptions} {pid : Pid} :
    pid ∈ killedPids (terminationActions lease options sampler results) ↔
      Killed lease options sampler results pid := by
  unfold killedPids Killed
  rw [mem_sortedUnique, List.mem_filterMap]
  refine exists_congr fun taken => and_congr_right fun _ => ?_
  unfold killedPid?
  cases taken.action with
  | killPid other signal =>
      rw [Option.ite_none_right_eq_some, Option.some_inj, and_comm]
      refine and_congr_left fun _ => ?_
      constructor
      · rintro rfl
        exact ⟨signal, rfl⟩
      · rintro ⟨_, ⟨⟩⟩
        rfl
  | killProcessGroup pgid signal => simp
  | skipped other why => simp

/-! ## The last sample -/

theorem waitedAt_zero (options : CleanupOptions) : waitedAt options 0 = 0 := by
  simp [waitedAt]

theorem waitedAt_succ (options : CleanupOptions) (polls : Nat) :
    waitedAt options (polls + 1) = waitedAt options polls +
      min options.boundedPollMs (options.postKillWaitMs - waitedAt options polls) := by
  unfold waitedAt
  rw [Nat.succ_mul]
  omega

theorem mem_remaining {polls : Nat} {records : List ProcessRecord} {pid : Pid}
    (hdue : ContainmentDue lease options.toContainmentOptions sampler)
    (hrecords : sampler (polls + 2) = some records) :
    pid ∈ remainingCleanableOwnedPids
        (discoverLeaseOwnedProcesses lease records (options.afterTermWait + waitedAt options polls))
        (skippedPids (terminationActions lease options.toContainmentOptions sampler results)) ↔
      Remains lease options sampler polls pid := by
  unfold remainingCleanableOwnedPids Remains
  simp only [mem_sortedUnique, List.mem_map, List.mem_filter, Bool.and_eq_true,
    Bool.not_eq_true', hrecords, Option.some.injEq, exists_eq_left']
  refine exists_congr fun entry => ?_
  constructor
  · rintro ⟨⟨hentry, hskipped, hdefunct⟩, rfl⟩
    refine ⟨hentry, rfl, hdefunct, fun hskip => ?_⟩
    have hmem : entry.pid ∈ skippedPids (terminationActions lease
        options.toContainmentOptions sampler results) := (mem_skippedPids hdue).mpr hskip
    rw [List.contains_iff_mem.mpr hmem] at hskipped
    cases hskipped
  · rintro ⟨hentry, rfl, hdefunct, hskip⟩
    refine ⟨⟨hentry, ?_, hdefunct⟩, rfl⟩
    rw [Bool.eq_false_iff]
    exact fun hmem => hskip ((mem_skippedPids hdue).mp (List.contains_iff_mem.mp hmem))

/-- The loop from one of its samples on ends with the last sample. -/
theorem observeAfterCleanup_last (polls : Nat) {after : AfterCleanup}
    (hdue : ContainmentDue lease options.toContainmentOptions sampler)
    (hearlier : ∀ poll < polls, KilledRemains lease options sampler results poll ∧
      waitedAt options poll < options.postKillWaitMs)
    (hafter : observeAfterCleanup lease options sampler
      (killedPids (terminationActions lease options.toContainmentOptions sampler results))
      (skippedPids (terminationActions lease options.toContainmentOptions sampler results))
      (polls + 2) (waitedAt options polls) = some after) :
    ∃ last, LastSample lease options sampler results last ∧
      ∀ pid, pid ∈ after.remainingOwnedPids ↔ Remains lease options sampler last pid := by
  -- the induction is on what is left of the wait
  induction hleft : options.postKillWaitMs - waitedAt options polls using Nat.strong_induction_on
    generalizing polls with
  | _ left ih =>
      rw [observeAfterCleanup] at hafter
      cases hrecords : sampler (polls + 2) with
      | none => simp [hrecords] at hafter
      | some records =>
          simp only [hrecords] at hafter
          have hvisible : ((remainingCleanableOwnedPids
              (discoverLeaseOwnedProcesses lease records
                (options.afterTermWait + waitedAt options polls))
              (skippedPids (terminationActions lease options.toContainmentOptions sampler
                results))).any fun pid => (killedPids (terminationActions lease
                  options.toContainmentOptions sampler results)).contains pid) = true ↔
              KilledRemains lease options sampler results polls := by
            rw [List.any_eq_true]
            simp only [mem_remaining hdue hrecords, List.contains_iff_mem, mem_killedPids]
            exact exists_congr fun pid => and_comm
          split at hafter
          · next hstop =>
              cases hafter
              refine ⟨polls, ⟨hearlier, ?_⟩, fun pid => mem_remaining hdue hrecords⟩
              rw [← Bool.not_eq_true, hvisible] at hstop
              exact hstop
          · next hgo =>
              rw [not_or, Bool.not_eq_false, hvisible, not_le] at hgo
              rw [← waitedAt_succ] at hafter
              refine ih _ ?_ _ ?_ hafter rfl
              · have hpoll : 1 ≤ options.boundedPollMs := le_max_left _ _
                rw [waitedAt_succ]
                omega
              · intro poll hpoll
                rcases Nat.lt_succ_iff_lt_or_eq.mp hpoll with hlt | rfl
                · exact hearlier poll hlt
                · exact hgo

/-- There is one last sample. -/
theorem LastSample.unique {left right : Nat} (hleft : LastSample lease options sampler results left)
    (hright : LastSample lease options sampler results right) : left = right := by
  have hle : ∀ {first second : Nat}, LastSample lease options sampler results first →
      LastSample lease options sampler results second → first ≤ second := by
    intro first second hfirst hsecond
    by_contra hlt
    obtain ⟨hkilled, hwaiting⟩ := hfirst.earlier second (by omega)
    rcases hsecond.last with hgone | hover
    · exact hgone hkilled
    · omega
  exact Nat.le_antisymm (hle hleft hright) (hle hright hleft)

/-! ## The verdict -/

theorem shouldContain_iff_due {reason : State.ContainmentReason} {records : List ProcessRecord}
    (hrecords : sampler 0 = some records) :
    shouldContain (options.calledFor reason).reason lease
        (observeLeaseProcesses lease records reason
          (options.calledFor reason).toContainmentOptions).ownedRssBytes = true ↔
      ContainmentDue lease (options.calledFor reason).toContainmentOptions sampler := by
  unfold ContainmentDue firstDiscovery firstSample
  rw [hrecords]
  simp [observeLeaseProcesses, ownedRssBytes]

/-- A containment is complete exactly when the lease has been cleaned up. -/
theorem containmentOutcome_complete_iff {outcome : ContainmentOutcome}
    (houtcome : containmentOutcome lease reason options sampler results = some outcome) :
    (∃ result, outcome = .contained result ∧ result.cleanupComplete = true) ↔
      CleanedUp lease (options.calledFor reason) sampler results := by
  unfold containmentOutcome at houtcome
  dsimp only at houtcome
  cases hrecords : sampler 0 with
  | none => simp [hrecords] at houtcome
  | some records =>
      simp only [hrecords] at houtcome
      split at houtcome
      · next hcalled =>
          have hdue := (shouldContain_iff_due hrecords).mp hcalled
          cases hsecond : sampler 1 with
          | none => simp [hsecond] at houtcome
          | some again =>
              simp only [hsecond, Option.map_eq_some_iff] at houtcome
              obtain ⟨after, hafter, rfl⟩ := houtcome
              rw [← waitedAt_zero (options.calledFor reason)] at hafter
              obtain ⟨last, hlast, hremaining⟩ := observeAfterCleanup_last 0 hdue
                (fun _ hlt => absurd hlt (Nat.not_lt_zero _)) hafter
              have hsignals := cleanupFailures_eq_nil results
                (containLeaseProcesses lease (options.calledFor reason).toContainmentOptions
                  sampler) 0
              simp only [Nat.zero_add, KillResult.failed_eq_false] at hsignals
              simp only [ContainmentOutcome.contained.injEq, exists_eq_left',
                ContainmentResult.cleanupComplete, Bool.and_eq_true, decide_eq_true_eq]
              constructor
              · rintro ⟨hfailures, hempty⟩
                refine ⟨hdue, hsignals.mp hfailures, last, hlast, fun pid hremains => ?_⟩
                have hmem := (hremaining pid).mpr hremains
                rw [hempty] at hmem
                cases hmem
              · rintro ⟨-, hfailures, polls, hpolls, hclear⟩
                refine ⟨hsignals.mpr hfailures, List.eq_nil_iff_forall_not_mem.mpr ?_⟩
                intro pid hmem
                rw [hremaining, hlast.unique hpolls] at hmem
                exact hclear pid hmem
      · next hnot =>
          cases houtcome
          constructor
          · rintro ⟨result, ⟨⟩, -⟩
          · intro hcleaned
            exact absurd ((shouldContain_iff_due hrecords).mpr hcleaned.due) hnot

/-- A lease with a registered command and no group. -/
def commandLease : LeaseRecord :=
  { groupedLease with runtime := { groupedLease.runtime with commandPgid := none } }

/-- The command outlives its signals, the second of which fails. -/
example :
    (containmentOutcome commandLease .timeout { processPid := 1, timestamp := 3600000 }
      (fun _ => some [{ pid := 200, ppid := some 100, pgid := some 200, elapsed := some "01:00:00"
                        command := "make" }])
      (fun sent => if sent = 0 then {} else { ok := false, errorCode := some "EPERM" })).map
        (fun
          | .contained result => (result.cleanupFailures.length, result.remainingOwnedPids)
          | .notContained _ => (0, [])) = some (1, [200]) := by
  decide +kernel

end SimulatorBroker.Containment
