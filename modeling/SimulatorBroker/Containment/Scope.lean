import SimulatorBroker.Containment.Termination

/-!
# Containment signals only what the lease owns

Which processes are signalled, and that all of them are the lease's own unless its command group
has been recycled or somebody else has joined it.
-/

namespace SimulatorBroker.Containment

open State

/-- The processes of a sample that a signal to a group reaches. -/
def groupMembers (records : List ProcessRecord) (pgid : Pid) : List ProcessRecord :=
  records.filter fun record => decide (0 < record.pid) && record.pgid == some pgid

/-- The first sample; nothing is signalled when it raises. -/
def firstSample (sampler : ProcessSampler) : List ProcessRecord :=
  (sampler 0).getD []

def firstDiscovery (lease : LeaseRecord) (options : ContainmentOptions)
    (sampler : ProcessSampler) : Discovery :=
  discoverLeaseOwnedProcesses lease (firstSample sampler) options.timestamp

/-- What `terminateOwnedProcesses` does after the first sample. -/
def terminations (lease : LeaseRecord) (options : ContainmentOptions) (sampler : ProcessSampler) :
    List Action :=
  terminateOwnedProcesses lease (firstDiscovery lease options sampler) options sampler

/-- A pid that gets a signal, for itself or as a member of a group. -/
def Signalled (lease : LeaseRecord) (options : ContainmentOptions) (sampler : ProcessSampler)
    (pid : Pid) : Prop :=
  (∃ signal, .killPid pid signal ∈ terminations lease options sampler) ∨
  ∃ pgid signal, .killProcessGroup pgid signal ∈ terminations lease options sampler ∧
    ∃ record ∈ groupMembers (firstSample sampler) pgid, record.pid = pid

/-- What is promised of the signals. -/
structure LeaseScoped (lease : LeaseRecord) (options : ContainmentOptions)
    (sampler : ProcessSampler) : Prop where
  owned : ∀ pid, Signalled lease options sampler pid →
    IsOwned (firstDiscovery lease options sampler).owned pid
  notBroker : ∀ pid, Signalled lease options sampler pid → pid ≠ options.brokerPid
  notRequester : ∀ pid, Signalled lease options sampler pid → some pid ≠ options.requester
  notOwner : options.killOwner = false → ∀ pid, Signalled lease options sampler pid →
    validatedOwnerPid lease (processTable (firstSample sampler)) options.timestamp ≠ some pid
  killed : ∀ pid, .killPid pid .kill ∈ terminations lease options sampler →
    ∃ records, sampler 1 = some records ∧
      IsOwned (discoverLeaseOwnedProcesses lease records options.afterTermWait).owned pid
  groupNotKilled : ∀ pgid,
    .killProcessGroup pgid .kill ∉ terminations lease options sampler

/-! ## Who is signalled -/

variable {lease : LeaseRecord} {options : ContainmentOptions} {sampler : ProcessSampler}

theorem mem_sortedPids {discovery : Discovery} {pid : Pid} :
    pid ∈ discovery.sortedPids ↔ IsOwned discovery.owned pid := by
  simp [Discovery.sortedPids, IsOwned]

/-- Containment is due: the reason asks for it, or the memory ceiling is exceeded. -/
def ContainmentDue (lease : LeaseRecord) (options : ContainmentOptions)
    (sampler : ProcessSampler) : Prop :=
  shouldContain options.reason lease (totalRssBytes
    ((firstDiscovery lease options sampler).owned.filter fun entry =>
      some entry.pid ≠ options.requester)) = true ∧ (sampler 0).isSome

theorem mem_containLeaseProcesses {action : Action} :
    action ∈ containLeaseProcesses lease options sampler ↔
      ContainmentDue lease options sampler ∧ action ∈ terminations lease options sampler := by
  unfold containLeaseProcesses ContainmentDue terminations firstDiscovery firstSample
  cases sampler 0 with
  | none => simp
  | some records =>
      simp only [Option.getD_some, Option.isSome_some, and_true]
      split
      · next hdue => simp only [hdue, true_and]
      · next hnot => exact iff_of_false List.not_mem_nil fun hmem => hnot hmem.1

theorem termAction_eq_killPid {discovery : Discovery} {pid other : Pid} {signal : Signal} :
    termAction discovery options pid = .killPid other signal ↔
      pid = other ∧ signal = .term ∧ skipReason discovery options pid = none := by
  unfold termAction
  cases skipReason discovery options pid with
  | none => simp [eq_comm]
  | some why => simp

theorem killPid_term_mem {discovery : Discovery} {pid : Pid} :
    .killPid pid .term ∈ terminateOwnedProcesses lease discovery options sampler ↔
      IsOwned discovery.owned pid ∧ skipReason discovery options pid = none := by
  unfold terminateOwnedProcesses
  cases revalidatedOwnedPids lease options sampler with
  | none =>
      simp only [List.append_nil, List.mem_append, List.mem_map, termAction_eq_killPid,
        ← mem_sortedPids]
      constructor
      · rintro (⟨pgid, -, ⟨⟩⟩ | ⟨found, hfound, rfl, -, hskip⟩)
        exact ⟨hfound, hskip⟩
      · rintro ⟨hfound, hskip⟩
        exact Or.inr ⟨pid, hfound, rfl, trivial, hskip⟩
  | some revalidated =>
      simp only [List.mem_append, List.mem_map, termAction_eq_killPid, ← mem_sortedPids]
      constructor
      · rintro ((⟨pgid, -, ⟨⟩⟩ | ⟨found, hfound, rfl, -, hskip⟩) | ⟨found, -, ⟨⟩⟩)
        exact ⟨hfound, hskip⟩
      · rintro ⟨hfound, hskip⟩
        exact Or.inl (Or.inr ⟨pid, hfound, rfl, trivial, hskip⟩)

theorem killPid_kill_mem {discovery : Discovery} {pid : Pid} :
    .killPid pid .kill ∈ terminateOwnedProcesses lease discovery options sampler ↔
      IsOwned discovery.owned pid ∧ skipReason discovery options pid = none ∧
        ∃ records, sampler 1 = some records ∧
          IsOwned (discoverLeaseOwnedProcesses lease records options.afterTermWait).owned pid := by
  unfold terminateOwnedProcesses revalidatedOwnedPids
  cases hsecond : sampler 1 with
  | none =>
      simp only [Option.map_none, List.append_nil, List.mem_append, List.mem_map,
        termAction_eq_killPid]
      constructor
      · rintro (⟨pgid, -, ⟨⟩⟩ | ⟨found, hfound, rfl, ⟨⟩, hskip⟩)
      · rintro ⟨-, -, records, ⟨⟩, -⟩
  | some records =>
      simp only [Option.map_some, List.mem_append, List.mem_map, termAction_eq_killPid,
        List.mem_filter, ← mem_sortedPids, Bool.and_eq_true, List.contains_iff_mem,
        Option.isNone_iff_eq_none, Option.some.injEq, exists_eq_left', Action.killPid.injEq,
        and_true]
      constructor
      · rintro ((⟨pgid, -, ⟨⟩⟩ | ⟨found, hfound, rfl, ⟨⟩, hskip⟩) |
          ⟨found, ⟨hfound, hskip, hagain⟩, rfl⟩)
        obtain ⟨entry, hentry, rfl⟩ := hagain
        exact ⟨hfound, hskip, mem_sortedPids.mpr ⟨entry, hentry, rfl⟩⟩
      · rintro ⟨hfound, hskip, hagain⟩
        exact Or.inr ⟨pid, ⟨hfound, hskip, mem_sortedPids.mp hagain⟩, rfl⟩

theorem killProcessGroup_mem {discovery : Discovery} {pgid : Pid} {signal : Signal} :
    .killProcessGroup pgid signal ∈ terminateOwnedProcesses lease discovery options sampler ↔
      discovery.commandGroupOwned options.requester = some pgid ∧ signal = .term := by
  have hterm : ∀ pid, termAction discovery options pid ≠ .killProcessGroup pgid signal := by
    intro pid
    unfold termAction
    split
    all_goals rintro ⟨⟩
  unfold terminateOwnedProcesses
  constructor
  · intro hmem
    obtain hmem | hkill := List.mem_append.mp hmem
    · obtain hgroup | hpid := List.mem_append.mp hmem
      · obtain ⟨found, hfound, heq⟩ := List.mem_map.mp hgroup
        cases heq
        exact ⟨Option.mem_toList.mp hfound, rfl⟩
      · obtain ⟨pid, -, heq⟩ := List.mem_map.mp hpid
        exact absurd heq (hterm pid)
    · split at hkill
      · cases hkill
      · obtain ⟨pid, -, heq⟩ := List.mem_map.mp hkill
        cases heq
  · rintro ⟨hgroup, rfl⟩
    refine List.mem_append_left _ (List.mem_append_left _ (List.mem_map.mpr ⟨pgid, ?_, rfl⟩))
    exact Option.mem_toList.mpr hgroup

/-- The pid that is kept as the owner is the validated one. -/
theorem discovery_ownerPid (lease : LeaseRecord) (records : List ProcessRecord)
    (now : Timestamp) :
    (discoverLeaseOwnedProcesses lease records now).ownerPid =
      validatedOwnerPid lease (processTable records) now := by
  unfold Discovery.ownerPid
  cases hfind : (discoverLeaseOwnedProcesses lease records now).owned.find? fun entry =>
      entry.reasons.contains .ownerPid with
  | some entry =>
      have hmarked : entry.reasons.contains .ownerPid = true := by
        simpa using List.find?_some hfind
      have hreason : HasReason (discoverLeaseOwnedProcesses lease records now).owned entry.pid
          .ownerPid :=
        ⟨entry, List.mem_of_find?_eq_some hfind, rfl, List.contains_iff_mem.mp hmarked⟩
      exact (hasReason_ownerPid.mp hreason).symm
  | none =>
      cases hvalidated : validatedOwnerPid lease (processTable records) now with
      | none => rfl
      | some pid =>
          obtain ⟨entry, hentry, -, hreason⟩ := hasReason_ownerPid.mpr hvalidated
          have habsent := List.find?_eq_none.mp hfind entry hentry
          exact absurd (List.contains_iff_mem.mpr hreason) habsent

theorem skipReason_none {discovery : Discovery} {pid : Pid}
    (hskip : skipReason discovery options pid = none) :
    pid ≠ options.brokerPid ∧ some pid ≠ options.requester ∧
      (options.killOwner = false → discovery.ownerPid ≠ some pid) := by
  unfold skipReason at hskip
  split at hskip
  · cases hskip
  · next hbroker =>
      split at hskip
      · cases hskip
      · next hrequester =>
          split at hskip
          · cases hskip
          · next howner =>
              exact ⟨hbroker, hrequester, fun hkeep heq => howner ⟨heq.symm, hkeep⟩⟩

/-! ## The lease in a sample -/

/-- The record of the owner pid is that of the owner. -/
structure OwnerRecord (lease : LeaseRecord) (processes : List ProcessRecord) (now : Timestamp)
    (record : ProcessRecord) : Prop where
  registered : lease.ownerPidOrLease = some record.pid
  found : recordOfPid processes record.pid = some record
  matching : ownerPidMatchesLease record lease.toLease now = true

/-- The record of the command pid is that of the command, in its registered group. -/
structure CommandRecord (lease : LeaseRecord) (processes : List ProcessRecord) (now : Timestamp)
    (record : ProcessRecord) : Prop where
  registered : lease.commandPid = some record.pid
  found : recordOfPid processes record.pid = some record
  member : record.pgid = lease.commandPgid
  matching : commandPidMatchesRegisteredMetadata record lease now = true

/-- The group of the owner: the registered one, or else that of its record. -/
def OwnerGroup (lease : LeaseRecord) (processes : List ProcessRecord) (now : Timestamp)
    (pgid : Pid) : Prop :=
  lease.registeredOwnerPgid = some pgid ∨
    lease.registeredOwnerPgid = none ∧
      ∃ record, OwnerRecord lease processes now record ∧ positive? record.pgid = some pgid

/-- The command is still the lease's: its pid matches, or its group does. -/
def CommandGroupCurrent (lease : LeaseRecord) (processes : List ProcessRecord)
    (now : Timestamp) : Prop :=
  (∃ record, CommandRecord lease processes now record) ∨
    commandProcessGroupStillMatchesLease lease processes now = true

/-- A process that has to do with the lease by itself, as its owner or by the simulator that it
names. -/
inductive Related (lease : LeaseRecord) (processes : List ProcessRecord) (now : Timestamp) :
    ProcessRecord → Prop where
  | owner {record : ProcessRecord} (owner : OwnerRecord lease processes now record) :
      Related lease processes now record
  | ownerGroup {record : ProcessRecord} {pgid : Pid} (present : record ∈ processes)
      (group : OwnerGroup lease processes now pgid) (member : record.pgid = some pgid)
      (notShell : looksLikeShellProcess record.command = false)
      (references : commandReferencesLeaseSimulator record lease = true) :
      Related lease processes now record
  | simulator {record : ProcessRecord} (present : record ∈ processes)
      (names : commandMatchesSimulatorLease record lease = true) :
      Related lease processes now record

/-- Such a process, or a descendant of one. -/
def DescendsFromRelated (lease : LeaseRecord) (processes : List ProcessRecord) (now : Timestamp)
    (pid : Pid) : Prop :=
  ∃ record, Related lease processes now record ∧
    (pid = record.pid ∨ Graph.Reaches (childrenByParent processes) record.pid pid)

section Records

variable {processes : List ProcessRecord} {now : Timestamp} {pid pgid : Pid}

theorem validatedOwnerPid_iff :
    validatedOwnerPid lease processes now = some pid ↔
      ∃ record, OwnerRecord lease processes now record ∧ record.pid = pid := by
  unfold validatedOwnerPid
  constructor
  · intro hvalidated
    cases howner : lease.ownerPidOrLease with
    | none => simp [howner] at hvalidated
    | some ownerPid =>
        cases hrecord : recordOfPid processes ownerPid with
        | none => simp [howner, hrecord] at hvalidated
        | some record =>
            simp only [howner, hrecord] at hvalidated
            split at hvalidated
            · next hmatching =>
                cases hvalidated
                obtain ⟨-, rfl⟩ := mem_of_recordOfPid hrecord
                exact ⟨record, ⟨howner, hrecord, hmatching⟩, rfl⟩
            · cases hvalidated
  · rintro ⟨record, ⟨hregistered, hfound, hmatching⟩, rfl⟩
    simp only [hregistered, hfound, hmatching, if_true]

theorem ownerPgid_iff : ownerPgid lease processes now = some pgid ↔
    OwnerGroup lease processes now pgid := by
  unfold ownerPgid OwnerGroup
  cases hregistered : lease.registeredOwnerPgid with
  | some registered => simp
  | none =>
      simp only [reduceCtorEq, false_or, true_and]
      constructor
      · intro hinferred
        cases hvalidated : validatedOwnerPid lease processes now with
        | none => simp [hvalidated] at hinferred
        | some ownerPid =>
            obtain ⟨record, howner, rfl⟩ := validatedOwnerPid_iff.mp hvalidated
            simp only [hvalidated, howner.found, Option.bind_some] at hinferred
            exact ⟨record, howner, hinferred⟩
      · rintro ⟨record, howner, hpgid⟩
        simp only [validatedOwnerPid_iff.mpr ⟨record, howner, rfl⟩, howner.found, Option.bind_some,
          hpgid]

theorem commandPidMatchesLease_iff {record : ProcessRecord} {ownerPid : Option Pid}
    (hregistered : lease.commandPgid = some pgid) :
    commandPidMatchesLease record lease ownerPid now = true ↔
      record.pgid = some pgid ∧ commandPidMatchesRegisteredMetadata record lease now = true := by
  unfold commandPidMatchesLease
  simp only [hregistered]
  split
  · next hdefunct =>
      have hunmatched : commandPidMatchesRegisteredMetadata record lease now = false :=
        if_pos hdefunct
      simp [hunmatched]
  · rw [Bool.and_eq_true, beq_iff_eq]

theorem validatedCommandPid_iff (hregistered : lease.commandPgid = some pgid) :
    validatedCommandPid lease processes now = some pid ↔
      ∃ record, CommandRecord lease processes now record ∧ record.pid = pid := by
  unfold validatedCommandPid
  constructor
  · intro hvalidated
    cases hcommand : lease.commandPid with
    | none => simp [hcommand] at hvalidated
    | some commandPid =>
        cases hrecord : recordOfPid processes commandPid with
        | none => simp [hcommand, hrecord] at hvalidated
        | some record =>
            simp only [hcommand, hrecord] at hvalidated
            split at hvalidated
            · next hmatching =>
                cases hvalidated
                obtain ⟨-, rfl⟩ := mem_of_recordOfPid hrecord
                obtain ⟨hmember, hmetadata⟩ := (commandPidMatchesLease_iff hregistered).mp hmatching
                exact ⟨record, ⟨hcommand, hrecord, hmember.trans hregistered.symm, hmetadata⟩, rfl⟩
            · cases hvalidated
  · rintro ⟨record, ⟨hcommand, hfound, hmember, hmetadata⟩, rfl⟩
    have hmatching : commandPidMatchesLease record lease (validatedOwnerPid lease processes now)
        now = true :=
      (commandPidMatchesLease_iff hregistered).mpr ⟨hmember.trans hregistered, hmetadata⟩
    simp only [hcommand, hfound, hmatching, if_true]

/-- Without a command, what the lease owns outside its command group descends from a related
process. -/
theorem descendsFromRelated_of_ownedAlone (hregistered : lease.commandPgid = some pgid)
    (hnone : ¬ CommandGroupCurrent lease processes now)
    (howned : OwnedAlone lease processes now pid) : DescendsFromRelated lease processes now pid := by
  obtain ⟨root, hroot, hpid⟩ := howned
  cases hroot with
  | owner validated =>
      obtain ⟨record, howner, rfl⟩ := validatedOwnerPid_iff.mp validated
      exact ⟨record, .owner howner, hpid⟩
  | command validated =>
      obtain ⟨record, hcommand, rfl⟩ := (validatedCommandPid_iff hregistered).mp validated
      exact absurd (.inl ⟨record, hcommand⟩) hnone
  | ownerGroup record present known member notShell references =>
      exact ⟨record, .ownerGroup present (ownerPgid_iff.mp known) member notShell references, hpid⟩
  | simulator record present names => exact ⟨record, .simulator present names, hpid⟩

end Records

/-! ## The condition -/

/-- The requester is a process of the group. -/
def RequesterInside (options : ContainmentOptions) (processes : List ProcessRecord) (pgid : Pid) :
    Prop :=
  (∃ listed ∈ processes, some listed.pid = options.requester) ∧
    ∀ listed ∈ processes, some listed.pid = options.requester → listed.pgid = some pgid

/-- A process of the group that a signal to it may reach. -/
structure Reachable (lease : LeaseRecord) (options : ContainmentOptions)
    (records : List ProcessRecord) (pgid pid : Pid) : Prop where
  listed : ∃ listed ∈ processTable records, listed.pid = pid ∧ listed.pgid = some pgid
  notBroker : pid ≠ options.brokerPid
  notRequester : some pid ≠ options.requester
  notOwner : options.killOwner = false → ∀ owner,
    OwnerRecord lease (processTable records) options.timestamp owner → pid ≠ owner.pid

/-- The command group has not been recycled, and nobody else has joined it. -/
structure GroupKept (lease : LeaseRecord) (options : ContainmentOptions)
    (records : List ProcessRecord) (pgid : Pid) : Prop where
  current : CommandGroupCurrent lease (processTable records) options.timestamp ∨
    ∀ record ∈ processTable records, record.pgid = some pgid →
      ¬ DescendsFromRelated lease (processTable records) options.timestamp record.pid
  members : CommandGroupCurrent lease (processTable records) options.timestamp →
    ∀ record ∈ groupMembers records pgid, Reachable lease options records pgid record.pid

/-- The registered command group is kept, unless it is that of the owner or the requester is in
it. -/
def CommandGroupKept (lease : LeaseRecord) (options : ContainmentOptions)
    (records : List ProcessRecord) : Prop :=
  ∀ pgid ownerGroup, lease.commandPgid = some pgid → 1 < pgid →
    OwnerGroup lease (processTable records) options.timestamp ownerGroup → pgid ≠ ownerGroup →
    ¬ RequesterInside options (processTable records) pgid → GroupKept lease options records pgid

/-! ## The group that is signalled -/

/-- The registered command group is signalled: it is not that of the owner, an owned process
carries it, and the requester is not seen in it. -/
structure GroupSignalled (lease : LeaseRecord) (options : ContainmentOptions)
    (sampler : ProcessSampler) (pgid : Pid) : Prop where
  registered : lease.commandPgid = some pgid
  signalable : 1 < pgid
  notOwnerGroup : ∃ ownerGroup, ownerPgid lease (processTable (firstSample sampler))
    options.timestamp = some ownerGroup ∧ pgid ≠ ownerGroup
  carried : ∃ entry ∈ (firstDiscovery lease options sampler).owned, entry.pgid = some pgid
  requesterOutside :
    (firstDiscovery lease options sampler).requesterInCommandGroup options.requester = false

theorem groupSignalled_iff {pgid : Pid} {signal : Signal} :
    .killProcessGroup pgid signal ∈ terminations lease options sampler ↔
      GroupSignalled lease options sampler pgid ∧ signal = .term := by
  unfold terminations
  rw [killProcessGroup_mem]
  refine and_congr_left fun _ => ?_
  unfold Discovery.commandGroupOwned
  constructor
  · intro hgroup
    cases hcommand : (firstDiscovery lease options sampler).commandPgid with
    | none => simp [hcommand] at hgroup
    | some commandPgid =>
        cases howner : (firstDiscovery lease options sampler).ownerPgid with
        | none => simp [hcommand, howner] at hgroup
        | some ownerGroup =>
            simp only [hcommand, howner] at hgroup
            split at hgroup
            · next hall =>
                cases hgroup
                obtain ⟨hsignalable, hother, hcarried, houtside⟩ := hall
                obtain ⟨entry, hentry, hpgid⟩ := List.any_eq_true.mp hcarried
                exact ⟨hcommand, of_decide_eq_true hsignalable, ⟨ownerGroup, howner, hother⟩,
                  ⟨entry, hentry, beq_iff_eq.mp hpgid⟩, houtside⟩
            · cases hgroup
  · rintro ⟨hregistered, hsignalable, ⟨ownerGroup, howner, hother⟩, ⟨entry, hentry, hpgid⟩,
      houtside⟩
    have hcommand : (firstDiscovery lease options sampler).commandPgid = some pgid := hregistered
    have howner : (firstDiscovery lease options sampler).ownerPgid = some ownerGroup := howner
    simp only [hcommand, howner]
    rw [if_pos ⟨decide_eq_true hsignalable, hother,
      List.any_eq_true.mpr ⟨entry, hentry, beq_iff_eq.mpr hpgid⟩, houtside⟩]

/-- With an owner's group beside it, the command group is claimed when it is current. -/
theorem claimCommandProcessGroup_iff {processes : List ProcessRecord} {now : Timestamp}
    {pgid ownerGroup : Pid} (hregistered : lease.commandPgid = some pgid)
    (hsignalable : 1 < pgid) (howner : ownerPgid lease processes now = some ownerGroup)
    (hother : pgid ≠ ownerGroup) :
    claimCommandProcessGroup lease processes now = true ↔
      CommandGroupCurrent lease processes now := by
  have hcommand : (∃ record, CommandRecord lease processes now record) ↔
      validatedCommandPid lease processes now ≠ none := by
    rw [Option.ne_none_iff_exists']
    simp only [validatedCommandPid_iff hregistered]
    exact ⟨fun ⟨record, hrecord⟩ => ⟨record.pid, record, hrecord, rfl⟩,
      fun ⟨_, record, hrecord, _⟩ => ⟨record, hrecord⟩⟩
  unfold CommandGroupCurrent
  rw [hcommand]
  unfold claimCommandProcessGroup
  cases hvalidated : validatedCommandPid lease processes now with
  | none => simp [hregistered, howner, isSignalableProcessGroupId, hsignalable, hother]
  | some commandPid => simp [hregistered, howner, isSignalableProcessGroupId, hsignalable, hother]

/-- A requester in the group is seen there, owned or not. -/
theorem GroupSignalled.notInside {pgid : Pid}
    (hsignalled : GroupSignalled lease options sampler pgid) :
    ¬ RequesterInside options (processTable (firstSample sampler)) pgid := by
  rintro ⟨⟨listed, hlisted, hrequester⟩, hall⟩
  have hseen := hsignalled.requesterOutside
  have hcommand : (firstDiscovery lease options sampler).commandPgid = some pgid :=
    hsignalled.registered
  unfold Discovery.requesterInCommandGroup at hseen
  simp only [← hrequester, hcommand] at hseen
  rw [List.any_eq_false] at hseen
  have hexists : ∃ record ∈ (firstDiscovery lease options sampler).owned.map (·.toProcessRecord) ++
      (firstDiscovery lease options sampler).skipped, record.pid = listed.pid ∧
        record ∈ processTable (firstSample sampler) := by
    by_cases howned : (firstDiscovery lease options sampler).owned.any
        fun entry => entry.pid = listed.pid
    · obtain ⟨entry, hentry, hpid⟩ := List.any_eq_true.mp howned
      exact ⟨entry.toProcessRecord, List.mem_append_left _ (List.mem_map_of_mem hentry),
        of_decide_eq_true hpid, mem_processTable_of_owned hentry⟩
    · refine ⟨listed, List.mem_append_right _ (List.mem_filter.mpr ⟨hlisted, ?_⟩), rfl, hlisted⟩
      rw [Bool.not_eq_true', ← Bool.not_eq_true]
      exact howned
  obtain ⟨record, hrecord, hpid, htable⟩ := hexists
  refine hseen record hrecord ?_
  rw [Bool.and_eq_true, beq_iff_eq]
  exact ⟨decide_eq_true hpid, hall record htable (by rw [hpid, hrequester])⟩

/-- Where its command group is kept, a lease signals a group only as that of its command. -/
theorem GroupSignalled.current {pgid : Pid}
    (hsignalled : GroupSignalled lease options sampler pgid)
    (hkept : GroupKept lease options (firstSample sampler) pgid) :
    CommandGroupCurrent lease (processTable (firstSample sampler)) options.timestamp := by
  by_contra hnone
  have huntied := hkept.current.resolve_left hnone
  obtain ⟨ownerGroup, howner, hother⟩ := hsignalled.notOwnerGroup
  obtain ⟨entry, hentry, hpgid⟩ := hsignalled.carried
  have hclaim := claimCommandProcessGroup_iff hsignalled.registered hsignalled.signalable howner
    hother
  obtain halone | hgroup := isOwned_discoverLeaseOwnedProcesses.mp ⟨entry, hentry, rfl⟩
  · exact huntied entry.toProcessRecord (mem_processTable_of_owned hentry) hpgid
      (descendsFromRelated_of_ownedAlone hsignalled.registered hnone halone)
  · exact hnone (hclaim.mp hgroup.1)

/-- Every process that gets a signal in person is owned, and none of the spared ones. -/
theorem killPid_spared {pid : Pid} {signal : Signal}
    (hmem : .killPid pid signal ∈ terminations lease options sampler) :
    IsOwned (firstDiscovery lease options sampler).owned pid ∧
      skipReason (firstDiscovery lease options sampler) options pid = none := by
  unfold terminations at hmem
  cases signal with
  | term => exact killPid_term_mem.mp hmem
  | kill =>
      obtain ⟨howned, hskip, -⟩ := killPid_kill_mem.mp hmem
      exact ⟨howned, hskip⟩

/-- What a signal to a kept group reaches. -/
theorem GroupSignalled.reaches {pgid : Pid} {record : ProcessRecord}
    (hsignalled : GroupSignalled lease options sampler pgid)
    (hkept : CommandGroupKept lease options (firstSample sampler))
    (hrecord : record ∈ groupMembers (firstSample sampler) pgid) :
    Reachable lease options (firstSample sampler) pgid record.pid ∧
      IsOwned (firstDiscovery lease options sampler).owned record.pid := by
  obtain ⟨ownerGroup, howner, hother⟩ := hsignalled.notOwnerGroup
  have hgroup := hkept pgid ownerGroup hsignalled.registered hsignalled.signalable
    (ownerPgid_iff.mp howner) hother hsignalled.notInside
  have hcurrent := hsignalled.current hgroup
  have hreachable := hgroup.members hcurrent record hrecord
  obtain ⟨listed, hlisted, hpid, hpgid⟩ := hreachable.listed
  have hclaim := (claimCommandProcessGroup_iff hsignalled.registered hsignalled.signalable howner
    hother).mpr hcurrent
  exact ⟨hreachable, isOwned_discoverLeaseOwnedProcesses.mpr
    (.inr ⟨hclaim, listed, hlisted, hpid, hpgid.trans hsignalled.registered.symm⟩)⟩

/-- Only lease-owned processes are signalled where the command group is kept. -/
theorem terminateOwnedProcesses_leaseScoped (lease : LeaseRecord) (options : ContainmentOptions)
    (sampler : ProcessSampler) (hkept : CommandGroupKept lease options (firstSample sampler)) :
    LeaseScoped lease options sampler := by
  refine ⟨?_, ?_, ?_, ?_, ?_, ?_⟩
  · rintro pid (⟨signal, hmem⟩ | ⟨pgid, signal, hmem, record, hrecord, rfl⟩)
    · exact (killPid_spared hmem).1
    · exact ((groupSignalled_iff.mp hmem).1.reaches hkept hrecord).2
  · rintro pid (⟨signal, hmem⟩ | ⟨pgid, signal, hmem, record, hrecord, rfl⟩)
    · exact (skipReason_none (killPid_spared hmem).2).1
    · exact ((groupSignalled_iff.mp hmem).1.reaches hkept hrecord).1.notBroker
  · rintro pid (⟨signal, hmem⟩ | ⟨pgid, signal, hmem, record, hrecord, rfl⟩)
    · exact (skipReason_none (killPid_spared hmem).2).2.1
    · exact ((groupSignalled_iff.mp hmem).1.reaches hkept hrecord).1.notRequester
  · rintro hkeep pid (⟨signal, hmem⟩ | ⟨pgid, signal, hmem, record, hrecord, rfl⟩)
    · have hnot := (skipReason_none (killPid_spared hmem).2).2.2 hkeep
      rwa [firstDiscovery, discovery_ownerPid] at hnot
    · have hreachable := ((groupSignalled_iff.mp hmem).1.reaches hkept hrecord).1
      intro hvalidated
      obtain ⟨owner, howner, hpid⟩ := validatedOwnerPid_iff.mp hvalidated
      exact hreachable.notOwner hkeep owner howner hpid.symm
  · intro pid hmem
    exact (killPid_kill_mem.mp hmem).2.2
  · intro pgid hmem
    cases (groupSignalled_iff.mp hmem).2

/-! ## A command and its group -/

/-- A lease with the command group 200. -/
def groupedLease : LeaseRecord where
  leaseId := 0
  aliasName := "slot"
  ownerPid := 100
  projectId := "app"
  purposeId := "ui-tests"
  resetPolicy := .none
  simulatorId := 0
  simulatorUdid := "UDID"
  startedAt := 0
  runtime := { ownerPgid := some 100, commandPid := some 200, commandPgid := some 200
               commandRegisteredAt := some 0 }

/-- The owner, its command and a child of the command. -/
def runningSample : List ProcessRecord :=
  [ { pid := 100, ppid := some 1, pgid := some 100, elapsed := some "01:00:00", command := "node" },
    { pid := 200, ppid := some 100, pgid := some 200, elapsed := some "01:00:00"
      command := "npm test" },
    { pid := 201, ppid := some 200, pgid := some 200, elapsed := some "00:10", command := "jest" } ]

theorem commandGroupKept_running : CommandGroupKept groupedLease
    { processPid := 1, timestamp := 3600000 } runningSample := by
  intro pgid ownerGroup hregistered _ _ _ _
  obtain rfl : (200 : Pid) = pgid := Option.some.inj hregistered
  refine ⟨.inl (.inr (by decide +kernel)), fun _ record hrecord => ?_⟩
  have howner : ∀ owner, OwnerRecord groupedLease (processTable runningSample) 3600000 owner →
      owner.pid = 100 :=
    fun owner howner => (Option.some.inj howner.registered).symm
  have hmembers : groupMembers runningSample 200 = [runningSample[1], runningSample[2]] := rfl
  rw [hmembers, List.mem_cons, List.mem_singleton] at hrecord
  rcases hrecord with rfl | rfl
  · refine ⟨⟨runningSample[1], by decide +kernel, rfl, rfl⟩, by decide, by decide, ?_⟩
    intro _ owner hrecord
    rw [howner owner hrecord]
    decide
  · refine ⟨⟨runningSample[2], by decide +kernel, rfl, rfl⟩, by decide, by decide, ?_⟩
    intro _ owner hrecord
    rw [howner owner hrecord]
    decide

/-- The running command's group is signalled, and only lease-owned processes are. -/
theorem terminateOwnedProcesses_leaseScoped_running :
    .killProcessGroup 200 .term ∈ terminations groupedLease
        { processPid := 1, timestamp := 3600000 } (fun _ => some runningSample) ∧
      LeaseScoped groupedLease { processPid := 1, timestamp := 3600000 }
        (fun _ => some runningSample) :=
  ⟨by decide +kernel, terminateOwnedProcesses_leaseScoped _ _ _ commandGroupKept_running⟩

/-! ## A recycled process group -/

/-- An hour later the group id belongs to another job, one process of which names the
simulator of the lease. -/
def recycledGroupSample : List ProcessRecord :=
  [ { pid := 100, ppid := some 1, pgid := some 100, elapsed := some "01:00:00", command := "node" },
    { pid := 200, ppid := some 1, pgid := some 200, elapsed := some "00:10", command := "make" },
    { pid := 201, ppid := some 200, pgid := some 200, elapsed := some "00:10"
      command := "grep xctest UDID" } ]

/-- The whole group is signalled, its leader too, which the lease does not own. -/
theorem containLeaseProcesses_recycledGroup :
    .killProcessGroup 200 .term ∈ containLeaseProcesses groupedLease
        { processPid := 1, timestamp := 3600000 } (fun _ => some recycledGroupSample) ∧
      ¬ LeaseScoped groupedLease { processPid := 1, timestamp := 3600000 }
        (fun _ => some recycledGroupSample) := by
  have hgroup : .killProcessGroup 200 .term ∈ containLeaseProcesses groupedLease
      { processPid := 1, timestamp := 3600000 } (fun _ => some recycledGroupSample) := by
    decide +kernel
  refine ⟨hgroup, fun hscoped => ?_⟩
  obtain ⟨entry, hentry, hpid⟩ := hscoped.owned 200
    (Or.inr ⟨200, .term, (mem_containLeaseProcesses.mp hgroup).2, recycledGroupSample[1], by decide,
      rfl⟩)
  have hpids : ∀ entry ∈ (firstDiscovery groupedLease
      { processPid := 1, timestamp := 3600000 } (fun _ => some recycledGroupSample)).owned,
      entry.pid ≠ 200 := by
    decide +kernel
  exact hpids entry hentry hpid

end SimulatorBroker.Containment
