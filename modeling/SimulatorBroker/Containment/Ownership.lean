import SimulatorBroker.Containment.Discovery

/-!
# What discovery finds

The rules by which a process belongs to a lease, stated on the process tree, and
that discovery finds exactly those processes.
-/

namespace SimulatorBroker.Containment

open State

/-! ## The rules -/

/-- A process that a lease owns by itself, not through its parents. -/
inductive IsRoot (lease : LeaseRecord) (processes : List ProcessRecord) (now : Timestamp) :
    Pid → Prop where
  | owner {pid : Pid} (validated : validatedOwnerPid lease processes now = some pid) :
      IsRoot lease processes now pid
  | command {pid : Pid} (validated : validatedCommandPid lease processes now = some pid) :
      IsRoot lease processes now pid
  | ownerGroup {pgid : Pid} (record : ProcessRecord) (present : record ∈ processes)
      (known : ownerPgid lease processes now = some pgid) (member : record.pgid = some pgid)
      (notShell : looksLikeShellProcess record.command = false)
      (references : commandReferencesLeaseSimulator record lease = true) :
      IsRoot lease processes now record.pid
  | simulator (record : ProcessRecord) (present : record ∈ processes)
      (names : commandMatchesSimulatorLease record lease = true) :
      IsRoot lease processes now record.pid

/-- A process that a lease owns, its command group apart. -/
def OwnedAlone (lease : LeaseRecord) (processes : List ProcessRecord) (now : Timestamp)
    (pid : Pid) : Prop :=
  ∃ root, IsRoot lease processes now root ∧
    (pid = root ∨ Graph.Reaches (childrenByParent processes) root pid)

/-- A process that is claimed together with the command group. -/
def OwnedByGroup (lease : LeaseRecord) (processes : List ProcessRecord) (now : Timestamp)
    (pid : Pid) : Prop :=
  claimCommandProcessGroup lease processes now = true ∧
    ∃ record ∈ processes, record.pid = pid ∧ record.pgid = lease.commandPgid

/-! ## Owned processes -/

def IsOwned (owned : List OwnedProcess) (pid : Pid) : Prop :=
  ∃ entry ∈ owned, entry.pid = pid

def HasReason (owned : List OwnedProcess) (pid : Pid) (reason : OwnedReason) : Prop :=
  ∃ entry ∈ owned, entry.pid = pid ∧ reason ∈ entry.reasons

theorem isOwned_addOwnedProcess (owned : List OwnedProcess) (record : ProcessRecord)
    (reason : OwnedReason) (pid : Pid) :
    IsOwned (addOwnedProcess owned record reason) pid ↔ IsOwned owned pid ∨ record.pid = pid := by
  unfold addOwnedProcess IsOwned
  split
  · next hknown =>
      obtain ⟨known, hmem, hsame⟩ := List.any_eq_true.mp hknown
      constructor
      · rintro ⟨entry, hentry, rfl⟩
        obtain ⟨before, hbefore, rfl⟩ := List.mem_map.mp hentry
        refine Or.inl ⟨before, hbefore, ?_⟩
        split
        all_goals rfl
      · rintro (⟨entry, hentry, rfl⟩ | rfl)
        · refine ⟨_, List.mem_map_of_mem hentry, ?_⟩
          split
          all_goals rfl
        · refine ⟨_, List.mem_map_of_mem hmem, ?_⟩
          split
          all_goals exact of_decide_eq_true hsame
  · simp [or_and_right, exists_or]

theorem hasReason_addOwnedProcess (owned : List OwnedProcess) (record : ProcessRecord)
    (reason why : OwnedReason) (pid : Pid) :
    HasReason (addOwnedProcess owned record reason) pid why ↔
      HasReason owned pid why ∨ (record.pid = pid ∧ reason = why) := by
  unfold addOwnedProcess HasReason
  split
  · next hknown =>
      obtain ⟨known, hmem, hsame⟩ := List.any_eq_true.mp hknown
      have hsame : known.pid = record.pid := of_decide_eq_true hsame
      constructor
      · rintro ⟨entry, hentry, rfl, hwhy⟩
        obtain ⟨before, hbefore, rfl⟩ := List.mem_map.mp hentry
        split at hwhy
        · next hadds =>
            obtain hold | hnew := List.mem_append.mp hwhy
            · exact Or.inl ⟨before, hbefore, by rw [if_pos hadds], hold⟩
            · refine Or.inr ⟨?_, (List.mem_singleton.mp hnew).symm⟩
              rw [if_pos hadds]
              exact hadds.1.symm
        · next hkeeps => exact Or.inl ⟨before, hbefore, by rw [if_neg hkeeps], hwhy⟩
      · rintro (⟨entry, hentry, rfl, hwhy⟩ | ⟨rfl, rfl⟩)
        · refine ⟨_, List.mem_map_of_mem hentry, ?_⟩
          split
          · exact ⟨rfl, List.mem_append_left _ hwhy⟩
          · exact ⟨rfl, hwhy⟩
        · refine ⟨_, List.mem_map_of_mem hmem, ?_⟩
          split
          · exact ⟨hsame, List.mem_append_right _ (List.mem_singleton.mpr rfl)⟩
          · next hkeeps => exact ⟨hsame, not_not.mp fun hnew => hkeeps ⟨hsame, hnew⟩⟩
  · simp only [List.mem_append, List.mem_singleton, or_and_right, exists_or, exists_eq_left]
    constructor
    · exact Or.imp_right fun ⟨hpid, hwhy⟩ => ⟨hpid, hwhy.symm⟩
    · exact Or.imp_right fun ⟨hpid, hwhy⟩ => ⟨hpid, hwhy.symm⟩

theorem isOwned_addOwnedProcesses (records : List ProcessRecord)
    (reason : ProcessRecord → OwnedReason) (pid : Pid) (owned : List OwnedProcess) :
    IsOwned (addOwnedProcesses owned records reason) pid ↔
      IsOwned owned pid ∨ ∃ record ∈ records, record.pid = pid := by
  induction records generalizing owned with
  | nil => simp [addOwnedProcesses]
  | cons record records ih =>
      have hrest := ih (addOwnedProcess owned record (reason record))
      unfold addOwnedProcesses at hrest ⊢
      rw [List.foldl_cons, hrest, isOwned_addOwnedProcess, or_assoc, List.exists_mem_cons_iff]

theorem hasReason_addOwnedProcesses (records : List ProcessRecord)
    (reason : ProcessRecord → OwnedReason) (pid : Pid) (why : OwnedReason)
    (owned : List OwnedProcess) :
    HasReason (addOwnedProcesses owned records reason) pid why ↔
      HasReason owned pid why ∨ ∃ record ∈ records, record.pid = pid ∧ reason record = why := by
  induction records generalizing owned with
  | nil => simp [addOwnedProcesses]
  | cons record records ih =>
      have hrest := ih (addOwnedProcess owned record (reason record))
      unfold addOwnedProcesses at hrest ⊢
      rw [List.foldl_cons, hrest, hasReason_addOwnedProcess, or_assoc, List.exists_mem_cons_iff]

theorem isOwned_foldl (additions : List (List ProcessRecord × (ProcessRecord → OwnedReason)))
    (pid : Pid) (owned : List OwnedProcess) :
    IsOwned (additions.foldl (fun owned addition =>
      addOwnedProcesses owned addition.1 addition.2) owned) pid ↔
      IsOwned owned pid ∨ ∃ addition ∈ additions, ∃ record ∈ addition.1, record.pid = pid := by
  induction additions generalizing owned with
  | nil => simp
  | cons addition additions ih =>
      rw [List.foldl_cons, ih, isOwned_addOwnedProcesses, or_assoc, List.exists_mem_cons_iff]

theorem hasReason_foldl (additions : List (List ProcessRecord × (ProcessRecord → OwnedReason)))
    (pid : Pid) (why : OwnedReason) (owned : List OwnedProcess) :
    HasReason (additions.foldl (fun owned addition =>
      addOwnedProcesses owned addition.1 addition.2) owned) pid why ↔
      HasReason owned pid why ∨ ∃ addition ∈ additions, ∃ record ∈ addition.1,
        record.pid = pid ∧ addition.2 record = why := by
  induction additions generalizing owned with
  | nil => simp
  | cons addition additions ih =>
      rw [List.foldl_cons, ih, hasReason_addOwnedProcesses, or_assoc, List.exists_mem_cons_iff]

/-- Every owned process has a record that was added. -/
theorem listed_addOwnedProcess {listed : ProcessRecord → Prop} {record : ProcessRecord}
    {reason : OwnedReason} {owned : List OwnedProcess}
    (howned : ∀ entry ∈ owned, listed entry.toProcessRecord) (hrecord : listed record) :
    ∀ entry ∈ addOwnedProcess owned record reason, listed entry.toProcessRecord := by
  intro entry hentry
  unfold addOwnedProcess at hentry
  split at hentry
  · obtain ⟨before, hbefore, rfl⟩ := List.mem_map.mp hentry
    split
    all_goals exact howned before hbefore
  · obtain hold | hnew := List.mem_append.mp hentry
    · exact howned entry hold
    · rw [List.mem_singleton.mp hnew]
      exact hrecord

theorem listed_addOwnedProcesses {listed : ProcessRecord → Prop} {records : List ProcessRecord}
    {reason : ProcessRecord → OwnedReason} {owned : List OwnedProcess}
    (howned : ∀ entry ∈ owned, listed entry.toProcessRecord)
    (hrecords : ∀ record ∈ records, listed record) :
    ∀ entry ∈ addOwnedProcesses owned records reason, listed entry.toProcessRecord := by
  induction records generalizing owned with
  | nil => exact howned
  | cons record records ih =>
      exact ih (listed_addOwnedProcess howned (hrecords record List.mem_cons_self))
        fun record hmem => hrecords record (List.mem_cons_of_mem _ hmem)

theorem listed_foldl {listed : ProcessRecord → Prop}
    {additions : List (List ProcessRecord × (ProcessRecord → OwnedReason))}
    {owned : List OwnedProcess} (howned : ∀ entry ∈ owned, listed entry.toProcessRecord)
    (hadditions : ∀ addition ∈ additions, ∀ record ∈ addition.1, listed record) :
    ∀ entry ∈ additions.foldl (fun owned addition =>
      addOwnedProcesses owned addition.1 addition.2) owned, listed entry.toProcessRecord := by
  induction additions generalizing owned with
  | nil => exact howned
  | cons addition additions ih =>
      exact ih (listed_addOwnedProcesses howned (hadditions addition List.mem_cons_self))
        fun addition hmem => hadditions addition (List.mem_cons_of_mem _ hmem)

/-! ## Pids of the table -/

theorem mem_of_recordOfPid {processes : List ProcessRecord} {pid : Pid} {record : ProcessRecord}
    (hfound : recordOfPid processes pid = some record) :
    record ∈ processes ∧ record.pid = pid := by
  refine ⟨List.mem_reverse.mp (List.mem_of_find?_eq_some hfound), ?_⟩
  simpa using List.find?_some hfound

theorem recordOfPid_isSome {processes : List ProcessRecord} {record : ProcessRecord}
    (hrecord : record ∈ processes) : ∃ found, recordOfPid processes record.pid = some found := by
  cases hfind : recordOfPid processes record.pid with
  | some found => exact ⟨found, rfl⟩
  | none =>
      have habsent := List.find?_eq_none.mp hfind record (List.mem_reverse.mpr hrecord)
      simp at habsent

theorem exists_recordsOfPids_iff {processes : List ProcessRecord} {pids : List Pid} {pid : Pid} :
    (∃ record ∈ recordsOfPids processes pids, record.pid = pid) ↔
      pid ∈ pids ∧ ∃ record ∈ processes, record.pid = pid := by
  constructor
  · rintro ⟨record, hrecord, rfl⟩
    obtain ⟨found, hmem, hfound⟩ := List.mem_filterMap.mp hrecord
    obtain ⟨hpresent, rfl⟩ := mem_of_recordOfPid hfound
    exact ⟨hmem, record, hpresent, rfl⟩
  · rintro ⟨hmem, record, hpresent, rfl⟩
    obtain ⟨found, hfound⟩ := recordOfPid_isSome hpresent
    exact ⟨found, List.mem_filterMap.mpr ⟨record.pid, hmem, hfound⟩, (mem_of_recordOfPid hfound).2⟩

theorem present_of_childrenByParent {processes : List ProcessRecord} {parent child : Pid}
    (hchild : child ∈ childrenByParent processes parent) :
    ∃ record ∈ processes, record.pid = child := by
  obtain ⟨record, hrecord, rfl⟩ := List.mem_map.mp hchild
  exact ⟨record, List.mem_of_mem_filter hrecord, rfl⟩

theorem present_of_reaches {processes : List ProcessRecord} {root pid : Pid}
    (hreaches : Graph.Reaches (childrenByParent processes) root pid) :
    ∃ record ∈ processes, record.pid = pid := by
  obtain ⟨parent, -, hchild⟩ := Relation.TransGen.tail'_iff.mp hreaches
  exact present_of_childrenByParent hchild

/-- The search goes through the whole tree below its roots, cycles included. -/
theorem mem_collectDescendantPids {processes : List ProcessRecord} {rootPids : List Pid}
    {pid : Pid} :
    pid ∈ collectDescendantPids processes rootPids ↔
      ∃ root ∈ rootPids, Graph.Reaches (childrenByParent processes) root pid := by
  have hnodes : ∀ source, ∀ target ∈ childrenByParent processes source,
      target ∈ (processes.map (·.pid)).toFinset := by
    intro source target htarget
    obtain ⟨record, hrecord, rfl⟩ := present_of_childrenByParent htarget
    exact List.mem_toFinset.mpr (List.mem_map_of_mem hrecord)
  have hcard : ((processes.map (·.pid)).toFinset \ ([] : List Pid).toFinset).card ≤
      processes.length := by
    rw [List.toFinset_nil, Finset.sdiff_empty, ← List.length_map (·.pid)]
    exact List.toFinset_card_le _
  unfold collectDescendantPids
  rw [Graph.mem_search_iff hnodes pid _ rootPids [] (by rintro node ⟨⟩) (by omega)]
  simp

/-! ## The owner and the command -/

theorem validatedOwnerPid_present {lease : LeaseRecord} {processes : List ProcessRecord}
    {now : Timestamp} {pid : Pid} (hvalidated : validatedOwnerPid lease processes now = some pid) :
    ∃ record ∈ processes, record.pid = pid := by
  unfold validatedOwnerPid at hvalidated
  cases howner : lease.ownerPidOrLease with
  | none => simp [howner] at hvalidated
  | some ownerPid =>
      cases hrecord : recordOfPid processes ownerPid with
      | none => simp [howner, hrecord] at hvalidated
      | some record =>
          simp only [howner, hrecord] at hvalidated
          split at hvalidated
          · cases hvalidated
            exact ⟨record, mem_of_recordOfPid hrecord⟩
          · cases hvalidated

theorem validatedCommandPid_present {lease : LeaseRecord} {processes : List ProcessRecord}
    {now : Timestamp} {pid : Pid}
    (hvalidated : validatedCommandPid lease processes now = some pid) :
    ∃ record ∈ processes, record.pid = pid := by
  unfold validatedCommandPid at hvalidated
  cases hcommand : lease.commandPid with
  | none => simp [hcommand] at hvalidated
  | some commandPid =>
      cases hrecord : recordOfPid processes commandPid with
      | none => simp [hcommand, hrecord] at hvalidated
      | some record =>
          simp only [hcommand, hrecord] at hvalidated
          split at hvalidated
          · cases hvalidated
            exact ⟨record, mem_of_recordOfPid hrecord⟩
          · cases hvalidated

theorem IsRoot.present {lease : LeaseRecord} {processes : List ProcessRecord} {now : Timestamp}
    {pid : Pid} (hroot : IsRoot lease processes now pid) :
    ∃ record ∈ processes, record.pid = pid := by
  cases hroot with
  | owner validated => exact validatedOwnerPid_present validated
  | command validated => exact validatedCommandPid_present validated
  | ownerGroup record present known member notShell references => exact ⟨record, present, rfl⟩
  | simulator record present names => exact ⟨record, present, rfl⟩

/-! ## The lists that discovery adds -/

variable {lease : LeaseRecord} {processes : List ProcessRecord} {now : Timestamp} {pid : Pid}

theorem mem_ownerProcessGroupLeasePids {pgid : Pid} :
    pid ∈ ownerProcessGroupLeasePids lease processes pgid ↔
      ∃ record ∈ processes, record.pgid = some pgid ∧
        looksLikeShellProcess record.command = false ∧
        commandReferencesLeaseSimulator record lease = true ∧
        (pid = record.pid ∨ Graph.Reaches (childrenByParent processes) record.pid pid) := by
  have hroots : ∀ root, root ∈ ((processes.filter fun record => record.pgid == some pgid).filter
      fun record => !looksLikeShellProcess record.command &&
        (commandMatchesSimulatorLease record lease ||
          commandReferencesLeaseSimulator record lease)).map (·.pid) ↔
      ∃ record ∈ processes, record.pgid = some pgid ∧
        looksLikeShellProcess record.command = false ∧
        commandReferencesLeaseSimulator record lease = true ∧ record.pid = root := by
    intro root
    have hreferences : ∀ record : ProcessRecord,
        (commandMatchesSimulatorLease record lease || commandReferencesLeaseSimulator record lease) =
          commandReferencesLeaseSimulator record lease := by
      intro record
      unfold commandMatchesSimulatorLease
      cases commandReferencesLeaseSimulator record lease
      all_goals simp
    simp only [List.mem_map, List.mem_filter, hreferences, beq_iff_eq, Bool.and_eq_true,
      Bool.not_eq_true', and_assoc]
  simp only [ownerProcessGroupLeasePids]
  split
  · next hnone =>
      rw [hnone] at hroots
      constructor
      · rintro ⟨⟩
      · rintro ⟨record, hrecord, hpgid, hshell, hreference, -⟩
        have hroot := (hroots record.pid).mpr ⟨record, hrecord, hpgid, hshell, hreference, rfl⟩
        cases hroot
  · rw [List.mem_append, mem_collectDescendantPids]
    constructor
    · rintro (hroot | ⟨root, hroot, hreaches⟩)
      · obtain ⟨record, hrecord, hpgid, hshell, hreference, rfl⟩ := (hroots pid).mp hroot
        exact ⟨record, hrecord, hpgid, hshell, hreference, Or.inl rfl⟩
      · obtain ⟨record, hrecord, hpgid, hshell, hreference, rfl⟩ := (hroots root).mp hroot
        exact ⟨record, hrecord, hpgid, hshell, hreference, Or.inr hreaches⟩
    · rintro ⟨record, hrecord, hpgid, hshell, hreference, rfl | hreaches⟩
      · exact Or.inl ((hroots _).mpr ⟨record, hrecord, hpgid, hshell, hreference, rfl⟩)
      · exact Or.inr ⟨record.pid,
          (hroots _).mpr ⟨record, hrecord, hpgid, hshell, hreference, rfl⟩, hreaches⟩

/-- Whatever is added is owned by the rules. -/
theorem owned_of_addition {addition : List ProcessRecord × (ProcessRecord → OwnedReason)}
    (haddition : addition ∈ ownedAdditions lease processes now)
    (hpid : ∃ record ∈ addition.1, record.pid = pid) :
    OwnedAlone lease processes now pid ∨ OwnedByGroup lease processes now pid := by
  have hroot : ∀ root, root ∈ ((validatedOwnerPid lease processes now).toList ++
      (validatedCommandPid lease processes now).toList).eraseDups →
      IsRoot lease processes now root := by
    intro root hmem
    obtain howner | hcommand := List.mem_append.mp (List.mem_eraseDups.mp hmem)
    · exact .owner (Option.mem_toList.mp howner)
    · exact .command (Option.mem_toList.mp hcommand)
  simp only [ownedAdditions, List.mem_cons, List.not_mem_nil, or_false] at haddition
  obtain rfl | rfl | rfl | rfl | rfl | rfl | rfl := haddition
  · have howner := (exists_recordsOfPids_iff.mp hpid).1
    exact Or.inl ⟨pid, .owner (Option.mem_toList.mp howner), Or.inl rfl⟩
  · have hcommand := (exists_recordsOfPids_iff.mp hpid).1
    exact Or.inl ⟨pid, .command (Option.mem_toList.mp hcommand), Or.inl rfl⟩
  · obtain ⟨root, hmem, hreaches⟩ :=
      mem_collectDescendantPids.mp (exists_recordsOfPids_iff.mp hpid).1
    exact Or.inl ⟨root, hroot root hmem, Or.inr hreaches⟩
  · obtain ⟨record, hrecord, rfl⟩ := hpid
    cases hpgid : ownerPgid lease processes now with
    | none => simp [hpgid] at hrecord
    | some pgid =>
        simp only [hpgid] at hrecord
        obtain ⟨-, hmem⟩ := List.mem_filter.mp hrecord
        obtain ⟨root, hroot, hmember, hshell, hreference, hreaches⟩ :=
          mem_ownerProcessGroupLeasePids.mp (List.contains_iff_mem.mp hmem)
        exact Or.inl ⟨root.pid, .ownerGroup root hroot hpgid hmember hshell hreference, hreaches⟩
  · obtain ⟨record, hrecord, rfl⟩ := hpid
    by_cases hclaim : claimCommandProcessGroup lease processes now = true
    · simp only [hclaim, if_true] at hrecord
      obtain ⟨hpresent, hmember⟩ := List.mem_filter.mp hrecord
      exact Or.inr ⟨hclaim, record, hpresent, rfl, beq_iff_eq.mp hmember⟩
    · simp [hclaim] at hrecord
  · obtain ⟨record, hrecord, rfl⟩ := hpid
    obtain ⟨hpresent, hnames⟩ := List.mem_filter.mp hrecord
    exact Or.inl ⟨record.pid, .simulator record hpresent hnames, Or.inl rfl⟩
  · obtain ⟨root, hmem, hreaches⟩ :=
      mem_collectDescendantPids.mp (exists_recordsOfPids_iff.mp hpid).1
    obtain ⟨record, hrecord, rfl⟩ := List.mem_map.mp hmem
    obtain ⟨hpresent, hnames⟩ := List.mem_filter.mp hrecord
    exact Or.inl ⟨record.pid, .simulator record hpresent hnames, Or.inr hreaches⟩

/-- Whatever is added is listed. -/
theorem listed_of_addition {addition : List ProcessRecord × (ProcessRecord → OwnedReason)}
    (haddition : addition ∈ ownedAdditions lease processes now) {record : ProcessRecord}
    (hrecord : record ∈ addition.1) : record ∈ processes := by
  have hpids : ∀ {pids : List Pid}, record ∈ recordsOfPids processes pids → record ∈ processes := by
    intro pids hmem
    obtain ⟨_, -, hfound⟩ := List.mem_filterMap.mp hmem
    exact (mem_of_recordOfPid hfound).1
  simp only [ownedAdditions, List.mem_cons, List.not_mem_nil, or_false] at haddition
  obtain rfl | rfl | rfl | rfl | rfl | rfl | rfl := haddition
  · exact hpids hrecord
  · exact hpids hrecord
  · exact hpids hrecord
  · simp only at hrecord
    split at hrecord
    · cases hrecord
    · exact List.mem_of_mem_filter hrecord
  · simp only at hrecord
    split at hrecord
    · exact List.mem_of_mem_filter hrecord
    · cases hrecord
  · exact List.mem_of_mem_filter hrecord
  · exact hpids hrecord

theorem mem_processTable_of_owned {records : List ProcessRecord} {entry : OwnedProcess}
    (hentry : entry ∈ (discoverLeaseOwnedProcesses lease records now).owned) :
    entry.toProcessRecord ∈ processTable records := by
  refine listed_foldl ?_ ?_ entry hentry
  · rintro entry ⟨⟩
  · exact fun addition haddition record hrecord => listed_of_addition haddition hrecord

/-- Whatever is owned by the rules is added. -/
theorem addition_of_ownedAlone (howned : OwnedAlone lease processes now pid) :
    ∃ addition ∈ ownedAdditions lease processes now,
      ∃ record ∈ addition.1, record.pid = pid := by
  obtain ⟨root, hroot, hpid⟩ := howned
  have hpresent : ∃ record ∈ processes, record.pid = pid := by
    obtain rfl | hreaches := hpid
    · exact hroot.present
    · exact present_of_reaches hreaches
  have hbelow : ∀ {pids : List Pid}, root ∈ pids →
      Graph.Reaches (childrenByParent processes) root pid →
      ∃ record ∈ recordsOfPids processes (collectDescendantPids processes pids), record.pid = pid :=
    fun hmem hreaches => exists_recordsOfPids_iff.mpr
      ⟨mem_collectDescendantPids.mpr ⟨root, hmem, hreaches⟩, hpresent⟩
  cases hroot with
  | owner validated =>
      have hmem : root ∈ (validatedOwnerPid lease processes now).toList :=
        Option.mem_toList.mpr validated
      obtain rfl | hreaches := hpid
      · exact ⟨_, List.mem_cons_self, exists_recordsOfPids_iff.mpr ⟨hmem, hpresent⟩⟩
      · refine ⟨_, .tail _ (.tail _ (.head _)), hbelow ?_ hreaches⟩
        exact List.mem_eraseDups.mpr (List.mem_append_left _ hmem)
  | command validated =>
      have hmem : root ∈ (validatedCommandPid lease processes now).toList :=
        Option.mem_toList.mpr validated
      obtain rfl | hreaches := hpid
      · exact ⟨_, .tail _ (.head _), exists_recordsOfPids_iff.mpr ⟨hmem, hpresent⟩⟩
      · refine ⟨_, .tail _ (.tail _ (.head _)), hbelow ?_ hreaches⟩
        exact List.mem_eraseDups.mpr (List.mem_append_right _ hmem)
  | @ownerGroup pgid record present known member notShell references =>
      obtain ⟨shown, hshown, rfl⟩ := hpresent
      refine ⟨_, .tail _ (.tail _ (.tail _ (.head _))), shown, ?_, rfl⟩
      simp only [known]
      refine List.mem_filter.mpr ⟨hshown, List.contains_iff_mem.mpr ?_⟩
      exact mem_ownerProcessGroupLeasePids.mpr
        ⟨record, present, member, notShell, references, hpid⟩
  | simulator record present names =>
      have hmem : record ∈ processes.filter fun record =>
          commandMatchesSimulatorLease record lease :=
        List.mem_filter.mpr ⟨present, names⟩
      obtain rfl | hreaches := hpid
      · exact ⟨_, .tail _ (.tail _ (.tail _ (.tail _ (.tail _ (.head _))))), record, hmem, rfl⟩
      · exact ⟨_, .tail _ (.tail _ (.tail _ (.tail _ (.tail _ (.tail _ (.head _)))))),
          hbelow (List.mem_map_of_mem hmem) hreaches⟩

theorem addition_of_ownedByGroup (howned : OwnedByGroup lease processes now pid) :
    ∃ addition ∈ ownedAdditions lease processes now,
      ∃ record ∈ addition.1, record.pid = pid := by
  obtain ⟨hclaim, record, hpresent, rfl, hmember⟩ := howned
  refine ⟨_, .tail _ (.tail _ (.tail _ (.tail _ (.head _)))), record, ?_, rfl⟩
  simp only [hclaim, if_true]
  exact List.mem_filter.mpr ⟨hpresent, beq_iff_eq.mpr hmember⟩

/-- Discovery finds exactly the processes that the rules give to the lease. -/
theorem isOwned_discoverLeaseOwnedProcesses {records : List ProcessRecord} :
    IsOwned (discoverLeaseOwnedProcesses lease records now).owned pid ↔
      OwnedAlone lease (processTable records) now pid ∨
        OwnedByGroup lease (processTable records) now pid := by
  unfold discoverLeaseOwnedProcesses
  rw [isOwned_foldl]
  constructor
  · rintro (⟨entry, hentry, -⟩ | ⟨addition, haddition, hpid⟩)
    · cases hentry
    · exact owned_of_addition haddition hpid
  · rintro (halone | hgroup)
    · exact Or.inr (addition_of_ownedAlone halone)
    · exact Or.inr (addition_of_ownedByGroup hgroup)

/-- The reason `owner-pid` marks the validated owner. -/
theorem hasReason_ownerPid {records : List ProcessRecord} :
    HasReason (discoverLeaseOwnedProcesses lease records now).owned pid .ownerPid ↔
      validatedOwnerPid lease (processTable records) now = some pid := by
  unfold discoverLeaseOwnedProcesses
  rw [hasReason_foldl]
  constructor
  · rintro (⟨entry, hentry, -⟩ | ⟨addition, haddition, record, hrecord, rfl, hreason⟩)
    · cases hentry
    · simp only [ownedAdditions, List.mem_cons, List.not_mem_nil, or_false] at haddition
      obtain rfl | rfl | rfl | rfl | rfl | rfl | rfl := haddition
      · exact Option.mem_toList.mp (exists_recordsOfPids_iff.mp ⟨record, hrecord, rfl⟩).1
      · cases hreason
      · cases hreason
      · simp only at hreason
        split at hreason
        all_goals cases hreason
      · cases hreason
      · cases hreason
      · cases hreason
  · intro hvalidated
    obtain ⟨record, hrecord, hpid⟩ := exists_recordsOfPids_iff.mpr
      ⟨Option.mem_toList.mpr hvalidated, validatedOwnerPid_present hvalidated⟩
    exact Or.inr ⟨_, List.mem_cons_self, record, hrecord, hpid, rfl⟩

end SimulatorBroker.Containment
