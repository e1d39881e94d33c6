import SimulatorBroker.Capacity.Evaluation
import SimulatorBroker.Reading.Acquire

/-!
# The capacity check is sound for an acquire

A purpose the check reports available is not refused by the selection of an
acquire that runs on the same state.
-/

namespace SimulatorBroker.Reading

open SimulatorBroker.Effects
open SimulatorBroker.State
open SimulatorBroker.Broker

variable {surroundings : Surroundings} {readout : Readout} {world : World}

/-! ## Two readers of one state -/

/-- What a report shows of an entry. -/
def shown (entry : RegistryEntry) : Health × PowerState :=
  (entry.health, entry.powerState)

theorem syncEntry_shown {left right : RegistryEntry} (hcondition : condition left = condition right)
    (verdict : SyncVerdict) :
    shown (syncEntry verdict left) = shown (syncEntry verdict right) := by
  simp only [condition, Prod.mk.injEq] at hcondition
  obtain ⟨hhealth, hdrift⟩ := hcondition
  cases verdict with
  | missing => rfl
  | unavailable => rfl
  | mismatched powerState => rfl
  | matching powerState =>
      simp only [syncEntry, hdrift, hhealth]
      split
      · rfl
      · cases right.health <;> rfl

/-- Whatever leases and pins are adopted, the same conditions show the same. -/
theorem synced_shown {config : HostConfig} {inventory : SimctlInventory} {left right : Registry}
    {leftLeases rightLeases : AliasName → Option Lease}
    {leftPins rightPins : AliasName → Option Pin} {timestamp : Timestamp} {name : AliasName}
    (hagree : AgreeOn condition left right) (hname : name ∈ config.aliasNames) :
    ((syncRegistry config inventory
        (adoptHolders leftLeases leftPins config timestamp left)).aliases name).map shown =
      ((syncRegistry config inventory
        (adoptHolders rightLeases rightPins config timestamp right)).aliases name).map shown := by
  have hconditions := hagree name
  simp only [syncRegistry, adoptHolders, hname, if_true]
  cases hleft : left.aliases name with
  | none =>
      rw [hleft, Option.map_none] at hconditions
      have hright := Option.map_eq_none_iff.mp hconditions.symm
      cases config.find name with
      | none => simp [hright]
      | some hostAlias => simp [hright]
  | some entry =>
      rw [hleft, Option.map_some] at hconditions
      obtain ⟨other, hright, hsame⟩ := Option.map_eq_some_iff.mp hconditions.symm
      have hfind : ∃ hostAlias, config.find name = some hostAlias := by
        obtain ⟨hostAlias, hmem, hsameName⟩ := List.mem_map.mp hname
        have hsome : (config.find name).isSome = true := by
          rw [HostConfig.find, List.find?_isSome]
          exact ⟨hostAlias, hmem, by simpa using hsameName⟩
        exact Option.isSome_iff_exists.mp hsome
      obtain ⟨hostAlias, hhostAlias⟩ := hfind
      simp only [hhostAlias, hright, Option.map_some]
      rw [syncEntry_shown]
      exact hsame.symm

/-- The load shows what the snapshot shows, and counts no other lease. -/
structure Covers (snapshot loaded : BrokerState) : Prop where
  hostConfig : loaded.hostConfig = snapshot.hostConfig
  pins : loaded.pins = snapshot.pins
  pinsByAlias : loaded.pinsByAlias = snapshot.pinsByAlias
  shown : ∀ name ∈ snapshot.hostConfig.aliasNames,
    (loaded.entry name).map shown = (snapshot.entry name).map shown
  leases : ∀ lease ∈ loaded.leases, ∃ other ∈ snapshot.leases,
    other.leaseId = lease.leaseId ∧ other.aliasName = lease.aliasName
  leasesByAlias : ∀ name, snapshot.leasesByAlias name = none → loaded.leasesByAlias name = none

theorem indexLeases_eq_none {leases : List Lease} {name : AliasName} :
    indexLeases leases name = none ↔ ∀ lease ∈ leases, lease.aliasName ≠ name := by
  simp [indexLeases, lastOf, List.find?_eq_none]

theorem covers {first second : World} {timestamp : Timestamp} {inventory : SimctlInventory}
    {snapshot loaded : BrokerState} (hstore : second.store = first.store)
    (hsnapshot : SnapshotState readout first timestamp inventory snapshot)
    (hloaded : LoadState readout second timestamp inventory loaded) : Covers snapshot loaded := by
  have hconfig : loaded.hostConfig = snapshot.hostConfig := by
    have hread := hloaded.config
    unfold AcceptedConfig at hread
    rw [hstore] at hread
    exact AcceptedConfig.unique hread hsnapshot.config
  have hleases : ∀ lease ∈ loaded.leases, ∃ other ∈ snapshot.leases,
      other.leaseId = lease.leaseId ∧ other.aliasName = lease.aliasName := by
    intro lease hmem
    obtain ⟨file, hfile, hid, halias, hcounts⟩ := hloaded.kept lease hmem
    rw [hstore, hconfig] at hcounts
    exact ⟨file, hsnapshot.counted file hfile hcounts, hid, halias⟩
  refine ⟨hconfig, hloaded.pins.trans hsnapshot.pins.symm,
    hloaded.pinsByAlias.trans hsnapshot.pinsByAlias.symm, ?_, hleases, ?_⟩
  · intro name hname
    obtain ⟨scanned, hscanned, hregistry⟩ := hsnapshot.registry
    obtain ⟨other, hother, hotherRegistry⟩ := hloaded.registry
    rw [hstore, hconfig] at hother
    unfold BrokerState.entry
    rw [hregistry, hotherRegistry, Registry.touch_aliases, Registry.touch_aliases, hconfig]
    exact synced_shown (hother.symm.trans hscanned) hname
  · intro name hnone
    rw [hsnapshot.leasesByAlias, indexLeases_eq_none] at hnone
    rw [hloaded.leasesByAlias, indexLeases_eq_none]
    intro lease hmem
    obtain ⟨other, hother, -, halias⟩ := hleases lease hmem
    rw [← halias]
    exact hnone other hother

/-! ## Candidates -/

theorem candidateReasons_eq_nil {state : BrokerState} {purpose : Purpose} {project : ProjectConfig}
    {hostAlias : HostAlias} {entry : RegistryEntry} :
    candidateReasons state purpose project none hostAlias entry = [] ↔
      purpose.capability ∈ hostAlias.capabilities ∧
        satisfiesRequires hostAlias purpose.requires = true ∧
        (state.pinsByAlias hostAlias.aliasName).all
          (leaseMatchesPin project.projectId purpose.id) = true ∧
        state.leasesByAlias hostAlias.aliasName = none ∧ entry.health.latched = false := by
  cases hpin : state.pinsByAlias hostAlias.aliasName <;> cases hhealth : entry.health <;>
    simp [candidateReasons, reasonIf, Health.latched, hpin, hhealth]

theorem mem_buildCandidateAnalysis {state : BrokerState} {purpose : Purpose}
    {project : ProjectConfig} {explicitAlias : Option AliasName} {candidate : Candidate} :
    candidate ∈ buildCandidateAnalysis state purpose project explicitAlias ↔
      ∃ hostAlias index entry, (hostAlias, index) ∈ state.hostConfig.aliases.zipIdx ∧
        state.entry hostAlias.aliasName = some entry ∧
          candidate = {
            hostAlias, index, pin := state.pinsByAlias hostAlias.aliasName
            reasons := candidateReasons state purpose project explicitAlias hostAlias entry
            entry } := by
  simp only [buildCandidateAnalysis, List.mem_filterMap, Option.map_eq_some_iff, Prod.exists]
  constructor
  · rintro ⟨hostAlias, index, hmem, entry, hentry, rfl⟩
    exact ⟨hostAlias, index, entry, hmem, hentry, rfl⟩
  · rintro ⟨hostAlias, index, entry, hmem, hentry, rfl⟩
    exact ⟨hostAlias, index, hmem, entry, hentry, rfl⟩

/-- A free candidate of the snapshot is free after the load. -/
theorem Covers.free {snapshot loaded : BrokerState} (hcovers : Covers snapshot loaded)
    {purpose : Purpose} {project : ProjectConfig} {candidate : Candidate}
    (hmem : candidate ∈ buildCandidateAnalysis snapshot purpose project none)
    (hfree : candidate.reasons = []) :
    ∃ other ∈ buildCandidateAnalysis loaded purpose project none, other.reasons = [] := by
  obtain ⟨hostAlias, index, entry, hzip, hentry, rfl⟩ := mem_buildCandidateAnalysis.mp hmem
  obtain ⟨hcapability, hrequires, hpin, hlease, hhealth⟩ := candidateReasons_eq_nil.mp hfree
  have hname : hostAlias.aliasName ∈ snapshot.hostConfig.aliasNames :=
    List.mem_map_of_mem (List.fst_mem_of_mem_zipIdx hzip)
  have hshown := hcovers.shown _ hname
  rw [hentry, Option.map_some] at hshown
  obtain ⟨other, hother, hsame⟩ := Option.map_eq_some_iff.mp hshown
  simp only [Reading.shown, Prod.mk.injEq] at hsame
  refine ⟨_, mem_buildCandidateAnalysis.mpr ⟨hostAlias, index, other, ?_, hother, rfl⟩, ?_⟩
  · rw [hcovers.hostConfig]
    exact hzip
  · refine candidateReasons_eq_nil.mpr ⟨hcapability, hrequires, ?_, ?_, ?_⟩
    · rw [hcovers.pinsByAlias]
      exact hpin
    · exact hcovers.leasesByAlias _ hlease
    · rw [hsame.1]
      exact hhealth

/-! ## The check -/

/-- What a check that read a state has read; it leaves the files alone. -/
structure Checked (readout : Readout) (first : World) (evaluation : CapacityEvaluation)
    (state : BrokerState) (after : World) : Prop where
  project : evaluation.project = some readout.project
  snapshot : SnapshotState readout first readout.clock readout.inventory state
  store : after.store = first.store

/-- A check reports on a snapshot, or on no state. -/
def CheckedFrom (readout : Readout) (first : World) (evaluation : CapacityEvaluation)
    (after : World) : Prop :=
  ∀ state, evaluation.state = some state → Checked readout first evaluation state after

/-- What a body that may throw returns when it does not. -/
theorem Returns.outcome {α : Type} {body : Broker α} {post : α → World → Prop}
    {raise : BrokerError → World → Prop}
    (hbody : Returns surroundings readout body post raise world) :
    Returns surroundings readout body.attempt
      (fun outcome after => ∀ value, outcome = .ok value → post value after) (fun _ _ => True)
      world := by
  refine .attempt (hbody.weaken ?_ ?_)
  · rintro value after hpost other ⟨⟩
    exact hpost
  · rintro error after _ value ⟨⟩

/-- Every load of the state has a free alias for the purpose. -/
def Offers (readout : Readout) (world : World) (purposeId : PurposeId) : Prop :=
  ∀ purpose, (readout.project.purposes.find? fun purpose => purpose.id = purposeId) =
      some purpose →
    ∀ loaded, LoadState readout world readout.clock readout.inventory loaded →
      ∃ candidate ∈ buildCandidateAnalysis loaded purpose readout.project none,
        candidate.reasons = []

/-- The report of a check lists the purpose as available. -/
def ReportsAvailable (locale : Collation) (options : CapacityOptions) (purposeId : PurposeId)
    (evaluation : CapacityEvaluation) : Prop :=
  ∃ evaluated ∈ Capacity.purposeEvaluations locale options.purposeId evaluation,
    evaluated.purpose.id = purposeId ∧ evaluated.status = .available

theorem mem_selectCapacityPurposes {locale : Collation} {project : ProjectConfig} {purposeId : Option PurposeId}
    {purpose : Purpose}
    (hmem : purpose ∈ Capacity.selectCapacityPurposes locale project purposeId) :
    purpose ∈ project.purposes := by
  cases purposeId with
  | none => exact (List.mem_insertionSort _).mp hmem
  | some purposeId => exact List.mem_of_find?_eq_some (Option.mem_toList.mp hmem)

/-- The report comes from a state, and the purpose has an available alias in it. -/
theorem ReportsAvailable.candidate {locale : Collation} {options : CapacityOptions} {purposeId : PurposeId}
    {evaluation : CapacityEvaluation} {after : World}
    (hreports : ReportsAvailable locale options purposeId evaluation)
    (hchecked : CheckedFrom readout world evaluation after) :
    ∃ state purpose, Checked readout world evaluation state after ∧
      purpose ∈ readout.project.purposes ∧ purpose.id = purposeId ∧
        Capacity.availableCandidates state readout.project purpose ≠ [] := by
  obtain ⟨evaluated, hmem, hid, havailable⟩ := hreports
  unfold Capacity.purposeEvaluations at hmem
  cases hproject : evaluation.project with
  | none => simp [hproject] at hmem
  | some project =>
      simp only [hproject] at hmem
      cases hstate : evaluation.state with
      | none =>
          rw [hstate] at hmem
          simp only at hmem
          split at hmem
          all_goals
            obtain ⟨purpose, -, rfl⟩ := List.mem_map.mp hmem
            cases havailable
      | some state =>
          have hread := hchecked state hstate
          have hsame := hread.project
          rw [hproject] at hsame
          cases hsame
          rw [hstate] at hmem
          obtain ⟨purpose, hpurpose, rfl⟩ := List.mem_map.mp hmem
          rw [Capacity.evaluatePurposeCapacity_purpose] at hid
          exact ⟨state, purpose, hread, mem_selectCapacityPurposes hpurpose, hid,
            Capacity.status_available_iff.mp havailable⟩

theorem ReportsAvailable.offers {locale : Collation} {options : CapacityOptions} {purposeId : PurposeId}
    {evaluation : CapacityEvaluation} {after : World}
    (hids : (readout.project.purposes.map (·.id)).Nodup)
    (hreports : ReportsAvailable locale options purposeId evaluation)
    (hchecked : CheckedFrom readout world evaluation after) :
    Offers readout after purposeId := by
  obtain ⟨state, purpose, hread, hmem, hid, hne⟩ := hreports.candidate hchecked
  intro found hfound loaded hloaded
  have hsame : found = purpose := by
    have hfoundId : found.id = purposeId := by simpa using List.find?_some hfound
    exact List.inj_on_of_nodup_map hids (List.mem_of_find?_eq_some hfound) hmem
      (hfoundId.trans hid.symm)
  subst hsame
  obtain ⟨candidate, hcandidate⟩ := List.exists_mem_of_ne_nil _ hne
  obtain ⟨hstructural, hfree⟩ := List.mem_filter.mp hcandidate
  have hcovers : Covers state loaded := covers hread.store hread.snapshot hloaded
  exact hcovers.free (List.mem_filter.mp hstructural).1 (List.isEmpty_iff.mp hfree)

end SimulatorBroker.Reading
