import SimulatorBroker.Groups.Writes
import SimulatorBroker.Safety.Guards
import SimulatorBroker.State.Truthful

/-!
# Registered process groups

A group is kept while it is not given again, also by a call that names another pid and
gives `null`.  Without such a call, every group of a lease record was observed for the
pid beside it.
-/

namespace SimulatorBroker.Groups

open SimulatorBroker.Effects
open SimulatorBroker.State
open SimulatorBroker.Broker
open SimulatorBroker.Safety (LeaseReference.Names)

/-! ## What a call registers -/

/-- The pids and groups of one call that has changed the record; for a group the outer
`none` is an absent option, the inner one `null`.  `ownerPid` is the owner after the call. -/
structure Registration where
  commandPid : Option Pid := none
  commandPgid : Option (Option Pid) := none
  ownerPid : Pid
  ownerGiven : Bool
  ownerPgid : Option (Option Pid)
  shown : Shown

def acquisition (options : AcquireOptions) (shown : Shown) : Registration where
  ownerPid := options.ownerPid
  ownerGiven := true
  ownerPgid := some options.ownerPgid
  shown := shown

def registration (old : Lease) (options : RegisterOptions) (shown : Shown) : Registration where
  commandPid := some options.commandPid
  commandPgid := options.commandPgid
  ownerPid := options.ownerPid.getD (old.runtime.ownerPid.getD old.ownerPid)
  ownerGiven := options.ownerPid.isSome
  ownerPgid := options.ownerPgid
  shown := shown

/-- The latest call that gave a group gave this one, observed for this pid, and every call
since has registered the pid again and given `null`. -/
inductive CommandObserved : List Registration → Pid → Pid → Prop where
  | given {entry : Registration} {earlier : List Registration} {pid group : Pid}
      (own : entry.commandPid = some pid) (gives : entry.commandPgid = some (some group))
      (observed : entry.shown pid group) : CommandObserved (entry :: earlier) pid group
  | kept {entry : Registration} {earlier : List Registration} {pid group : Pid}
      (own : entry.commandPid = some pid) (keeps : entry.commandPgid = some none)
      (before : CommandObserved earlier pid group) : CommandObserved (entry :: earlier) pid group

/-- The same for the owner, whom a call need not name. -/
inductive OwnerObserved : List Registration → Pid → Pid → Prop where
  | given {entry : Registration} {earlier : List Registration} {pid group : Pid}
      (own : entry.ownerPid = pid) (gives : entry.ownerPgid = some (some group))
      (observed : entry.shown pid group) : OwnerObserved (entry :: earlier) pid group
  | kept {entry : Registration} {earlier : List Registration} {pid group : Pid}
      (own : entry.ownerPid = pid) (silent : entry.ownerPgid.join = none)
      (keeps : entry.ownerGiven = true → entry.ownerPgid = some none)
      (before : OwnerObserved earlier pid group) : OwnerObserved (entry :: earlier) pid group

/-- Registered process groups belong to the registered processes. -/
structure GroupsBelong (entries : List Registration) (lease : Lease) : Prop where
  command : ∀ group, lease.runtime.commandPgid = some group →
    ∃ pid, lease.runtime.commandPid = some pid ∧ CommandObserved entries pid group
  owner : ∀ group, lease.runtime.ownerPgid = some group →
    ∃ pid, lease.runtime.ownerPid = some pid ∧ OwnerObserved entries pid group

/-! ## The runs -/

/-- A call that gives `null` for a group names no other pid, where the record has a group. -/
structure Clear (old : Lease) (options : RegisterOptions) : Prop where
  command : options.commandPgid = some none → old.runtime.commandPgid = none ∨
    old.runtime.commandPid = some options.commandPid
  owner : options.ownerPgid = some none → ∀ pid, options.ownerPid = some pid →
    old.runtime.ownerPgid = none ∨ old.runtime.ownerPid = some pid

/-- The registrations of the leases after an acquire: a lease that was not there has been
acquired by it. -/
def Acquires (world after : World) (options : AcquireOptions) (shown : Shown)
    (entries later : LeaseId → List Registration) : Prop :=
  ∀ record ∈ after.store.leases,
    (∃ old ∈ world.store.leases, old.leaseId = record.leaseId) ∧
      later record.leaseId = entries record.leaseId ∨
    (∀ old ∈ world.store.leases, old.leaseId ≠ record.leaseId) ∧
      later record.leaseId = [acquisition options shown]

/-- A call has registered its processes with the lease whose record it changed by more than
an observation. -/
def Registers (world after : World) (options : RegisterOptions) (shown : Shown)
    (entries later : LeaseId → List Registration) : Prop :=
  ∀ old ∈ world.store.leases, ∀ record ∈ after.store.leases, record.leaseId = old.leaseId →
    Rewritten old record ∧ later record.leaseId = entries record.leaseId ∨
    ¬ Rewritten old record ∧
      later record.leaseId = registration old options shown :: entries record.leaseId

/-- Acquires and registrations, one after the other, each ending or crashing anywhere. -/
inductive CallRun (surroundings : Surroundings) (paths : BrokerPaths)
    (clear : Lease → RegisterOptions → Prop) :
    World → (LeaseId → List Registration) → Prop where
  | start {world : World} (empty : world.store.leases = []) :
      CallRun surroundings paths clear world fun _ => []
  | acquire {world after : World} {entries later : LeaseId → List Registration}
      {options : AcquireOptions} {shown : Shown} {rest : Broker Lease}
      (before : CallRun surroundings paths clear world entries)
      (steps : Steps (showing surroundings shown) (acquireLease paths options) world rest after)
      (acquires : Acquires world after options shown entries later) :
      CallRun surroundings paths clear after later
  | register {world after : World} {entries later : LeaseId → List Registration}
      {options : RegisterOptions} {timestamp : Timestamp} {shown : Shown} {rest : Broker Lease}
      (before : CallRun surroundings paths clear world entries)
      (clears : ∀ old ∈ world.store.leases,
        LeaseReference.Names options.reference world old.leaseId → clear old options)
      (steps : Steps (showing surroundings shown) (registerLeaseProcess paths options timestamp)
        world rest after)
      (registers : Registers world after options shown entries later) :
      CallRun surroundings paths clear after later

/-! ## One record -/

/-- The groups belong, and the pids beside them are real ones. -/
structure Tended (entries : List Registration) (lease : Lease) : Prop
    extends GroupsBelong entries lease where
  owned : ∃ pid, lease.runtime.ownerPid = some pid ∧ 0 < pid
  positive : ∀ pid, lease.runtime.commandPid = some pid → 0 < pid

theorem positive_of_some {value : Option Nat} {number : Nat} (hpositive : positive? value = some number) :
    value = some number ∧ 0 < number := by
  obtain ⟨hvalue, hdecide⟩ := Option.filter_eq_some_iff.mp hpositive
  exact ⟨hvalue, of_decide_eq_true hdecide⟩

theorem positive_some_of_lt {number : Nat} (hnumber : 0 < number) :
    positive? (some number) = some number :=
  Option.filter_eq_some_iff.mpr ⟨rfl, decide_eq_true hnumber⟩

theorem Tended.observed {entries : List Registration} {lease : Lease}
    (htended : Tended entries lease) (observation : Observation) (timestamp : Timestamp) :
    Tended entries (observedLease lease observation timestamp) := by
  obtain ⟨owner, howner, hpositive⟩ := htended.owned
  have hkept : (observedLease lease observation timestamp).runtime.ownerPid = some owner := by
    simp only [observedLease, buildLeaseRuntimeMetadata, Lease.runtimeOwnerPid, howner,
      Option.getD_some]
    exact positive_some_of_lt hpositive
  constructor
  · constructor
    · intro group hgroup
      obtain ⟨pid, hpid, hobserved⟩ := htended.command group (positive_of_some hgroup).1
      refine ⟨pid, ?_, hobserved⟩
      simp only [observedLease, buildLeaseRuntimeMetadata, hpid]
      exact positive_some_of_lt (htended.positive pid hpid)
    · intro group hgroup
      obtain ⟨pid, hpid, hobserved⟩ := htended.owner group (positive_of_some hgroup).1
      rw [howner] at hpid
      cases hpid
      exact ⟨owner, hkept, hobserved⟩
  · exact ⟨owner, hkept, hpositive⟩
  · exact fun pid hpid => (positive_of_some hpid).2

theorem Tended.rewritten {entries : List Registration} {old lease : Lease}
    (htended : Tended entries old) (hrewritten : Rewritten old lease) : Tended entries lease := by
  induction hrewritten with
  | refl => exact htended
  | tail _ hlast ih =>
      obtain ⟨observation, timestamp, rfl⟩ := hlast
      exact ih.observed observation timestamp

/-- The flags of a registration that has passed its checks. -/
structure Checked (old : Lease) (options : RegisterOptions) (shown : Shown) : Prop where
  commandPid : 1 < options.commandPid
  ownerPid : ∀ pid, options.ownerPid = some pid → 1 < pid
  commandPgid : ∀ group, options.commandPgid = some (some group) →
    shown options.commandPid group
  ownerPgid : ∀ pid group, options.ownerPid.or old.runtimeOwnerPid = some pid →
    options.ownerPgid = some (some group) → shown pid group

/-- The record that a registration writes. -/
def Registered (old : Lease) (options : RegisterOptions) (shown : Shown) (record : Lease) : Prop :=
  Checked old options shown ∧ ∃ timestamp, record = registeredLease old options options.commandPid
    options.commandPgid options.ownerPgid options.ownerPid timestamp

theorem tended_registered {entries : List Registration} {old record : Lease}
    {options : RegisterOptions} {shown : Shown} (htended : Tended entries old)
    (hclear : Clear old options) (hregistered : Registered old options shown record) :
    Tended (registration old options shown :: entries) record := by
  obtain ⟨hchecked, timestamp, rfl⟩ := hregistered
  obtain ⟨owner, howner, hpositive⟩ := htended.owned
  have hruntime : old.runtimeOwnerPid = some owner := by
    simp only [Lease.runtimeOwnerPid, howner, Option.getD_some]
    exact positive_some_of_lt hpositive
  have hcommand : (registeredLease old options options.commandPid options.commandPgid
      options.ownerPgid options.ownerPid timestamp).runtime.commandPid =
        some options.commandPid :=
    positive_some_of_lt (Nat.lt_of_succ_lt hchecked.commandPid)
  have hnext : (registeredLease old options options.commandPid options.commandPgid
      options.ownerPgid options.ownerPid timestamp).runtime.ownerPid =
        some (options.ownerPid.getD owner) := by
    simp only [registeredLease, mergeLeaseRuntimeMetadata, buildLeaseRuntimeMetadata, hruntime]
    cases hgiven : options.ownerPid with
    | none => exact positive_some_of_lt hpositive
    | some pid => exact positive_some_of_lt (Nat.lt_of_succ_lt (hchecked.ownerPid pid hgiven))
  have hentry : (registration old options shown).ownerPid = options.ownerPid.getD owner := by
    simp only [registration, howner, Option.getD_some]
  constructor
  · constructor
    · intro group hgroup
      refine ⟨options.commandPid, hcommand, ?_⟩
      simp only [registeredLease, mergeLeaseRuntimeMetadata, buildLeaseRuntimeMetadata] at hgroup
      cases hgiven : options.commandPgid with
      | none =>
          rw [hgiven] at hgroup
          cases hgroup
      | some given =>
          rw [hgiven] at hgroup
          obtain ⟨hvalue, -⟩ := positive_of_some hgroup
          cases given with
          | some given =>
              cases hvalue
              exact .given rfl hgiven (hchecked.commandPgid group hgiven)
          | none =>
              obtain ⟨hold, -⟩ := positive_of_some hvalue
              obtain ⟨pid, hpid, hobserved⟩ := htended.command group hold
              rcases hclear.command hgiven with hnone | hsame
              · rw [hold] at hnone
                cases hnone
              · rw [hpid] at hsame
                cases hsame
                exact .kept rfl hgiven hobserved
    · intro group hgroup
      refine ⟨options.ownerPid.getD owner, hnext, ?_⟩
      simp only [registeredLease, mergeLeaseRuntimeMetadata, buildLeaseRuntimeMetadata] at hgroup
      cases hgiven : options.ownerPgid with
      | none =>
          cases hpid : options.ownerPid with
          | some pid =>
              rw [hgiven, hpid] at hgroup
              cases hgroup
          | none =>
              rw [hgiven, hpid] at hgroup
              obtain ⟨hvalue, -⟩ := positive_of_some hgroup
              obtain ⟨hold, -⟩ := positive_of_some hvalue
              obtain ⟨pid, hbefore, hobserved⟩ := htended.owner group hold
              rw [howner] at hbefore
              cases hbefore
              refine .kept ?_ ?_ ?_ hobserved
              · rw [hentry, hpid, Option.getD_none]
              · simp [registration, hgiven]
              · simp [registration, hpid]
      | some given =>
          have hvalue : positive? (given.or (positive? old.runtime.ownerPgid)) = some group := by
            rw [hgiven] at hgroup
            cases hpid : options.ownerPid with
            | none =>
                rw [hpid] at hgroup
                exact hgroup
            | some pid =>
                rw [hpid] at hgroup
                exact hgroup
          obtain ⟨hvalue, -⟩ := positive_of_some hvalue
          cases given with
          | some given =>
              cases hvalue
              refine .given hentry hgiven (hchecked.ownerPgid _ group ?_ hgiven)
              rw [hruntime]
              cases options.ownerPid with
              | none => rfl
              | some pid => rfl
          | none =>
              obtain ⟨hold, -⟩ := positive_of_some hvalue
              obtain ⟨pid, hbefore, hobserved⟩ := htended.owner group hold
              rw [howner] at hbefore
              cases hbefore
              have hsame : options.ownerPid.getD owner = owner := by
                cases hpid : options.ownerPid with
                | none => rfl
                | some pid =>
                    rcases hclear.owner hgiven pid hpid with hnone | hsame
                    · rw [hold] at hnone
                      cases hnone
                    · rw [howner] at hsame
                      cases hsame
                      rfl
              rw [hsame]
              refine .kept (hentry.trans hsame) ?_ (fun _ => hgiven) hobserved
              simp [registration, hgiven]
  · refine ⟨_, hnext, ?_⟩
    cases hpid : options.ownerPid with
    | none => exact hpositive
    | some pid => exact Nat.lt_of_succ_lt (hchecked.ownerPid pid hpid)
  · intro pid hpid
    rw [hcommand] at hpid
    cases hpid
    exact Nat.lt_of_succ_lt hchecked.commandPid

/-- The record that an acquire writes for its own lease. -/
def Acquired (options : AcquireOptions) (shown : Shown) (record : Lease) : Prop :=
  record.runtime.commandPgid = none ∧ record.runtime.commandPid = none ∧
  record.runtime.ownerPid = some options.ownerPid ∧ 1 < options.ownerPid ∧
  record.runtime.ownerPgid = options.ownerPgid ∧
  ∀ group, options.ownerPgid = some group → shown options.ownerPid group

theorem tended_acquired {options : AcquireOptions} {shown : Shown} {record : Lease}
    (hacquired : Acquired options shown record) : Tended [acquisition options shown] record := by
  obtain ⟨hgroup, hcommand, howner, hroot, hgiven, hshown⟩ := hacquired
  constructor
  · constructor
    · intro group hsome
      rw [hgroup] at hsome
      cases hsome
    · intro group hsome
      rw [hgiven] at hsome
      exact ⟨_, howner, .given rfl (congrArg some hsome) (hshown group hsome)⟩
  · exact ⟨_, howner, Nat.lt_of_succ_lt hroot⟩
  · intro pid hpid
    rw [hcommand] at hpid
    cases hpid

/-! ## One call -/

section Calls

variable {surroundings : Surroundings} {shown : Shown} {paths : BrokerPaths} {world : World}

/-- Was there at the start of the call, and has at most been observed since. -/
def Found (world : World) (record : Lease) : Prop :=
  ∃ old ∈ world.store.leases, Rewritten old record

theorem Found.observed {lease : Lease} (hfound : Found world lease) (observation : Observation)
    (timestamp : Timestamp) : Found world (observedLease lease observation timestamp) := by
  obtain ⟨old, hold, hrewritten⟩ := hfound
  exact ⟨old, hold, hrewritten.observed observation timestamp⟩

/-- The lease files are filed under identifiers of their own. -/
abbrev Filed (allowed : Lease → Prop) (world : World) : Prop :=
  Stands allowed 0 world

theorem Stands.weaken {allowed weaker : Lease → Prop} {floor : LeaseId} {after : World}
    (hstands : Stands allowed floor after) (hweaker : ∀ lease, allowed lease → weaker lease) :
    Filed weaker after :=
  ⟨fun lease hlease => hweaker lease (hstands.holds lease hlease), hstands.single, hstands.drawn,
    Nat.zero_le _⟩

theorem stands_found (hfiled : Filed (fun _ => True) world) :
    Stands (Found world) world.outside.nextId world :=
  ⟨fun lease hlease => ⟨lease, hlease, .refl⟩, hfiled.single, hfiled.drawn, Nat.le_refl _⟩

theorem found_lt (hfiled : Filed (fun _ => True) world) (lease : Lease) (hfound : Found world lease) :
    lease.leaseId < world.outside.nextId := by
  obtain ⟨old, hold, hrewritten⟩ := hfound
  rw [hrewritten.leaseId]
  exact hfiled.drawn old hold

/-- A new lease of this acquire. -/
def Drawn (world : World) (options : AcquireOptions) (shown : Shown) (record : Lease) : Prop :=
  Acquired options shown record ∧ ∀ old ∈ world.store.leases, old.leaseId ≠ record.leaseId

theorem writes_acquireSelection (hfiled : Filed (fun _ => True) world) {after : World}
    (hstands : Stands (Found world) world.outside.nextId after) {options : AcquireOptions}
    {timestamp : Timestamp} :
    LeaseWrites surroundings shown (Found world) world.outside.nextId
      (acquireSelection paths options timestamp) (fun _ _ => True) after := by
  unfold acquireSelection
  refine .seq hstands (writes_loadBrokerState (found_lt hfiled)
    (fun _ observation timestamp hfound => hfound.observed observation timestamp) hstands) fun state first _ hfirst => ?_
  refine .plain (.bind (.request rfl) fun project => .bind ?_ fun projects =>
    .bind plain_getPurpose fun purpose => ?_)
  · unfold rememberKnownProject
    exact .bind plain_writeKnownProjects fun _ => .pure _
  · simp only
    split
    · exact .throw _
    · exact .pure _

/-- The acquire after it has drawn its lease id. -/
theorem writes_acquiredLease (hfiled : Filed (fun _ => True) world) {options : AcquireOptions}
    {selection : AcquireSelection} {leaseId : LeaseId} {timestamp : Timestamp} {after : World}
    (hnew : world.outside.nextId ≤ leaseId) {allowed : Lease → Prop}
    (hallowed : ∀ record, allowed record ↔ Found world record ∨
      record = acquiredLease selection options leaseId options.ownerPid options.ownerPgid timestamp)
    (hstands : Stands allowed (leaseId + 1) after) :
    LeaseWrites surroundings shown allowed (leaseId + 1)
      (do
        let lease :=
          acquiredLease selection options leaseId options.ownerPid options.ownerPgid timestamp
        assertLeaseArtifactPathUnused paths selection.state.leases lease.artifactPath (some leaseId)
        let (state, reclaim) ← performSlotReclaim selection.state timestamp
          { aliases := some [lease.aliasName], source := "lease-acquire" }
        if 0 < reclaim.failureCount then throw (.broker .slotReclaimFailed)
        let registry ← commitAcquiredLease paths state.registry lease timestamp
        handOutLease paths state.hostConfig registry lease timestamp
        let _ ← appendEventRecord
          { type := .leaseAcquired, aliasName := lease.aliasName, leaseId, timestamp }
        return lease) (fun _ _ => True) after := by
  have hbound : ∀ lease, allowed lease → lease.leaseId < leaseId + 1 := by
    intro lease hlease
    rcases (hallowed lease).mp hlease with hfound | rfl
    · exact Nat.lt_succ_of_lt ((found_lt hfiled lease hfound).trans_le hnew)
    · exact Nat.lt_succ_self _
  simp only
  refine .seq hstands (.plain plain_assertLeaseArtifactPathUnused) fun _ first _ hfirst => ?_
  refine .seq hfirst (.plain plain_performSlotReclaim) fun reclaimed second _ hsecond => ?_
  obtain ⟨state, reclaim⟩ := reclaimed
  simp only
  split
  · trivial
  · have hcommit : LeaseWrites surroundings shown allowed (leaseId + 1)
        (commitAcquiredLease paths state.registry (acquiredLease selection options leaseId
          options.ownerPid options.ownerPgid timestamp) timestamp) (fun _ _ => True) second := by
      unfold commitAcquiredLease
      refine .seq hsecond (writes_writeLeaseRecord hbound hsecond ((hallowed _).mpr (.inr rfl)))
        fun _ third _ _ => ?_
      exact .plain (.bind (.tryCatch plain_writeRegistry fun _ =>
        .bind plain_removeLeaseRecordFiles fun _ => .throw _) fun _ => .pure _)
    refine .seq hsecond hcommit fun registry third _ _ => ?_
    exact .plain (.bind plain_handOutLease fun _ => .bind plain_appendEventRecord fun _ => .pure _)

theorem kept_acquireLease (paths : BrokerPaths) (hfiled : Filed (fun _ => True) world) {options : AcquireOptions} :
    wp (showing surroundings shown)
      (fun _ => Filed fun record => Found world record ∨ Drawn world options shown record)
      (acquireLease paths options)
      (fun _ => Filed fun record => Found world record ∨ Drawn world options shown record)
      (fun _ => Filed fun record => Found world record ∨ Drawn world options shown record)
      world := by
  have hfound {after : World} (hstands : Stands (Found world) world.outside.nextId after) :
      Filed (fun record => Found world record ∨ Drawn world options shown record) after :=
    hstands.weaken fun _ h => .inl h
  unfold acquireLease
  refine wp.seq ((LeaseWrites.plain (.request rfl)).calls (stands_found hfiled) fun _ => hfound)
    (fun _ _ h => h) fun timestamp first hfirst => ?_
  refine wp.seq ((writes_acquireSelection hfiled hfirst.2).calls hfirst.2 fun _ => hfound)
    (fun _ _ h => h) fun selection second hsecond => ?_
  have hdraw : wp (showing surroundings shown)
      (fun _ => Filed fun record => Found world record ∨ Drawn world options shown record)
      (State.perform .randomUuid)
      (fun leaseId after => world.outside.nextId ≤ leaseId ∧
        Stands (Found world) (leaseId + 1) after)
      (fun _ => Filed fun record => Found world record ∨ Drawn world options shown record)
      second := by
    have hwrites : Writes (Found world) .randomUuid second := trivial
    refine wp_request.mpr ⟨hfound hsecond.2, ?_, ?_⟩
    · rintro leaseId after ⟨hstep, -⟩
      have hanswers : Answers surroundings .randomUuid second (.ok leaseId) after := hstep
      cases hanswers with
      | ok hanswered hsettles =>
          have hvalue : leaseId = second.outside.nextId := hanswered
          have hnext := (surroundings.later hsettles.drift).nextId
          have hdrawn := (hsecond.2.effect hwrites).settles hsettles
          refine ⟨hvalue ▸ hsecond.2.floor, hdrawn.holds, hdrawn.single, hdrawn.drawn, ?_⟩
          rw [hvalue]
          exact hnext
    · exact fun error after hstep => hfound (hsecond.2.step hwrites hstep)
  refine wp.seq hdraw (fun _ _ h => h) ?_
  rintro leaseId third ⟨hnew, hthird⟩
  have hfound' {after : World} (hstands : Stands (Found world) (leaseId + 1) after) :
      Filed (fun record => Found world record ∨ Drawn world options shown record) after :=
    hstands.weaken fun _ h => .inl h
  refine wp.seq (writes_requireContainmentRootInteger.calls hthird fun _ => hfound')
    (fun _ _ h => h) ?_
  rintro ownerPid fourth ⟨⟨rfl, hroot⟩, hfourth⟩
  refine wp.seq (writes_optionalContainmentGroupInteger.calls hfourth fun _ => hfound')
    (fun _ _ h => h) ?_
  rintro ownerPgid fifth ⟨⟨rfl, -⟩, hfifth⟩
  refine wp.seq ((writes_validateRegisteredOwnerGroup hfifth fun _ => rfl).calls hfifth
    fun _ => hfound') (fun _ _ h => h) ?_
  rintro _ sixth ⟨hshown, hsixth⟩
  have hstands : Stands (fun record => Found world record ∨ record = acquiredLease selection options
      leaseId options.ownerPid options.ownerPgid timestamp) (leaseId + 1) sixth :=
    ⟨fun lease hlease => .inl (hsixth.holds lease hlease), hsixth.single, hsixth.drawn,
      hsixth.floor⟩
  have halways (after : World) (hafter : Stands (fun record => Found world record ∨
      record = acquiredLease selection options leaseId options.ownerPid options.ownerPgid timestamp)
        (leaseId + 1) after) :
      Filed (fun record => Found world record ∨ Drawn world options shown record) after := by
    refine hafter.weaken ?_
    rintro record (hold | rfl)
    · exact .inl hold
    · refine .inr ⟨⟨rfl, rfl, rfl, hroot, rfl, fun group hgroup => hshown _ group rfl hgroup⟩, ?_⟩
      exact fun old hold => Nat.ne_of_lt ((hfiled.drawn old hold).trans_le hnew)
  exact ((writes_acquiredLease hfiled hnew (fun _ => Iff.rfl) hstands).calls hstands
    halways).weaken (fun _ after h => halways after h.2) fun _ _ h => h

/-- The registered record of a lease that the reference names. -/
def Enrolled (world : World) (options : RegisterOptions) (shown : Shown) (record : Lease) : Prop :=
  ∃ old ∈ world.store.leases, LeaseReference.Names options.reference world old.leaseId ∧
    ∃ registered, Registered old options shown registered ∧ Rewritten registered record

theorem Enrolled.leaseId {options : RegisterOptions} {record : Lease}
    (henrolled : Enrolled world options shown record) :
    ∃ old ∈ world.store.leases, record.leaseId = old.leaseId := by
  obtain ⟨old, hold, -, registered, ⟨-, timestamp, rfl⟩, hrewritten⟩ := henrolled
  exact ⟨old, hold, hrewritten.leaseId⟩

theorem writes_loadLeaseByIdOrFile {allowed : Lease → Prop} {floor : LeaseId}
    (hstands : Stands allowed floor world) {reference : LeaseReference} :
    LeaseWrites surroundings shown allowed floor (loadLeaseByIdOrFile reference)
      (fun lease _ => lease ∈ world.store.leases ∧
        LeaseReference.Names reference world lease.leaseId) world := by
  unfold loadLeaseByIdOrFile
  have hresolve : LeaseWrites surroundings shown allowed floor (resolveLeaseId reference)
      (fun leaseId after => after.store = world.store ∧ ∀ given, leaseId = some given →
        LeaseReference.Names reference world given) world := by
    unfold resolveLeaseId
    split
    · next leaseId hgiven =>
      refine ⟨rfl, ?_⟩
      rintro given ⟨⟩
      exact .inl hgiven
    · next path hnone hpath =>
      unfold readLeaseFileId
      refine .seq hstands (.perform trivial) fun content first hread _ => ?_
      split
      · next record =>
        refine ⟨hread.2.2, ?_⟩
        rintro given ⟨⟩
        exact .inr ⟨hnone, path, record, hpath, hread.1.1.symm, rfl⟩
      · exact ⟨hread.2.2, fun _ h => by cases h⟩
      · trivial
    · exact ⟨rfl, fun _ h => by cases h⟩
  refine .seq hstands hresolve fun leaseId first hresolved hfirst => ?_
  cases leaseId with
  | none => trivial
  | some leaseId =>
      refine .seq hfirst (.perform trivial) fun found second hread _ => ?_
      cases found with
      | none => trivial
      | some lease =>
          have hfound : world.store.lease? leaseId = some lease := by
            rw [← hresolved.1]
            exact hread.1.symm
          obtain ⟨hmem, hid⟩ := mem_lease? hfound
          exact ⟨hmem, hid ▸ hresolved.2 leaseId rfl⟩

theorem writes_checkRegisterFlags {allowed : Lease → Prop} {floor : LeaseId}
    (hstands : Stands allowed floor world) {options : RegisterOptions} :
    LeaseWrites surroundings shown allowed floor (checkRegisterFlags options)
      (fun flags _ => flags = (options.commandPgid, options.ownerPgid, options.ownerPid) ∧
        ∀ pid, options.ownerPid = some pid → 1 < pid) world := by
  unfold checkRegisterFlags
  have hgroup {first : World} (hfirst : Stands allowed floor first) (given : Option (Option Nat)) :
      LeaseWrites surroundings shown allowed floor
        (checkOptionalFlag optionalContainmentGroupInteger given)
        (fun checked _ => checked = given) first := by
    unfold checkOptionalFlag
    cases given with
    | none => exact rfl
    | some value =>
        refine .seq hfirst writes_optionalContainmentGroupInteger fun checked second hchecked _ => ?_
        exact congrArg some hchecked.1
  refine .seq hstands (hgroup hstands options.commandPgid) ?_
  rintro commandPgid first rfl hfirst
  refine .seq hfirst (hgroup hfirst options.ownerPgid) ?_
  rintro ownerPgid second rfl hsecond
  have howner : LeaseWrites surroundings shown allowed floor
      (checkOptionalFlag requireContainmentRootInteger options.ownerPid)
      (fun checked _ => checked = options.ownerPid ∧ ∀ pid, options.ownerPid = some pid → 1 < pid)
      second := by
    unfold checkOptionalFlag
    cases options.ownerPid with
    | none => exact ⟨rfl, fun _ h => by cases h⟩
    | some value =>
        refine .seq hsecond writes_requireContainmentRootInteger fun checked third hchecked _ => ?_
        refine ⟨congrArg some hchecked.1, ?_⟩
        rintro pid ⟨⟩
        exact hchecked.2
  refine .seq hsecond howner ?_
  rintro ownerPid third ⟨rfl, hroot⟩ -
  exact ⟨rfl, hroot⟩

theorem kept_registerLeaseProcess (paths : BrokerPaths) (hfiled : Filed (fun _ => True) world)
    {options : RegisterOptions} {timestamp : Timestamp} :
    wp (showing surroundings shown)
      (fun _ => Filed fun record => Found world record ∨ Enrolled world options shown record)
      (registerLeaseProcess paths options timestamp)
      (fun _ => Filed fun record => Found world record ∨ Enrolled world options shown record)
      (fun _ => Filed fun record => Found world record ∨ Enrolled world options shown record)
      world := by
  have hstands : Stands (fun record => Found world record ∨ Enrolled world options shown record)
      world.outside.nextId world :=
    ⟨fun lease hlease => .inl ⟨lease, hlease, .refl⟩, hfiled.single, hfiled.drawn, Nat.le_refl _⟩
  have hbound : ∀ lease, Found world lease ∨ Enrolled world options shown lease →
      lease.leaseId < world.outside.nextId := by
    rintro lease (hfound | henrolled)
    · exact found_lt hfiled lease hfound
    · obtain ⟨old, hold, hsame⟩ := henrolled.leaseId
      exact hsame ▸ hfiled.drawn old hold
  have hobserved : ∀ lease observation timestamp,
      Found world lease ∨ Enrolled world options shown lease →
      Found world (observedLease lease observation timestamp) ∨
        Enrolled world options shown (observedLease lease observation timestamp) := by
    rintro lease observation noted (hfound | ⟨old, hold, hnamed, registered, hregistered, hrewritten⟩)
    · exact .inl (hfound.observed observation noted)
    · exact .inr ⟨old, hold, hnamed, registered, hregistered, hrewritten.observed observation noted⟩
  have hbody : LeaseWrites surroundings shown
      (fun record => Found world record ∨ Enrolled world options shown record)
      world.outside.nextId (registerLeaseProcess paths options timestamp) (fun _ _ => True)
      world := by
    unfold registerLeaseProcess
    refine .seq hstands (writes_loadLeaseByIdOrFile hstands) ?_
    rintro lease first ⟨hmem, hnamed⟩ hfirst
    refine .seq hfirst (writes_loadBrokerState hbound hobserved hfirst)
      fun _ second _ hsecond => ?_
    refine .seq hsecond writes_requireContainmentRootInteger ?_
    rintro commandPid third ⟨rfl, hroot⟩ hthird
    refine .seq hthird (writes_checkRegisterFlags hthird) ?_
    rintro flags fourth ⟨rfl, howner⟩ hfourth
    refine .seq hfourth (writes_validateRegisteredCommandGroup hfourth)
      fun _ fifth hcommand hfifth => ?_
    refine .seq hfifth (writes_validateRegisteredOwnerGroup hfifth fun hgiven => ?_)
      fun _ sixth hgroup hsixth => ?_
    · cases hpgid : options.ownerPgid with
      | none =>
          rw [hpgid] at hgiven
          cases hgiven
      | some given => rfl
    · have hchecked : Checked lease options shown :=
        ⟨hroot, howner, fun group hgiven => hcommand group (by rw [hgiven]; rfl),
          fun pid group hpid hgiven => hgroup pid group hpid (by rw [hgiven]; rfl)⟩
      have hregistered : Registered lease options shown (registeredLease lease options
          options.commandPid options.commandPgid options.ownerPgid options.ownerPid timestamp) :=
        ⟨hchecked, timestamp, rfl⟩
      refine .seq hsixth (writes_writeLeaseRecord hbound hsixth
        (.inr ⟨lease, hmem, hnamed, _, hregistered, .refl⟩)) fun _ seventh _ _ => ?_
      exact .plain (.bind plain_appendEventRecord fun _ => .pure _)
  exact (hbody.calls hstands fun _ h => h.weaken fun _ h => h).weaken
    (fun _ _ h => h.2.weaken fun _ h => h) fun _ _ h => h

end Calls

/-! ## Whole runs -/

section Runs

variable {surroundings : Surroundings} {paths : BrokerPaths} {world : World}
  {entries : LeaseId → List Registration}

/-- What holds of the lease files between the calls of a clear run. -/
theorem tended_of_callRun (hrun : CallRun surroundings paths Clear world entries) :
    Filed (fun record => Tended (entries record.leaseId) record) world := by
  induction hrun with
  | start hempty =>
      constructor
      · simp [hempty]
      · simp [hempty]
      · simp [hempty]
      · exact Nat.zero_le _
  | @acquire world after entries later options shown rest hbefore hsteps hacquires ih =>
      have hkept := wp.stopped
        (kept_acquireLease paths (ih.weaken fun _ _ => trivial)) hsteps
      refine ⟨?_, hkept.single, hkept.drawn, Nat.zero_le _⟩
      intro record hrecord
      rcases hacquires record hrecord with ⟨⟨old, hold, hsame⟩, hentries⟩ | ⟨hnew, hentries⟩
      · rw [hentries]
        rcases hkept.holds record hrecord with ⟨source, hsource, hrewritten⟩ | ⟨-, hfresh⟩
        · exact hrewritten.leaseId ▸ (ih.holds source hsource).rewritten hrewritten
        · exact absurd hsame (hfresh old hold)
      · rw [hentries]
        rcases hkept.holds record hrecord with ⟨source, hsource, hrewritten⟩ | ⟨hacquired, -⟩
        · exact absurd hrewritten.leaseId.symm (hnew source hsource)
        · exact tended_acquired hacquired
  | @register world after entries later options timestamp shown rest hbefore hclears hsteps
      hregisters ih =>
      have hkept := wp.stopped
        (kept_registerLeaseProcess paths (ih.weaken fun _ _ => trivial)) hsteps
      refine ⟨?_, hkept.single, hkept.drawn, Nat.zero_le _⟩
      intro record hrecord
      rcases hkept.holds record hrecord with ⟨old, hold, hrewritten⟩ |
        ⟨old, hold, hnamed, registered, hregistered, hrewritten⟩
      · rcases hregisters old hold record hrecord hrewritten.leaseId with
          ⟨-, hentries⟩ | ⟨hnot, -⟩
        · rw [hentries, hrewritten.leaseId]
          exact (ih.holds old hold).rewritten hrewritten
        · exact absurd hrewritten hnot
      · have hid : record.leaseId = old.leaseId := by
          obtain ⟨-, noted, rfl⟩ := hregistered
          exact hrewritten.leaseId
        rcases hregisters old hold record hrecord hid with ⟨hsame, hentries⟩ | ⟨-, hentries⟩
        · rw [hentries, hid]
          exact (ih.holds old hold).rewritten hsame
        · rw [hentries, hid]
          exact (tended_registered (ih.holds old hold) (hclears old hold hnamed)
            hregistered).rewritten hrewritten

/-- In a run without such a call every group of a lease record was observed for its pid. -/
theorem groupsBelong_of_callRun (hrun : CallRun surroundings paths Clear world entries) :
    ∀ lease ∈ world.store.leases, GroupsBelong (entries lease.leaseId) lease :=
  fun lease hlease => ((tended_of_callRun hrun).holds lease hlease).toGroupsBelong

end Runs

/-! ## Two runs -/

/-- What the sample of a script shows. -/
def shownBy (script : Script) : Shown := fun pid group =>
  ∃ record ∈ script.samples, record.pid = pid ∧ positive? record.pgid = some group

theorem sound_showing (script : Script) :
    script.respond.Sound (showing .arbitrary (shownBy script)) := by
  intro position op world
  refine ⟨script.sound_respond position op world, ?_⟩
  cases op with
  | sampleProcesses =>
      simp only [Script.respond]
      split
      · trivial
      · exact fun record hrecord group hgroup => ⟨record, hrecord, rfl, hgroup⟩
  | _ => trivial

/-- The command of a build, leading its own group. -/
def buildScript : Script where
  project := buildProject
  samples := [{ pid := 500, pgid := some 500, command := "xcodebuild" }]

def acquiredWorld : World :=
  ((acquireLease {} { purposeId := "tests", ownerPid := 100 }).run buildScript.respond 0
    singleHost).2

/-- The build is registered with its group. -/
def groupOptions : RegisterOptions where
  reference := { leaseId := some 0 }
  commandPid := 500
  commandPgid := some (some 500)

def groupedWorld : World :=
  ((registerLeaseProcess {} groupOptions 1000).run buildScript.respond 0 acquiredWorld).2

/-- Another call, with `null` for the group. -/
def nullOptions (commandPid : Pid) : RegisterOptions where
  reference := { leaseId := some 0 }
  commandPid := commandPid
  commandPgid := some none

def nullWorld (commandPid : Pid) : World :=
  ((registerLeaseProcess {} (nullOptions commandPid) 2000).run buildScript.respond 0 groupedWorld).2

theorem registeredAt_of_rewritten {old lease : Lease} (hrewritten : Rewritten old lease) :
    lease.runtime.commandRegisteredAt = old.runtime.commandRegisteredAt := by
  induction hrewritten with
  | refl => rfl
  | tail _ hlast ih =>
      obtain ⟨observation, timestamp, rfl⟩ := hlast
      exact ih

/-- One lease file, registered later than the one before. -/
theorem registers_single {world after : World} {options : RegisterOptions} {shown : Shown}
    {old record : Lease} {entries : LeaseId → List Registration}
    (hbefore : world.store.leases = [old]) (hafter : after.store.leases = [record])
    (hlater : record.runtime.commandRegisteredAt ≠ old.runtime.commandRegisteredAt) :
    Registers world after options shown entries
      fun leaseId => registration old options shown :: entries leaseId := by
  intro first hfirst second hsecond _
  rw [hbefore, List.mem_singleton] at hfirst
  rw [hafter, List.mem_singleton] at hsecond
  subst hfirst hsecond
  exact .inr ⟨fun hrewritten => hlater (registeredAt_of_rewritten hrewritten), rfl⟩

/-- The lease of the build; its group is that of pid 500 once a pid is registered. -/
def buildLease (commandPid : Option Pid) (registeredAt : Timestamp) : Lease where
  leaseId := 0
  aliasName := "build-1"
  ownerPid := 100
  projectId := "app"
  purposeId := "tests"
  resetPolicy := .none
  runtime := {
    commandRegisteredAt := commandPid.map fun _ => registeredAt
    commandPgid := commandPid.map fun _ => 500
    commandPid := commandPid
    ownerPid := some 100
    ownerRegisteredAt := some 0
    updatedAt := some registeredAt }
  simulatorId := 0
  startedAt := 0

theorem leases_acquiredWorld : acquiredWorld.store.leases = [buildLease none 0] := by
  decide +kernel

theorem leases_groupedWorld : groupedWorld.store.leases = [buildLease (some 500) 1000] := by
  decide +kernel

/-- The registrations of the build's lease after the acquire. -/
def acquiredEntries (_ : LeaseId) : List Registration :=
  [acquisition { purposeId := "tests", ownerPid := 100 } (shownBy buildScript)]

/-- Those after the build's process has been registered. -/
def groupedEntries (leaseId : LeaseId) : List Registration :=
  registration (buildLease none 0) groupOptions (shownBy buildScript) :: acquiredEntries leaseId

/-- Those after the other call. -/
def nullEntries (commandPid : Pid) (leaseId : LeaseId) : List Registration :=
  registration (buildLease (some 500) 1000) (nullOptions commandPid) (shownBy buildScript) ::
    groupedEntries leaseId

section Script

variable {clear : Lease → RegisterOptions → Prop} {commandPid : Pid}

theorem acquires_build : Acquires singleHost acquiredWorld { purposeId := "tests", ownerPid := 100 }
    (shownBy buildScript) (fun _ => []) acquiredEntries :=
  fun _ _ => .inr ⟨fun _ hold => (List.not_mem_nil hold).elim, rfl⟩

theorem callRun_acquired : CallRun .arbitrary {} clear acquiredWorld acquiredEntries :=
  .acquire (.start rfl) ((sound_showing buildScript).run_steps _ 0 singleHost) acquires_build

theorem callRun_grouped (hclear : clear (buildLease none 0) groupOptions) :
    CallRun .arbitrary {} clear groupedWorld groupedEntries := by
  refine .register callRun_acquired ?_ ((sound_showing buildScript).run_steps _ 0 acquiredWorld)
    (registers_single leases_acquiredWorld leases_groupedWorld (by decide))
  intro old hold _
  rw [leases_acquiredWorld, List.mem_singleton] at hold
  exact hold ▸ hclear

theorem callRun_null (hclear : clear (buildLease none 0) groupOptions)
    (hnull : clear (buildLease (some 500) 1000) (nullOptions commandPid))
    (hleases : (nullWorld commandPid).store.leases = [buildLease (some commandPid) 2000]) :
    CallRun .arbitrary {} clear (nullWorld commandPid) (nullEntries commandPid) := by
  refine .register (callRun_grouped hclear) ?_
    ((sound_showing buildScript).run_steps _ 0 groupedWorld)
    (registers_single leases_groupedWorld hleases (by simp [buildLease]))
  intro old hold _
  rw [leases_groupedWorld, List.mem_singleton] at hold
  exact hold ▸ hnull

theorem clear_groupOptions (old : Lease) : Clear old groupOptions where
  command hnull := by cases hnull
  owner hnull := by cases hnull

theorem clear_nullOptions : Clear (buildLease (some 500) 1000) (nullOptions 500) where
  command _ := .inr rfl
  owner hnull := by cases hnull

end Script

/-- The build is registered again, with the pid that has the group. -/
theorem groupsBelong_of_callRun_null :
    GroupsBelong (nullEntries 500 (buildLease (some 500) 2000).leaseId)
      (buildLease (some 500) 2000) := by
  have hleases : (nullWorld 500).store.leases = [buildLease (some 500) 2000] := by decide +kernel
  exact groupsBelong_of_callRun (callRun_null (clear_groupOptions _) clear_nullOptions hleases) _
    (hleases ▸ List.mem_singleton_self _)

/-- Another pid is registered with `null` for its group, and stands beside the old group. -/
theorem groupsBelong_fails :
    ∃ world entries, CallRun .arbitrary {} (fun _ _ => True) world entries ∧
      ∃ lease ∈ world.store.leases, ¬ GroupsBelong (entries lease.leaseId) lease := by
  have hleases : (nullWorld 501).store.leases = [buildLease (some 501) 2000] := by decide +kernel
  refine ⟨nullWorld 501, nullEntries 501, callRun_null trivial trivial hleases,
    buildLease (some 501) 2000, hleases ▸ List.mem_singleton_self _, fun hbelong => ?_⟩
  obtain ⟨pid, hpid, hobserved⟩ := hbelong.command 500 rfl
  cases hpid
  cases hobserved with
  | given _ hgives _ => cases hgives
  | kept _ _ hbefore =>
      cases hbefore with
      | given hown _ _ => cases hown
      | kept hown _ _ => cases hown

end SimulatorBroker.Groups
