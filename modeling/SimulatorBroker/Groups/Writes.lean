import Mathlib.Logic.Relation
import SimulatorBroker.Broker.Plain
import SimulatorBroker.State.Surroundings

/-!
# What a call may write into a lease file

A state load rewrites the lease files it finds only to note an observation.  A call is
described by the records it may write; every record on disk is then one of these, or was
there before.
-/

namespace SimulatorBroker.Groups

open SimulatorBroker.Effects
open SimulatorBroker.State
open SimulatorBroker.Broker
open Relation (ReflTransGen)

/-! ## Samples -/

/-- The process groups that the samples of a call show, by pid. -/
abbrev Shown : Type := Pid → Pid → Prop

/-- A sample shows nothing else. -/
def Reveals (shown : Shown) : (op : BrokerOp) → Except BrokerError op.Ret → Prop
  | .sampleProcesses, .ok records =>
      ∀ record ∈ records, ∀ group, positive? record.pgid = some group → shown record.pid group
  | _, _ => True

/-- The handler of a call whose samples show these groups. -/
def showing (surroundings : Surroundings) (shown : Shown) :
    Handler brokerSignature BrokerError World where
  step op world answer after := Answers surroundings op world answer after ∧ Reveals shown op answer

/-! ## Records -/

/-- The record has at most been observed since. -/
def Rewritten : Lease → Lease → Prop :=
  ReflTransGen fun lease observed =>
    ∃ observation timestamp, observed = observedLease lease observation timestamp

theorem Rewritten.leaseId {old lease : Lease} (hrewritten : Rewritten old lease) :
    lease.leaseId = old.leaseId := by
  induction hrewritten with
  | refl => rfl
  | tail _ hlast ih =>
      obtain ⟨observation, timestamp, rfl⟩ := hlast
      exact ih

theorem Rewritten.observed {old lease : Lease} (hrewritten : Rewritten old lease)
    (observation : Observation) (timestamp : Timestamp) :
    Rewritten old (observedLease lease observation timestamp) :=
  hrewritten.tail ⟨observation, timestamp, rfl⟩

/-- Every lease file holds an allowed record under an identifier of its own that was drawn,
and identifiers below `floor` were drawn. -/
structure Stands (allowed : Lease → Prop) (floor : LeaseId) (world : World) : Prop where
  holds : ∀ lease ∈ world.store.leases, allowed lease
  single : (world.store.leases.map (·.leaseId)).Nodup
  drawn : ∀ lease ∈ world.store.leases, lease.leaseId < world.outside.nextId
  floor : floor ≤ world.outside.nextId

/-- Only allowed records are written. -/
def Writes (allowed : Lease → Prop) : BrokerOp → World → Prop
  | .rename (.lease record), world => allowed record ∧ record.leaseId < world.outside.nextId
  | _, _ => True

theorem writes_of_plain {allowed : Lease → Prop} {op : BrokerOp} {world : World}
    (hplain : plain op = true) : Writes allowed op world := by
  cases op with
  | rename file =>
      cases file with
      | lease record => cases hplain
      | _ => trivial
  | _ => trivial

/-! ## A call keeps what stands -/

variable {surroundings : Surroundings} {shown : Shown} {allowed : Lease → Prop} {floor : LeaseId}
  {world after : World}

theorem Stands.settles (hstands : Stands allowed floor world)
    (hsettles : Settles surroundings world after) : Stands allowed floor after := by
  have hlater := (surroundings.later hsettles.drift).nextId
  constructor
  · rw [hsettles.store]
    exact hstands.holds
  · rw [hsettles.store]
    exact hstands.single
  · rw [hsettles.store]
    exact fun lease hlease => (hstands.drawn lease hlease).trans_le hlater
  · exact hstands.floor.trans hlater

theorem Stands.effect (hstands : Stands allowed floor world) {op : BrokerOp}
    (hwrites : Writes allowed op world) : Stands allowed floor (op.effect world) := by
  cases op with
  | randomUuid =>
      exact ⟨hstands.holds, hstands.single,
        fun lease hlease => Nat.lt_succ_of_lt (hstands.drawn lease hlease),
        Nat.le_succ_of_le hstands.floor⟩
  | rename file =>
      cases file with
      | lease record =>
          constructor
          · intro lease hlease
            rcases List.mem_cons.mp hlease with rfl | hbefore
            · exact hwrites.1
            · exact hstands.holds lease (List.mem_filter.mp hbefore).1
          · refine List.nodup_cons.mpr ⟨?_, ?_⟩
            · intro hmem
              obtain ⟨other, hother, hsame⟩ := List.mem_map.mp hmem
              exact absurd hsame (of_decide_eq_true (List.mem_filter.mp hother).2)
            · exact hstands.single.sublist (List.filter_sublist.map _)
          · intro lease hlease
            rcases List.mem_cons.mp hlease with rfl | hbefore
            · exact hwrites.2
            · exact hstands.drawn lease (List.mem_filter.mp hbefore).1
          · exact hstands.floor
      | _ => exact ⟨hstands.holds, hstands.single, hstands.drawn, hstands.floor⟩
  | unlinkLease leaseId site =>
      have hless (lease : Lease) (hlease : lease ∈ (world.store.dropLease leaseId).leases) :
          lease ∈ world.store.leases := (List.mem_filter.mp hlease).1
      exact ⟨fun lease hlease => hstands.holds lease (hless lease hlease),
        hstands.single.sublist (List.filter_sublist.map _),
        fun lease hlease => hstands.drawn lease (hless lease hlease), hstands.floor⟩
  | _ => exact ⟨hstands.holds, hstands.single, hstands.drawn, hstands.floor⟩

theorem Stands.step (hstands : Stands allowed floor world) {op : BrokerOp}
    {answer : Except BrokerError op.Ret} (hwrites : Writes allowed op world)
    (hstep : (showing surroundings shown).step op world answer after) :
    Stands allowed floor after := by
  cases hstep.1 with
  | ok hanswered hsettles => exact (hstands.effect hwrites).settles hsettles
  | error hmayFail hof hsettles => exact hstands.settles hsettles
  | late hmayFail hof hlate hsettles => exact (hstands.effect hwrites).settles hsettles

variable {α β : Type}

/-- The part of a call writes only what is allowed, in a world in which that stands. -/
abbrev LeaseWrites (surroundings : Surroundings) (shown : Shown) (allowed : Lease → Prop)
    (floor : LeaseId) (body : Broker α) (post : α → World → Prop) (world : World) : Prop :=
  wp ((showing surroundings shown).within (Stands allowed floor)) (Writes allowed) body post
    (fun _ _ => True) world

variable {post : α → World → Prop}

theorem LeaseWrites.plain {body : Broker α} (hplain : Plain body) :
    LeaseWrites surroundings shown allowed floor body (fun _ _ => True) world :=
  wp_of_all hplain trivial (fun _ _ _ _ => trivial) (fun _ _ hop _ => writes_of_plain hop)
    (fun _ _ _ _ _ _ => trivial)

/-- Sequencing; what is allowed stands between the two parts. -/
theorem LeaseWrites.seq {post : β → World → Prop} {body : Broker α} {rest : α → Broker β}
    {between : α → World → Prop} (hstands : Stands allowed floor world)
    (hbody : LeaseWrites surroundings shown allowed floor body between world)
    (hrest : ∀ value after, between value after → Stands allowed floor after →
      LeaseWrites surroundings shown allowed floor (rest value) post after) :
    LeaseWrites surroundings shown allowed floor (body >>= rest) post world :=
  wp.seq (wp.reached hbody hstands) (fun _ _ h => h.1) fun value after h =>
    hrest value after h.1 h.2

theorem LeaseWrites.tryCatch {body : Broker α} {handler : BrokerError → Broker α}
    (hstands : Stands allowed floor world)
    (hbody : LeaseWrites surroundings shown allowed floor body post world)
    (hhandler : ∀ error after, Stands allowed floor after →
      LeaseWrites surroundings shown allowed floor (handler error) post after) :
    LeaseWrites surroundings shown allowed floor (MonadExcept.tryCatch body handler) post world :=
  (wp_tryCatch body handler).mpr (wp.weaken (wp.reached hbody hstands) (fun _ _ h => h.1)
    fun error after h => hhandler error after h.2)

/-- A condition that follows from what stands holds at every moment of the part. -/
theorem LeaseWrites.calls {body : Broker α} {always : World → Prop}
    (hbody : LeaseWrites surroundings shown allowed floor body post world)
    (hstands : Stands allowed floor world)
    (halways : ∀ after, Stands allowed floor after → always after) :
    wp (showing surroundings shown) (fun _ => always) body
      (fun value after => post value after ∧ Stands allowed floor after)
      (fun _ => always) world :=
  (wp.invariant (fun _ _ _ _ h hwrites hstep => h.step hwrites hstep) hbody hstands).mono
    (fun _ _ h => halways _ h.2) (fun _ _ h => h) fun _ _ h => halways _ h.2

/-- One operation: what it answers, and the world it leaves. -/
theorem LeaseWrites.perform {op : BrokerOp} (hwrites : Writes allowed op world) :
    LeaseWrites surroundings shown allowed floor (perform op)
      (fun value after => Answered surroundings op world value ∧ Reveals shown op (.ok value) ∧
        after.store = (op.effect world).store) world := by
  refine wp_request.mpr ⟨hwrites, ?_, fun _ _ _ => trivial⟩
  rintro value after ⟨⟨hanswers, hreveals⟩, -⟩
  cases hanswers with
  | ok hanswered hsettles => exact ⟨hanswered, hreveals, hsettles.store⟩

/-! ## Lease files -/

theorem mem_lease? {leaseId : LeaseId} {lease : Lease}
    (hfound : world.store.lease? leaseId = some lease) :
    lease ∈ world.store.leases ∧ lease.leaseId = leaseId :=
  ⟨List.mem_of_find?_eq_some hfound, by simpa using List.find?_some hfound⟩

section Files

variable {paths : BrokerPaths} {lease : Lease} {timestamp : Timestamp}
  (hbound : ∀ lease, allowed lease → lease.leaseId < floor) (hstands : Stands allowed floor world)
include hbound hstands

theorem writes_leaseFile (hallowed : allowed lease) :
    LeaseWrites surroundings shown allowed floor (writeJsonAtomicRestricted (.lease lease))
      (fun _ _ => True) world := by
  unfold writeJsonAtomicRestricted
  refine .seq hstands (.plain (.request rfl)) fun _ first _ hfirst => ?_
  refine .seq hfirst (.plain (.request rfl)) fun _ second _ hsecond => ?_
  refine .seq hsecond (.plain (.request rfl)) fun _ third _ hthird => ?_
  have hdrawn : lease.leaseId < third.outside.nextId :=
    (hbound lease hallowed).trans_le hthird.floor
  exact .seq hthird (.perform ⟨hallowed, hdrawn⟩) fun _ fourth _ _ => .plain (.request rfl)

/-- A restore writes what it found. -/
theorem writes_restoreLeaseRecordFiles {snapshot : LeaseFilesSnapshot}
    (hallowed : ∀ record, snapshot.canonical = some record → allowed record) :
    LeaseWrites surroundings shown allowed floor (restoreLeaseRecordFiles snapshot)
      (fun _ _ => True) world := by
  have hartifact : Plain (restoreArtifactFile snapshot) := by
    unfold restoreArtifactFile
    cases snapshot.artifactPath with
    | none => exact .pure _
    | some path =>
        cases snapshot.artifact with
        | none => exact .request rfl
        | some content => exact plain_writeJsonAtomic rfl
  unfold restoreLeaseRecordFiles
  cases hcanonical : snapshot.canonical with
  | none => exact .plain (.bind (.request rfl) fun _ => hartifact)
  | some record =>
      exact .seq hstands (writes_leaseFile hbound hstands (hallowed record hcanonical))
        fun _ _ _ _ => .plain hartifact

/-- The lease is written, or what stood there is put back. -/
theorem writes_writeLeaseRecord (hallowed : allowed lease) {replaceArtifact : Bool} :
    LeaseWrites surroundings shown allowed floor (writeLeaseRecord paths lease replaceArtifact)
      (fun _ _ => True) world := by
  unfold writeLeaseRecord
  refine .seq hstands (.plain plain_assertLeaseArtifactPathAllowed) fun _ first _ hfirst => ?_
  have hsnapshot : LeaseWrites surroundings shown allowed floor (snapshotLeaseRecordFiles lease)
      (fun snapshot _ => ∀ record, snapshot.canonical = some record → allowed record) first := by
    unfold snapshotLeaseRecordFiles
    have hartifact : Plain (readLeaseArtifact lease) := by
      unfold readLeaseArtifact
      cases lease.artifactPath with
      | none => exact .pure _
      | some path => exact .request rfl
    refine .seq hfirst (.plain hartifact) fun _ second _ hsecond => ?_
    refine .seq hsecond (.perform trivial) fun canonical third hread _ => ?_
    intro record hrecord
    have hfound : second.store.lease? lease.leaseId = some record := hread.1 ▸ hrecord
    exact hsecond.holds record (mem_lease? hfound).1
  refine .seq hfirst hsnapshot fun snapshot second hcanonical hsecond => ?_
  refine .seq hsecond (writes_leaseFile hbound hsecond hallowed) fun _ third _ hthird => ?_
  refine .tryCatch hthird (.plain plain_writeLeaseArtifact) fun error fourth hfourth => ?_
  have hrestored : LeaseWrites surroundings shown allowed floor
      (ignoringErrors (restoreLeaseRecordFiles snapshot)) (fun _ _ => True) fourth :=
    .tryCatch hfourth (writes_restoreLeaseRecordFiles hbound hfourth hcanonical) fun _ _ _ => trivial
  exact .seq hfourth hrestored fun _ _ _ _ => trivial

end Files

/-! ## The load -/

section Load

variable {paths : BrokerPaths} {lease : Lease} {timestamp : Timestamp} {registry : Registry}
  (hbound : ∀ lease, allowed lease → lease.leaseId < floor)
  (hobserved : ∀ lease observation timestamp, allowed lease →
    allowed (observedLease lease observation timestamp))
  (hstands : Stands allowed floor world)
include hbound hobserved hstands

theorem writes_containLeaseRecord (hallowed : allowed lease) {reason : ContainmentReason}
    {now : Option Timestamp} :
    LeaseWrites surroundings shown allowed floor
      (containLeaseRecord paths registry lease reason now) (fun _ _ => True) world := by
  unfold containLeaseRecord
  refine .seq hstands (.plain plain_nowIso) fun noted first _ hfirst => ?_
  refine .seq hfirst (.plain (.request rfl)) fun outcome second _ hsecond => ?_
  cases outcome with
  | notContained observation =>
      exact .seq hsecond (writes_writeLeaseRecord hbound hsecond
        (hobserved lease observation noted hallowed)) fun _ _ _ _ => trivial
  | contained result =>
      dsimp only
      split
      · exact .plain (.bind plain_nowIso fun _ => .bind plain_removeLeaseAfterContainment
          fun _ => .bind (.request rfl) fun _ => .bind plain_appendEventRecord fun _ => .pure _)
      · refine .seq hsecond (.plain (.request rfl)) fun _ third _ hthird => ?_
        exact .seq hthird (writes_writeLeaseRecord hbound hthird
          (hobserved lease result.failureObservation noted hallowed)) fun _ _ _ _ => trivial

theorem writes_scanLease (hallowed : allowed lease) {skipLeaseIds : List LeaseId}
    {scan : LoadScan} :
    LeaseWrites surroundings shown allowed floor
      (scanLease paths skipLeaseIds timestamp scan lease) (fun _ _ => True) world := by
  unfold scanLease
  split
  · exact .plain (.pure _)
  · split
    · unfold reclaimLeftoverAcquireRollbackLease
      exact .plain (.bind (.bind plain_removeLeaseRecordFiles fun _ =>
        .bind plain_appendEventRecord fun _ => .pure _) fun _ => .pure _)
    · refine .seq hstands (.plain plain_leaseOwnerIsLive) fun answer first _ hfirst => ?_
      simp only
      split
      · exact .plain (.pure _)
      · split
        · refine .seq hfirst (writes_containLeaseRecord hbound hobserved hfirst hallowed)
            fun record second _ _ => ?_
          cases record with
          | contained registry => trivial
          | notContained lease => trivial
          | incomplete lease => trivial
        · unfold reclaimStaleLease
          exact .plain (.bind (.bind plain_removeLeaseRecordFiles fun _ =>
            .bind plain_appendEventRecord fun _ => .pure _) fun _ => .pure _)

theorem writes_scanLeases {leases : List Lease} (hallowed : ∀ lease ∈ leases, allowed lease)
    {skipLeaseIds : List LeaseId} {scan : LoadScan} :
    LeaseWrites surroundings shown allowed floor
      (leases.foldlM (scanLease paths skipLeaseIds timestamp) scan) (fun _ _ => True) world := by
  refine wp_foldlM (fun rest _ before =>
      (∀ lease ∈ rest, allowed lease) ∧ Stands allowed floor before) _ ?_ (fun _ _ _ => trivial)
    leases scan ⟨hallowed, hstands⟩
  rintro lease rest scan before ⟨hrest, hbefore⟩
  refine wp.weaken (wp.reached (writes_scanLease hbound hobserved hbefore
    (hrest lease List.mem_cons_self)) hbefore) ?_ fun _ _ _ => trivial
  exact fun _ _ h => ⟨fun other hother => hrest other (List.mem_cons_of_mem _ hother), h.2⟩

theorem writes_loadBrokerState {options : LoadOptions} :
    LeaseWrites surroundings shown allowed floor (loadBrokerState paths options)
      (fun _ _ => True) world := by
  unfold loadBrokerState ensureStatePaths
  refine .seq hstands (.plain (.request rfl)) fun _ first _ hfirst => ?_
  refine .seq hfirst (.plain plain_readHostConfigOrThrow) fun config second _ hsecond => ?_
  refine .seq hsecond (.plain (.request rfl)) fun projects third _ hthird => ?_
  refine .seq hthird (.plain (.request rfl)) fun raw fourth _ hfourth => ?_
  refine .seq hfourth (.plain (.request rfl)) fun pins fifth _ hfifth => ?_
  refine .seq hfifth (.perform trivial) fun leases sixth hlisted hsixth => ?_
  have hallowed : ∀ lease ∈ leases, allowed lease := fun lease hlease =>
    hfifth.holds lease (hlisted.1.subset hlease)
  refine .seq hsixth (writes_scanLeases hbound hobserved hsixth hallowed)
    fun scan seventh _ hseventh => ?_
  exact .plain (.bind plain_syncRegistryWithSimctl fun _ => .bind plain_writeLoadedRegistry
    fun _ => .bind plain_writeKnownProjects fun _ => .pure _)

end Load

/-! ## Flags -/

theorem writes_requireContainmentRootInteger {value : Nat} :
    LeaseWrites surroundings shown allowed floor (requireContainmentRootInteger value)
      (fun checked _ => checked = value ∧ 1 < value) world := by
  unfold requireContainmentRootInteger
  split
  · next hvalue => exact ⟨rfl, hvalue⟩
  · trivial

theorem writes_optionalContainmentGroupInteger {value : Option Nat} :
    LeaseWrites surroundings shown allowed floor (optionalContainmentGroupInteger value)
      (fun checked _ => checked = value ∧ ∀ group, value = some group → 1 < group) world := by
  unfold optionalContainmentGroupInteger
  cases value with
  | none => exact ⟨rfl, fun _ h => by cases h⟩
  | some value =>
      simp only
      split
      · next hvalue =>
        refine ⟨rfl, ?_⟩
        rintro group ⟨⟩
        exact hvalue
      · trivial

theorem shown_of_find {records : List ProcessRecord} {pid group : Pid} {record : ProcessRecord}
    (hreveals : Reveals shown .sampleProcesses (.ok records))
    (hfound : records.find? (fun record => record.pid = pid) = some record)
    (hgroup : positive? record.pgid = some group) : shown pid group := by
  have hmem := List.mem_of_find?_eq_some hfound
  have hpid : record.pid = pid := by simpa using List.find?_some hfound
  exact hpid ▸ hreveals record hmem group hgroup

/-- A given command group was sampled for the command pid. -/
theorem writes_validateRegisteredCommandGroup (hstands : Stands allowed floor world) {pid : Pid}
    {group : Option Pid} :
    LeaseWrites surroundings shown allowed floor (validateRegisteredCommandGroup pid group)
      (fun _ _ => ∀ given, group = some given → shown pid given) world := by
  unfold validateRegisteredCommandGroup
  cases group with
  | none => exact fun _ h => by cases h
  | some group =>
      refine .seq hstands (.perform trivial) fun records first hsample _ => ?_
      split
      · trivial
      · next record hfound =>
        split
        · trivial
        · split
          · trivial
          · next hgroup =>
            rintro given ⟨⟩
            exact shown_of_find hsample.2.1 hfound (not_not.mp hgroup)

/-- A given owner group was sampled for the owner. -/
theorem writes_validateRegisteredOwnerGroup (hstands : Stands allowed floor world)
    {owner group : Option Pid} {requireLiveOwner : Bool} (hrequire : group.isSome → requireLiveOwner) :
    LeaseWrites surroundings shown allowed floor
      (validateRegisteredOwnerGroup owner group requireLiveOwner)
      (fun _ _ => ∀ pid given, owner = some pid → group = some given → shown pid given) world := by
  unfold validateRegisteredOwnerGroup
  split
  · next pid group =>
    refine .seq hstands (.perform trivial) fun records first hsample _ => ?_
    split
    · rw [if_pos (hrequire rfl)]
      trivial
    · next record hfound =>
      split
      · trivial
      · split
        · trivial
        · next hgroup =>
          rintro pid given ⟨⟩ ⟨⟩
          exact shown_of_find hsample.2.1 hfound (not_not.mp hgroup)
  · next hnot =>
    rintro pid given rfl rfl
    exact absurd rfl (hnot pid given rfl)

end SimulatorBroker.Groups
