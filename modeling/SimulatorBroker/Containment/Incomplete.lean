import SimulatorBroker.Broker.Load
import SimulatorBroker.Containment.Verdict
import SimulatorBroker.Effects.Frame
import SimulatorBroker.Effects.Returns
import SimulatorBroker.State.Surroundings

/-!
# An incomplete containment keeps its lease

`containLeaseRecord` with the processes of the lease: what it leaves of the lease file, of
the artifact and of the registry, in every run in which `containLeaseProcesses` answers what
the samples and the results of the signals make of it.
-/

namespace SimulatorBroker.Containment

open SimulatorBroker.Effects
open SimulatorBroker.State
open SimulatorBroker.Broker

/-! ## Runs -/

/-- A containment answers its outcome. -/
def ContainsAs (lease : LeaseRecord) (options : CleanupOptions) (sampler : ProcessSampler)
    (results : KillResults) : (op : BrokerOp) → Except BrokerError op.Ret → Prop
  | .containLeaseProcesses _ reason, .ok outcome =>
      containmentOutcome lease reason options sampler results = some outcome
  | _, _ => True

/-- Everything may fail, also the process sampler. -/
def containing (lease : LeaseRecord) (options : CleanupOptions) (sampler : ProcessSampler)
    (results : KillResults) : Handler brokerSignature BrokerError World where
  step op world answer after :=
    Answers .arbitrary op world answer after ∧ ContainsAs lease options sampler results op answer

theorem containing_refines (lease : LeaseRecord) (options : CleanupOptions)
    (sampler : ProcessSampler) (results : KillResults) :
    (containing lease options sampler results).Refines (brokerHandler .arbitrary) :=
  fun _ _ _ _ hstep => hstep.1

/-! ## The files of a lease -/

/-- The lease file was not removed, the registry not written and no end counted. -/
structure Held (leaseId : LeaseId) (before after : World) : Prop where
  file : (before.store.lease? leaseId).isSome → (after.store.lease? leaseId).isSome
  registry : after.store.registry = before.store.registry
  ledger : after.ledger = before.ledger

/-- The record stands in its lease file and in its artifact. -/
structure Recorded (lease : Lease) (world : World) : Prop where
  file : world.store.lease? lease.leaseId = some lease
  artifact : ∀ path, lease.artifactPath = some path →
    world.store.artifacts path = some (.lease lease)

/-- The lease file and the artifact are gone, and the registry names no active lease. -/
structure Removed (registry : Registry) (lease : Lease) (world : World) : Prop where
  file : world.store.lease? lease.leaseId = none
  artifact : ∀ path, lease.artifactPath = some path → world.store.artifacts path = none
  registry : (registry.aliases lease.aliasName).isSome →
    ∃ entry, world.store.entry lease.aliasName = some entry ∧ entry.activeLeaseId = none

/-- What is recorded on a lease that stays. -/
def recordedObservation : ContainmentOutcome → Observation
  | .notContained observation => observation
  | .contained result => result.failureObservation

/-- The lease is where it was, with the observation of this containment. -/
def StillHeld (lease : LeaseRecord) (outcome : Option ContainmentOutcome) (timestamp : Timestamp)
    (before after : World) : Prop :=
  Held lease.leaseId before after ∧ ∃ found, outcome = some found ∧
    Recorded (observedLease lease.toLease (recordedObservation found) timestamp) after

variable {leaseId : LeaseId} {first world after : World} {α : Type} {paths : BrokerPaths}

theorem Held.refl (leaseId : LeaseId) (world : World) : Held leaseId world world :=
  ⟨id, rfl, rfl⟩

theorem Held.trans {before middle after : World} (hfirst : Held leaseId before middle)
    (hlast : Held leaseId middle after) : Held leaseId before after :=
  ⟨hlast.file ∘ hfirst.file, hlast.registry.trans hfirst.registry,
    hlast.ledger.trans hfirst.ledger⟩

theorem held_of_settles (hsettles : Settles .arbitrary world after) :
    Held leaseId world after := by
  constructor
  · rw [hsettles.store]
    exact id
  · rw [hsettles.store]
  · exact hsettles.ledger

theorem lease?_setLease (store : Store) (lease : Lease) :
    (store.setLease lease).lease? lease.leaseId = some lease := by
  unfold Store.setLease Store.lease?
  rw [List.find?_cons_of_pos (by simp)]

theorem lease?_dropLease (store : Store) (leaseId : LeaseId) :
    (store.dropLease leaseId).lease? leaseId = none := by
  unfold Store.dropLease Store.lease?
  refine List.find?_eq_none.mpr fun lease hlease => ?_
  simpa using (List.mem_filter.mp hlease).2

/-! ## Operations that keep the lease -/

/-- Operations that neither remove the lease file nor write the registry. -/
def keepsLease (leaseId : LeaseId) : BrokerOp → Bool
  | .now | .fs _ | .readLease _ | .readArtifact _ | .unlinkArtifact _ => true
  | .containLeaseProcesses _ _ => true
  | .rename (.artifact _ _) => true
  | .rename (.lease record) => decide (record.leaseId = leaseId)
  | _ => false

theorem held_effect {op : BrokerOp} (hop : keepsLease leaseId op = true) (world : World) :
    Held leaseId world (op.effect world) := by
  cases op with
  | now | fs | readLease | readArtifact | containLeaseProcesses => exact .refl _ _
  | unlinkArtifact path => exact ⟨id, rfl, rfl⟩
  | rename file =>
      cases file with
      | artifact path content => exact ⟨id, rfl, rfl⟩
      | lease record =>
          have hrecord : record.leaseId = leaseId := of_decide_eq_true hop
          subst hrecord
          refine ⟨fun _ => ?_, rfl, rfl⟩
          rw [show (BrokerOp.effect (.rename (.lease record)) world).store =
            world.store.setLease record from rfl, lease?_setLease]
          rfl
      | _ => cases hop
  | _ => cases hop

theorem held_answers {op : BrokerOp} {answer : Except BrokerError op.Ret}
    (hop : keepsLease leaseId op = true) (hanswers : Answers .arbitrary op world answer after) :
    Held leaseId world after := by
  cases hanswers with
  | ok _ hsettles => exact (held_effect hop world).trans (held_of_settles hsettles)
  | error _ _ hsettles => exact held_of_settles hsettles
  | late _ _ _ hsettles => exact (held_effect hop world).trans (held_of_settles hsettles)

theorem wp_held {body : Broker α} (hbody : body.All fun op => keepsLease leaseId op = true)
    (hheld : Held leaseId first world) :
    wp (brokerHandler .arbitrary) (fun _ after => Held leaseId first after) body
      (fun _ after => Held leaseId first after)
      (fun _ after => Held leaseId first after) world := by
  refine (wp_of_all (R := fun before after => Held leaseId before after) hbody (.refl _ _)
    (fun _ _ hfirst hlast => hfirst.trans hlast)
    (G := fun _ after => Held leaseId first after) (fun _ _ _ h => hheld.trans h)
    fun _ _ _ _ hop hstep => held_answers hop hstep).weaken ?_ ?_
  · exact fun _ _ h => hheld.trans h
  · exact fun _ _ h => hheld.trans h

/-- The check of the artifact path performs nothing. -/
theorem wp_assertLeaseArtifactPathAllowed {H : Handler brokerSignature BrokerError World}
    {guard : BrokerOp → World → Prop} {path : Option ArtifactPath} :
    wp H guard (assertLeaseArtifactPathAllowed paths path) (fun _ after => after = world)
      (fun _ after => after = world) world := by
  unfold assertLeaseArtifactPathAllowed
  cases path with
  | none => exact rfl
  | some path =>
      dsimp only
      split
      · exact rfl
      · exact rfl

theorem keeps_writeJsonAtomic {file : FileWrite}
    (hfile : keepsLease leaseId (.rename file) = true) :
    (writeJsonAtomic file).All fun op => keepsLease leaseId op = true := by
  unfold writeJsonAtomic
  exact .bind (.request rfl) fun _ => .bind (.request rfl) fun _ => .request hfile

theorem keeps_writeJsonAtomicRestricted {file : FileWrite}
    (hfile : keepsLease leaseId (.rename file) = true) :
    (writeJsonAtomicRestricted file).All fun op => keepsLease leaseId op = true := by
  unfold writeJsonAtomicRestricted
  exact .bind (.request rfl) fun _ => .bind (.request rfl) fun _ => .bind (.request rfl)
    fun _ => .bind (.request hfile) fun _ => .request rfl

theorem keeps_writeLeaseArtifact {lease : Lease} :
    (writeLeaseArtifact lease true).All fun op => keepsLease leaseId op = true := by
  unfold writeLeaseArtifact
  cases lease.artifactPath with
  | none => exact .pure _
  | some path => exact keeps_writeJsonAtomic rfl

/-- The lease file is read before it is replaced. -/
theorem wp_snapshotLeaseRecordFiles {lease : Lease} :
    wp (brokerHandler .arbitrary) (fun _ after => Held lease.leaseId world after)
      (snapshotLeaseRecordFiles lease)
      (fun snapshot after => Held lease.leaseId world after ∧
        snapshot.canonical = world.store.lease? lease.leaseId)
      (fun _ after => Held lease.leaseId world after) world := by
  unfold snapshotLeaseRecordFiles readLeaseArtifact
  have hartifact : wp (brokerHandler .arbitrary) (fun _ after => Held lease.leaseId world after)
      (readLeaseArtifact lease)
      (fun _ after => Held lease.leaseId world after ∧ after.store = world.store)
      (fun _ after => Held lease.leaseId world after) world := by
    unfold readLeaseArtifact
    cases lease.artifactPath with
    | none => exact ⟨.refl _ _, rfl⟩
    | some path =>
        refine wp_perform (.refl _ _) ?_ ?_
        · exact fun _ _ _ hsettles => ⟨held_of_settles hsettles, hsettles.store⟩
        · rintro _ _ - - (hsettles | ⟨-, hsettles⟩)
          · exact held_of_settles hsettles
          · exact held_of_settles hsettles
  refine hartifact.seq (fun _ _ h => h) fun artifact read hread => ?_
  refine wp.seq (M := fun canonical after => Held lease.leaseId world after ∧
      canonical = world.store.lease? lease.leaseId)
    (E := fun _ after => Held lease.leaseId world after) (wp_perform hread.1 ?_ ?_)
    (fun _ _ h => h) fun canonical listed hlisted => hlisted
  · rintro value _ hvalue hsettles
    have hvalue : value = read.store.lease? lease.leaseId := hvalue
    exact ⟨hread.1.trans (held_of_settles hsettles), by rw [hvalue, hread.2]⟩
  · rintro _ _ - - (hsettles | ⟨hlate, -⟩)
    · exact hread.1.trans (held_of_settles hsettles)
    · cases hlate

/-- A failed write restores the lease file where there was one. -/
theorem wp_held_restoreLeaseRecordFiles {snapshot : LeaseFilesSnapshot}
    (hcanonical : snapshot.canonical = first.store.lease? leaseId)
    (hheld : Held leaseId first world) :
    wp (brokerHandler .arbitrary) (fun _ after => Held leaseId first after)
      (restoreLeaseRecordFiles snapshot) (fun _ after => Held leaseId first after)
      (fun _ after => Held leaseId first after) world := by
  have hartifact :
      (restoreArtifactFile snapshot).All fun op => keepsLease leaseId op = true := by
    unfold restoreArtifactFile
    cases snapshot.artifactPath with
    | none => exact .pure _
    | some path =>
        cases snapshot.artifact with
        | none => exact .request rfl
        | some content => exact keeps_writeJsonAtomic rfl
  unfold restoreLeaseRecordFiles
  cases hrecord : snapshot.canonical with
  | some record =>
      have hfound : first.store.lease? leaseId = some record := hcanonical.symm.trans hrecord
      have hsame : record.leaseId = leaseId := by simpa using List.find?_some hfound
      have hkeeps : keepsLease leaseId (.rename (.lease record)) = true := decide_eq_true hsame
      exact (wp_held (keeps_writeJsonAtomicRestricted hkeeps) hheld).seq
        (fun _ _ h => h) fun _ _ hrestored => wp_held hartifact hrestored
  | none =>
      have habsent : first.store.lease? leaseId = none := hcanonical.symm.trans hrecord
      refine wp.seq (M := fun _ after => Held leaseId first after)
        (E := fun _ after => Held leaseId first after) (wp_perform hheld ?_ ?_)
        (fun _ _ h => h) fun _ _ hrestored => wp_held hartifact hrestored
      · rintro _ unlinked - hsettles
        refine Held.trans ⟨?_, ?_, ?_⟩ (held_of_settles hsettles)
        · rw [habsent]
          rintro ⟨⟩
        · exact hheld.registry
        · rw [show (BrokerOp.effect (.unlinkLease snapshot.leaseId .rollback) world).ledger =
            world.ledger from ?_]
          · exact hheld.ledger
          · simp only [BrokerOp.effect, UnlinkSite.releasedAt]
            cases world.store.lease? snapshot.leaseId
            all_goals rfl
      · rintro _ _ - - (hsettles | ⟨hlate, -⟩)
        · exact hheld.trans (held_of_settles hsettles)
        · cases hlate

theorem wp_held_writeLeaseRecord {lease : Lease} :
    wp (brokerHandler .arbitrary) (fun _ after => Held lease.leaseId world after)
      (writeLeaseRecord paths lease) (fun _ after => Held lease.leaseId world after)
      (fun _ after => Held lease.leaseId world after) world := by
  unfold writeLeaseRecord
  refine wp_assertLeaseArtifactPathAllowed.seq (fun _ _ h => h ▸ .refl _ _)
    fun _ asserted hasserted => ?_
  subst hasserted
  refine wp_snapshotLeaseRecordFiles.seq (fun _ _ h => h) fun snapshot read hread => ?_
  obtain ⟨hread, hcanonical⟩ := hread
  have hkeeps : keepsLease lease.leaseId (.rename (.lease lease)) = true := decide_eq_true rfl
  refine (wp_held (keeps_writeJsonAtomicRestricted hkeeps) hread).seq (fun _ _ h => h)
    fun _ written hwritten => ?_
  refine (wp_tryCatch _ _).mpr ((wp_held keeps_writeLeaseArtifact hwritten).weaken
    (fun _ _ h => h) fun error failed hfailed => ?_)
  unfold ignoringErrors
  refine wp.seq (M := fun _ after => Held lease.leaseId asserted after)
    (E := fun _ after => Held lease.leaseId asserted after) ((wp_tryCatch _ _).mpr ?_)
    (fun _ _ h => h) fun _ _ hrestored => hrestored
  exact (wp_held_restoreLeaseRecordFiles hcanonical hfailed).weaken (fun _ _ h => h)
    fun _ _ h => h

/-! ## What the writes leave -/

/-- A read or a file-system call leaves the files as they are. -/
theorem wp_sameStore {op : BrokerOp} (hop : ∀ before, (op.effect before).store = before.store) :
    wp (brokerHandler .arbitrary) (fun _ _ => True) (perform op)
      (fun _ after => after.store = world.store) (fun _ _ => True) world :=
  wp_perform trivial (fun _ _ _ hsettles => hsettles.store.trans (hop world))
    fun _ _ _ _ _ => trivial

/-- Once it has returned, an operation on the files has had its effect. -/
theorem wp_effectStore {op : BrokerOp} {written : Store}
    (hop : (op.effect world).store = written) :
    wp (brokerHandler .arbitrary) (fun _ _ => True) (perform op)
      (fun _ after => after.store = written) (fun _ _ => True) world :=
  wp_perform trivial (fun _ _ _ hsettles => hsettles.store.trans hop) fun _ _ _ _ _ => trivial

theorem store_rename (file : FileWrite) (before : World) :
    (BrokerOp.effect (.rename file) before).store = file.commit before.store := by
  cases file with
  | _ => rfl

theorem wp_committed {file : FileWrite} :
    wp (brokerHandler .arbitrary) (fun _ _ => True) (writeJsonAtomicRestricted file)
      (fun _ after => after.store = file.commit world.store) (fun _ _ => True) world := by
  unfold writeJsonAtomicRestricted
  refine (wp_sameStore fun _ => rfl).seq (fun _ _ _ => trivial) fun _ ensured hensured => ?_
  refine (wp_sameStore fun _ => rfl).seq (fun _ _ _ => trivial) fun _ temporary htemporary => ?_
  refine (wp_sameStore fun _ => rfl).seq (fun _ _ _ => trivial) fun _ restricted hrestricted => ?_
  refine (wp_effectStore (store_rename file _)).seq (fun _ _ _ => trivial)
    fun _ renamed hrenamed => ?_
  refine (wp_sameStore fun _ => rfl).weaken (fun _ after h => ?_) fun _ _ _ => trivial
  rw [h, hrenamed, hrestricted, htemporary, hensured]

theorem wp_committedArtifact {file : FileWrite} :
    wp (brokerHandler .arbitrary) (fun _ _ => True) (writeJsonAtomic file)
      (fun _ after => after.store = file.commit world.store) (fun _ _ => True) world := by
  unfold writeJsonAtomic
  refine (wp_sameStore fun _ => rfl).seq (fun _ _ _ => trivial) fun _ ensured hensured => ?_
  refine (wp_sameStore fun _ => rfl).seq (fun _ _ _ => trivial) fun _ temporary htemporary => ?_
  refine (wp_effectStore (store_rename file _)).weaken (fun _ after h => ?_) fun _ _ _ => trivial
  rw [h, htemporary, hensured]

/-- After an error nothing is left to show. -/
theorem wp_raises {body : Broker α} {error : BrokerError} {post : Unit → World → Prop} :
    wp (brokerHandler .arbitrary) (fun _ _ => True)
      (body >>= fun _ => (throw error : Broker Unit)) post (fun _ _ => True) world :=
  (wp_anything body).seq (fun _ _ h => h) fun _ _ _ => trivial

theorem wp_recorded_writeLeaseRecord {lease : Lease} :
    wp (brokerHandler .arbitrary) (fun _ _ => True) (writeLeaseRecord paths lease)
      (fun _ after => Recorded lease after) (fun _ _ => True) world := by
  unfold writeLeaseRecord
  refine (wp_anything _).seq (fun _ _ _ => trivial) fun _ asserted _ => ?_
  refine (wp_anything _).seq (fun _ _ _ => trivial) fun snapshot read _ => ?_
  refine wp_committed.seq (fun _ _ _ => trivial) fun _ written hwritten => ?_
  have hfile : written.store.lease? lease.leaseId = some lease := by
    rw [hwritten]
    exact lease?_setLease _ lease
  suffices hartifact : wp (brokerHandler .arbitrary) (fun _ _ => True) (writeLeaseArtifact lease true)
      (fun _ after => Recorded lease after) (fun _ _ => True) written from
    (wp_tryCatch _ _).mpr (hartifact.weaken (fun _ _ h => h) fun _ _ _ => wp_raises)
  unfold writeLeaseArtifact
  cases hpath : lease.artifactPath with
  | none => exact ⟨hfile, by simp [hpath]⟩
  | some path =>
      refine wp_committedArtifact.weaken (fun _ after h => ⟨?_, ?_⟩) fun _ _ _ => trivial
      · rw [h]
        exact hfile
      · intro other hother
        cases hpath.symm.trans hother
        rw [h]
        exact Function.update_self path _ _

/-- The record is written, and on the way the lease is kept. -/
theorem wp_writeContainmentObservation {lease : Lease} {observation : Observation}
    {timestamp : Timestamp} (hheld : Held lease.leaseId first world) :
    wp (brokerHandler .arbitrary) (fun _ after => Held lease.leaseId first after)
      (writeContainmentObservation paths lease observation timestamp)
      (fun _ after => Held lease.leaseId first after ∧
        Recorded (observedLease lease observation timestamp) after)
      (fun _ after => Held lease.leaseId first after) world := by
  unfold writeContainmentObservation
  refine (wp_held_writeLeaseRecord.and wp_recorded_writeLeaseRecord).mono ?_ ?_ ?_
  · exact fun _ _ h => hheld.trans h.1
  · exact fun _ _ h => ⟨hheld.trans h.1, h.2⟩
  · exact fun _ _ h => hheld.trans h.1

theorem wp_removeLeaseRecordFiles {lease : Lease} {site : UnlinkSite} :
    wp (brokerHandler .arbitrary) (fun _ _ => True) (removeLeaseRecordFiles paths lease site)
      (fun _ after => after.store.registry = world.store.registry ∧
        after.store.lease? lease.leaseId = none ∧
        ∀ path, lease.artifactPath = some path → after.store.artifacts path = none)
      (fun _ _ => True) world := by
  unfold removeLeaseRecordFiles
  refine wp_assertLeaseArtifactPathAllowed.seq (fun _ _ _ => trivial)
    fun _ asserted hasserted => ?_
  subst hasserted
  refine (wp_effectStore rfl).seq (fun _ _ _ => trivial) fun _ unlinked hunlinked => ?_
  have hfile : unlinked.store.lease? lease.leaseId = none := by
    rw [hunlinked]
    exact lease?_dropLease _ _
  have hregistry : unlinked.store.registry = asserted.store.registry := by
    rw [hunlinked]
    rfl
  unfold removeArtifact
  cases hpath : lease.artifactPath with
  | none => exact ⟨hregistry, hfile, by simp⟩
  | some path =>
      refine (wp_effectStore rfl).weaken (fun _ after h => ?_) fun _ _ _ => trivial
      refine ⟨?_, ?_, ?_⟩
      · rw [h]
        exact hregistry
      · rw [h]
        exact hfile
      · rintro other ⟨⟩
        rw [h]
        exact Function.update_self path _ _

theorem wp_removeLeaseAfterContainment {registry : Registry} {lease : Lease}
    {timestamp : Timestamp} :
    wp (brokerHandler .arbitrary) (fun _ _ => True)
      (removeLeaseAfterContainment paths registry lease timestamp)
      (fun _ after => Removed registry lease after) (fun _ _ => True) world := by
  unfold removeLeaseAfterContainment
  refine (wp_anything _).seq (fun _ _ _ => trivial) fun _ asserted _ => ?_
  cases hentry : registry.aliases lease.aliasName with
  | none =>
      refine (wp_removeLeaseRecordFiles.seq (fun _ _ _ => trivial) fun _ removed hremoved => ?_)
      exact ⟨hremoved.2.1, hremoved.2.2, fun h => by simp [hentry] at h⟩
  | some entry =>
      refine wp_committed.seq (fun _ _ _ => trivial) fun _ marked hmarked => ?_
      refine wp_removeLeaseRecordFiles.seq (fun _ _ _ => trivial) fun _ removed hremoved => ?_
      refine ⟨hremoved.2.1, hremoved.2.2, fun _ => ?_⟩
      refine ⟨markAliasLeaseReleased timestamp entry, ?_, rfl⟩
      rw [Store.entry, hremoved.1, hmarked]
      simp [FileWrite.commit, Registry.touch, Registry.modify, hentry]

/-! ## After the removal -/

/-- The evidence and the event that follow. -/
def logs : BrokerOp → Bool
  | .fs _ | .appendEvent _ => true
  | _ => false

/-- The lease files, the artifacts and the registry are the same. -/
structure SameFiles (before after : World) : Prop where
  leases : after.store.leases = before.store.leases
  artifacts : after.store.artifacts = before.store.artifacts
  registry : after.store.registry = before.store.registry

theorem Removed.mono {registry : Registry} {lease : Lease} (hremoved : Removed registry lease world)
    (hsame : SameFiles world after) : Removed registry lease after := by
  obtain ⟨hleases, hartifacts, hregistry⟩ := hsame
  constructor
  · simpa only [Store.lease?, hleases] using hremoved.file
  · simpa only [hartifacts] using hremoved.artifact
  · simpa only [Store.entry, hregistry] using hremoved.registry

theorem wp_logs {body : Broker α} (hbody : body.All fun op => logs op = true) :
    wp (brokerHandler .arbitrary) (fun _ _ => True) body (fun _ after => SameFiles world after)
      (fun _ after => SameFiles world after) world := by
  have heffect : ∀ op (before : World), logs op = true → SameFiles before (op.effect before) := by
    intro op before hop
    cases op with
    | fs call => exact ⟨rfl, rfl, rfl⟩
    | appendEvent event => exact ⟨rfl, rfl, rfl⟩
    | _ => cases hop
  have hsettled : ∀ {before middle after : World}, SameFiles before middle →
      Settles .arbitrary middle after → SameFiles before after := by
    rintro before middle after ⟨hleases, hartifacts, hregistry⟩ ⟨hstore, -, -⟩
    rw [← hstore] at hleases hartifacts hregistry
    exact ⟨hleases, hartifacts, hregistry⟩
  refine wp_of_all hbody ⟨rfl, rfl, rfl⟩ ?_ (fun _ _ _ _ => trivial) ?_
  · rintro middle last ⟨hleases, hartifacts, hregistry⟩ ⟨hleases', hartifacts', hregistry'⟩
    exact ⟨hleases'.trans hleases, hartifacts'.trans hartifacts, hregistry'.trans hregistry⟩
  · intro op middle answer last hop hstep
    cases hstep with
    | ok _ hsettles => exact hsettled (heffect op middle hop) hsettles
    | error _ _ hsettles => exact hsettled ⟨rfl, rfl, rfl⟩ hsettles
    | late _ _ _ hsettles => exact hsettled (heffect op middle hop) hsettles

/-! ## The whole of `containLeaseRecord` -/

variable {lease : LeaseRecord} {reason : State.ContainmentReason} {now : Option Timestamp}
  {options : CleanupOptions} {sampler : ProcessSampler} {results : KillResults}
  {registry : Registry}

theorem wp_nowIso :
    wp (brokerHandler .arbitrary) (fun _ after => Held leaseId world after) (nowIso now)
      (fun timestamp after => timestamp = now.getD world.outside.clock ∧ Held leaseId world after)
      (fun _ _ => False) world := by
  unfold nowIso
  cases now with
  | some fixed => exact ⟨rfl, .refl _ _⟩
  | none =>
      refine wp_perform (.refl _ _) ?_ ?_
      · exact fun _ _ hvalue hsettles => ⟨hvalue, held_of_settles hsettles⟩
      · rintro _ _ - ⟨⟩

/-- The containment itself: its outcome, or an error that leaves everything. -/
theorem wp_containLeaseProcesses {guard : BrokerOp → World → Prop}
    (hguard : guard (.containLeaseProcesses lease.toLease reason) world)
    {post : ContainmentOutcome → World → Prop}
    (hpost : ∀ outcome after,
      containmentOutcome lease reason options sampler results = some outcome →
      Held leaseId world after → post outcome after) :
    wp (containing lease options sampler results) guard
      (perform (.containLeaseProcesses lease.toLease reason)) post
      (fun _ after => Held leaseId world after) world := by
  refine wp_request.mpr ⟨hguard, ?_, ?_⟩
  · rintro outcome after ⟨hanswers, houtcome⟩
    exact hpost outcome after houtcome (held_answers rfl hanswers)
  · rintro error after ⟨hanswers, -⟩
    exact held_answers rfl hanswers

/-- Where the lease has not been cleaned up, it is held at every point and its observation
recorded at the end. -/
theorem wp_containLeaseRecord_held (timestamp : Timestamp)
    (htimestamp : timestamp = now.getD world.outside.clock)
    (hincomplete : ¬ CleanedUp lease (options.calledFor reason) sampler results) :
    wp (containing lease options sampler results) (fun _ after => Held lease.leaseId world after)
      (containLeaseRecord paths registry lease.toLease reason now)
      (fun _ after => StillHeld lease (containmentOutcome lease reason options sampler results)
        timestamp world after)
      (fun _ after => Held lease.leaseId world after) world := by
  have hrefines := containing_refines lease options sampler results
  unfold containLeaseRecord
  refine (wp_nowIso.refine hrefines).seq (fun _ _ h => h.elim) fun started start hstart => ?_
  obtain ⟨hstarted, hstart⟩ := hstart
  obtain rfl := htimestamp.trans hstarted.symm
  refine wp.seq (M := fun outcome after =>
      containmentOutcome lease reason options sampler results = some outcome ∧
        Held lease.leaseId world after)
    (E := fun _ after => Held lease.leaseId start after)
    (wp_containLeaseProcesses hstart fun _ _ houtcome h => ⟨houtcome, hstart.trans h⟩)
    (fun _ _ h => hstart.trans h) fun outcome contained hcontained => ?_
  obtain ⟨houtcome, hcontained⟩ := hcontained
  cases outcome with
  | notContained observation =>
      refine ((wp_writeContainmentObservation hcontained).refine hrefines).seq (fun _ _ h => h)
        fun _ written hwritten => ?_
      exact ⟨hwritten.1, _, houtcome, hwritten.2⟩
  | contained result =>
      dsimp only
      split
      · next hcomplete =>
          exact absurd ((containmentOutcome_complete_iff houtcome).mp ⟨result, rfl, hcomplete⟩)
            hincomplete
      · refine ((wp_held (.request rfl) hcontained).refine hrefines).seq (fun _ _ h => h)
          fun _ evidenced hevidenced => ?_
        refine ((wp_writeContainmentObservation hevidenced).refine hrefines).seq (fun _ _ h => h)
          fun _ written hwritten => ?_
        exact ⟨hwritten.1, _, houtcome, hwritten.2⟩

/-- Where it has been cleaned up, a call that returns has removed it. -/
theorem wp_containLeaseRecord_removed
    (hcomplete : CleanedUp lease (options.calledFor reason) sampler results) :
    wp (containing lease options sampler results) (fun _ _ => True)
      (containLeaseRecord paths registry lease.toLease reason now)
      (fun _ after => Removed registry lease.toLease after) (fun _ _ => True) world := by
  have hrefines := containing_refines lease options sampler results
  unfold containLeaseRecord
  refine (wp_anything _).seq (fun _ _ _ => trivial) fun timestamp start _ => ?_
  refine wp.seq (M := fun outcome _ =>
      containmentOutcome lease reason options sampler results = some outcome)
    (E := fun _ after => Held lease.leaseId start after)
    (wp_containLeaseProcesses trivial fun _ _ houtcome _ => houtcome)
    (fun _ _ _ => trivial) fun outcome contained houtcome => ?_
  obtain ⟨result, rfl, hresult⟩ := (containmentOutcome_complete_iff houtcome).mpr hcomplete
  simp only [hresult, if_true]
  refine (wp_anything _).seq (fun _ _ _ => trivial) fun releasedAt restart _ => ?_
  refine (wp_removeLeaseAfterContainment.refine hrefines).seq (fun _ _ _ => trivial)
    fun released removed hremoved => ?_
  have htail : (do
      perform (.fs .evidence)
      let _ ← appendEventRecord
        { type := .leaseContained, aliasName := lease.aliasName, leaseId := lease.leaseId
          timestamp := releasedAt }
      return ContainedRecord.contained released : Broker ContainedRecord).All
        fun op => logs op = true := by
    refine .bind (.request rfl) fun _ => .bind ?_ fun _ => .pure _
    unfold appendEventRecord recordAuditAppendFailure ignoringErrors
    refine .tryCatch (.bind (.request rfl) fun _ => .pure _) fun _ => .bind ?_ fun _ => .pure _
    exact .tryCatch (.request rfl) fun _ => .pure _
  exact ((wp_logs htail).refine hrefines).weaken (fun _ _ h => hremoved.mono h) fun _ _ _ => trivial

/-! ## The result -/

/-- What containing a lease promises: it is removed exactly when it has been cleaned up, and
held otherwise. -/
structure KeepsUnlessCleaned (paths : BrokerPaths) (registry : Registry) (lease : LeaseRecord)
    (reason : State.ContainmentReason) (now : Option Timestamp) (options : CleanupOptions)
    (sampler : ProcessSampler) (results : KillResults) (world : World) : Prop where
  /-- A call that returns. -/
  returned : ∀ record after,
    Steps (containing lease options sampler results)
      (containLeaseRecord paths registry lease.toLease reason now) world (.done record) after →
    (Removed registry lease.toLease after ↔
      CleanedUp lease (options.calledFor reason) sampler results) ∧
    (¬ CleanedUp lease (options.calledFor reason) sampler results →
      StillHeld lease (containmentOutcome lease reason options sampler results)
        (now.getD world.outside.clock) world after)
  /-- Any point of any call, also of one whose operations fail. -/
  held : ¬ CleanedUp lease (options.calledFor reason) sampler results →
    ∀ rest after, Steps (containing lease options sampler results)
      (containLeaseRecord paths registry lease.toLease reason now) world rest after →
    Held lease.leaseId world after
  /-- A call none of whose operations fails returns, if the artifact path may be written. -/
  returns : lease.artifactPath.all paths.artifactPathAllowed = true → ∀ error after,
    ¬ Steps (containing lease options sampler results).unfailing
      (containLeaseRecord paths registry lease.toLease reason now) world (.fail error) after

theorem returns_assertLeaseArtifactPathAllowed {path : Option ArtifactPath}
    (hallowed : path.all paths.artifactPathAllowed = true) :
    (assertLeaseArtifactPathAllowed paths path).Returns := by
  unfold assertLeaseArtifactPathAllowed
  cases path with
  | none => exact .pure _
  | some path =>
      have hallowed : paths.artifactPathAllowed path = true := hallowed
      simp only [hallowed, if_true]
      exact .pure _

theorem returns_writeJsonAtomicRestricted {file : FileWrite} :
    (writeJsonAtomicRestricted file).Returns := by
  unfold writeJsonAtomicRestricted
  exact .bind (.request _) fun _ => .bind (.request _) fun _ => .bind (.request _)
    fun _ => .bind (.request _) fun _ => .request _

theorem returns_nowIso : (nowIso now).Returns := by
  unfold nowIso
  cases now with
  | some fixed => exact .pure _
  | none => exact .request _

theorem returns_writeContainmentObservation {lease : Lease} {observation : Observation}
    {timestamp : Timestamp} (hallowed : lease.artifactPath.all paths.artifactPathAllowed = true) :
    (writeContainmentObservation paths lease observation timestamp).Returns := by
  unfold writeContainmentObservation writeLeaseRecord snapshotLeaseRecordFiles
  refine .bind (returns_assertLeaseArtifactPathAllowed hallowed) fun _ => .bind ?_ fun _ =>
    .bind returns_writeJsonAtomicRestricted fun _ => .tryCatch ?_ _
  · unfold readLeaseArtifact
    refine .bind ?_ fun _ => .bind (.request _) fun _ => .pure _
    split
    · exact .pure _
    · exact .request _
  · unfold writeLeaseArtifact
    split
    · exact .pure _
    · rw [if_pos rfl]
      exact .bind (.request _) fun _ => .bind (.request _) fun _ => .request _

theorem returns_removeLeaseAfterContainment {lease : Lease} {timestamp : Timestamp}
    (hallowed : lease.artifactPath.all paths.artifactPathAllowed = true) :
    (removeLeaseAfterContainment paths registry lease timestamp).Returns := by
  have hremoved : (removeLeaseRecordFiles paths lease (.contained timestamp)).Returns := by
    unfold removeLeaseRecordFiles removeArtifact
    refine .bind (returns_assertLeaseArtifactPathAllowed hallowed) fun _ =>
      .bind (.request _) fun _ => ?_
    split
    · exact .pure _
    · exact .request _
  unfold removeLeaseAfterContainment
  refine .bind (returns_assertLeaseArtifactPathAllowed hallowed) fun _ => ?_
  dsimp only
  split
  · exact .bind returns_writeJsonAtomicRestricted fun _ => .bind hremoved fun _ => .pure _
  · exact .bind hremoved fun _ => .pure _

theorem returns_containLeaseRecord {lease : Lease}
    (hallowed : lease.artifactPath.all paths.artifactPathAllowed = true) :
    (containLeaseRecord paths registry lease reason now).Returns := by
  unfold containLeaseRecord
  refine .bind returns_nowIso fun timestamp => .bind (.request _) fun outcome => ?_
  cases outcome with
  | notContained observation =>
      exact .bind (returns_writeContainmentObservation hallowed) fun _ => .pure _
  | contained result =>
      dsimp only
      split
      · refine .bind returns_nowIso fun _ => .bind (returns_removeLeaseAfterContainment hallowed)
          fun _ => .bind (.request _) fun _ => .bind ?_ fun _ => .pure _
        exact .tryCatch (.bind (.request _) fun _ => .pure _) _
      · exact .bind (.request _) fun _ =>
          .bind (returns_writeContainmentObservation hallowed) fun _ => .pure _

theorem containLeaseRecord_keepsUnlessCleaned (paths : BrokerPaths) (registry : Registry)
    (lease : LeaseRecord) (reason : State.ContainmentReason) (now : Option Timestamp)
    (settings : CleanupOptions) (sampler : ProcessSampler) (results : KillResults)
    (world : World) :
    KeepsUnlessCleaned paths registry lease reason now
      { settings with timestamp := now.getD world.outside.clock } sampler results world where
  returned := by
    intro record after hsteps
    by_cases hcleaned : CleanedUp lease (CleanupOptions.calledFor
        { settings with timestamp := now.getD world.outside.clock } reason) sampler results
    · have hremoved := (wp_containLeaseRecord_removed hcleaned).returned hsteps
      exact ⟨iff_of_true hremoved hcleaned, fun hnot => absurd hcleaned hnot⟩
    · have hheld := (wp_containLeaseRecord_held _ rfl hcleaned).returned hsteps
      refine ⟨iff_of_false (fun hremoved => ?_) hcleaned, fun _ => hheld⟩
      obtain ⟨-, outcome, -, hrecorded⟩ := hheld
      exact absurd (hrecorded.file.symm.trans hremoved.file) (by simp)
  held := by
    intro hcleaned rest after hsteps
    refine wp.stopped (I := fun after => Held lease.leaseId world after) ?_ hsteps
    exact (wp_containLeaseRecord_held _ rfl hcleaned).weaken (fun _ _ h => h.1) fun _ _ h => h
  returns hallowed _ _ := (returns_containLeaseRecord hallowed).not_fail

end SimulatorBroker.Containment
