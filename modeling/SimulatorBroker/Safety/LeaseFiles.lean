import SimulatorBroker.Safety.Readers

/-!
# Lease files

Removing the files of a lease, writing them with the restore of a failed write,
and containing a lease.
-/

namespace SimulatorBroker.Safety

open SimulatorBroker.Effects
open SimulatorBroker.State
open SimulatorBroker.Broker

variable {context : Context} {first world after : World}

/-! ## What a lease write leaves alone -/

/-- Everything but the lease files is as it was. -/
structure KeptButLeases (before after : World) : Prop where
  hostConfig : after.store.hostConfig = before.store.hostConfig
  registry : after.store.registry = before.store.registry
  pins : after.store.pins = before.store.pins
  ledger : after.ledger = before.ledger
  later : before.outside.Later after.outside

theorem Kept.butLeases {before after : World} (hkept : Kept before after) :
    KeptButLeases before after :=
  ⟨hkept.hostConfig, hkept.registry, hkept.pins, hkept.ledger, hkept.later⟩

theorem KeptButLeases.trans {first middle last : World} (hfirst : KeptButLeases first middle)
    (hlast : KeptButLeases middle last) : KeptButLeases first last where
  hostConfig := hlast.hostConfig.trans hfirst.hostConfig
  registry := hlast.registry.trans hfirst.registry
  pins := hlast.pins.trans hfirst.pins
  ledger := hlast.ledger.trans hfirst.ledger
  later := hfirst.later.trans hlast.later

theorem KeptButLeases.exact {before after : World} (hkept : KeptButLeases before after)
    (hexact : Exact before) : Exact after := by
  have hentry : after.store.entry = before.store.entry := by
    funext name
    simp [Store.entry, hkept.registry]
  refine ⟨?_, ?_, ?_⟩
  · rw [hentry, hkept.ledger]
    exact hexact.counted
  · rw [hentry, hkept.ledger]
    exact hexact.absent
  · rw [hkept.ledger]
    exact hexact.written

/-- Host config and pins are as they were. -/
structure HostKept (before after : World) : Prop where
  hostConfig : after.store.hostConfig = before.store.hostConfig
  pins : after.store.pins = before.store.pins
  later : before.outside.Later after.outside

theorem KeptButLeases.host {before after : World} (hkept : KeptButLeases before after) :
    HostKept before after :=
  ⟨hkept.hostConfig, hkept.pins, hkept.later⟩

theorem Kept.host {before after : World} (hkept : Kept before after) : HostKept before after :=
  hkept.butLeases.host

theorem HostKept.trans {first middle last : World} (hfirst : HostKept first middle)
    (hlast : HostKept middle last) : HostKept first last where
  hostConfig := hlast.hostConfig.trans hfirst.hostConfig
  pins := hlast.pins.trans hfirst.pins
  later := hfirst.later.trans hlast.later

/-! ## Removing -/

/-- The lease file has been removed. -/
abbrev Unlinked (leaseId : LeaseId) (site : UnlinkSite) (before after : World) : Prop :=
  Kept ((BrokerOp.unlinkLease leaseId site).effect before) after

theorem Kept.unlinked {leaseId : LeaseId} {site : UnlinkSite} (hfirst : Kept first world)
    (hunlinked : Unlinked leaseId site world after) : Unlinked leaseId site first after := by
  have heffect : Kept ((BrokerOp.unlinkLease leaseId site).effect first)
      ((BrokerOp.unlinkLease leaseId site).effect world) := by
    refine ⟨hfirst.hostConfig, hfirst.registry, ?_, hfirst.pins, ?_, hfirst.later⟩
    · simp [BrokerOp.effect, Store.dropLease, hfirst.leases]
    · simp [BrokerOp.effect, Store.lease?, hfirst.leases, hfirst.ledger]
  exact heffect.trans hunlinked

theorem Unlinked.butLeases {leaseId : LeaseId} {site : UnlinkSite} (hsite : site.releasedAt = none)
    (hunlinked : Unlinked leaseId site world after) : KeptButLeases world after := by
  refine ⟨hunlinked.hostConfig, hunlinked.registry, hunlinked.pins, ?_, hunlinked.later⟩
  rw [hunlinked.ledger]
  simp only [BrokerOp.effect, hsite]
  split <;> simp_all

theorem Unlinked.hostKept {leaseId : LeaseId} {site : UnlinkSite}
    (hunlinked : Unlinked leaseId site world after) : HostKept world after :=
  ⟨hunlinked.hostConfig, hunlinked.pins, hunlinked.later⟩

theorem safe_unlinkLease {leaseId : LeaseId} {site : UnlinkSite} (hfirst : Kept first world)
    (hspared : ¬ context.spared leaseId) :
    Safe context (perform (.unlinkLease leaseId site))
      (fun _ after => Unlinked leaseId site first after)
      (fun _ after => ¬ RecordsEnds context.surroundings ∧ Kept first after) world := by
  refine .op hspared (fun _ after _ hstill => hfirst.unlinked hstill.toKept) ?_
  rintro error after hmayFail - (hstill | ⟨hlate, -⟩)
  · exact ⟨Context.filesFail rfl hmayFail, hfirst.trans hstill.toKept⟩
  · simp [BrokerOp.mayFailLate] at hlate

/-- The path of a lease file passes its check. -/
theorem safe_assertLeaseArtifactPathAllowed {path : Option ArtifactPath}
    {E : BrokerError → World → Prop}
    (hallowed : path.all context.paths.artifactPathAllowed = true) :
    Safe context (assertLeaseArtifactPathAllowed context.paths path)
      (fun _ after => after = world) E world := by
  unfold assertLeaseArtifactPathAllowed
  cases path with
  | none => exact .pure rfl
  | some path =>
      simp only [Option.all_some] at hallowed
      simp only [hallowed, if_true]
      exact .pure rfl

theorem safe_unlinkArtifact {path : ArtifactPath} (hfirst : Kept first world) :
    Safe context (perform (.unlinkArtifact path)) (fun _ after => Kept first after)
      (fun _ after => ¬ RecordsEnds context.surroundings ∧ Kept first after) world := by
  have heffect := kept_effect (.unlinkArtifact path) rfl world
  refine .op trivial
    (fun _ after _ hstill => (hfirst.trans heffect).trans hstill.toKept) ?_
  rintro error after hmayFail - (hstill | ⟨hlate, -⟩)
  · exact ⟨Context.filesFail rfl hmayFail, hfirst.trans hstill.toKept⟩
  · simp [BrokerOp.mayFailLate] at hlate

theorem safe_removeArtifact {lease : Lease} (hfirst : Kept first world) :
    Safe context (removeArtifact lease) (fun _ after => Kept first after)
      (fun _ after => ¬ RecordsEnds context.surroundings ∧ Kept first after) world := by
  unfold removeArtifact
  cases lease.artifactPath with
  | none => exact .pure hfirst
  | some path => exact safe_unlinkArtifact hfirst

theorem safe_removeLeaseRecordFiles {lease : Lease} {site : UnlinkSite}
    (hallowed : lease.artifactPath.all context.paths.artifactPathAllowed = true)
    (hspared : ¬ context.spared lease.leaseId) :
    Safe context (removeLeaseRecordFiles context.paths lease site)
      (fun _ after => Unlinked lease.leaseId site world after)
      (fun _ after => ¬ RecordsEnds context.surroundings ∧
        (Kept world after ∨ Unlinked lease.leaseId site world after)) world := by
  unfold removeLeaseRecordFiles
  refine .seq (E := fun _ _ => False) (safe_assertLeaseArtifactPathAllowed hallowed)
    (fun _ _ _ h => h.elim) fun _ checked hchecked => ?_
  subst hchecked
  refine .seq (safe_unlinkLease (.refl _) hspared) (fun _ _ _ h => ⟨h.1, .inl h.2⟩)
    fun _ unlinked hunlinked => ?_
  refine (safe_removeArtifact (.refl unlinked)).weaken
    (fun _ _ _ h => hunlinked.trans h) fun _ _ _ h => ⟨h.1, .inr (hunlinked.trans h.2)⟩

theorem safe_removeLeaseArtifactFile {lease : Lease} (hfirst : Kept first world)
    (hallowed : lease.artifactPath.all context.paths.artifactPathAllowed = true) :
    Safe context (removeLeaseArtifactFile context.paths lease) (fun _ after => Kept first after)
      (fun _ after => ¬ RecordsEnds context.surroundings ∧ Kept first after) world := by
  unfold removeLeaseArtifactFile
  refine .seq (E := fun _ _ => False) (safe_assertLeaseArtifactPathAllowed hallowed)
    (fun _ _ _ h => h.elim) fun _ checked hchecked => ?_
  subst hchecked
  exact safe_removeArtifact hfirst

/-! ## Writing -/

/-- The lease file has been written. -/
abbrev LeaseWritten (record : Lease) (before after : World) : Prop :=
  Kept ((BrokerOp.rename (.lease record)).effect before) after

theorem LeaseWritten.butLeases {record : Lease} (hwritten : LeaseWritten record world after) :
    KeptButLeases world after :=
  ⟨hwritten.hostConfig, hwritten.registry, hwritten.pins, hwritten.ledger, hwritten.later⟩

theorem safe_readLeaseArtifact {lease : Lease} :
    Safe context (readLeaseArtifact lease) (fun _ after => Still world after)
      (fun _ after => Still world after ∧ Unpending context world) world := by
  unfold readLeaseArtifact
  cases lease.artifactPath with
  | none => exact .pure (.refl world)
  | some path =>
      exact (safe_read rfl (by simp)).weaken (fun _ _ _ h => h.2) fun _ _ _ h => h

/-- The snapshot holds what stands at the path of the lease file. -/
theorem safe_snapshotLeaseRecordFiles {lease : Lease} :
    Safe context (snapshotLeaseRecordFiles lease)
      (fun snapshot after => Still world after ∧ snapshot.leaseId = lease.leaseId ∧
        snapshot.canonical = world.store.lease? lease.leaseId)
      (fun _ after => Still world after ∧ Unpending context world) world := by
  unfold snapshotLeaseRecordFiles
  refine .seq safe_readLeaseArtifact (fun _ _ _ h => h) fun artifact read hread => ?_
  refine .seq (safe_read rfl (by simp))
    (fun _ _ _ h => ⟨hread.trans h.1, .of_kept hread.toKept h.2⟩)
    fun canonical second hsecond => ?_
  refine .pure ⟨hread.trans hsecond.2, rfl, ?_⟩
  rw [show canonical = read.store.lease? lease.leaseId from hsecond.1]
  simp [Store.lease?, hread.leases]

theorem safe_writeArtifact {path : ArtifactPath} {content : ArtifactContent}
    (hfirst : Kept first world) :
    Safe context (writeJsonAtomic (.artifact path content)) (fun _ after => Kept first after)
      (fun _ after => ¬ RecordsEnds context.surroundings ∧ Kept first after) world := by
  have heffect := kept_effect (.rename (.artifact path content)) rfl world
  have hok : StepOk context (.rename (.artifact path content)) world := trivial
  refine (safe_writeJsonAtomic hok).weaken ?_ ?_
  · exact fun _ _ _ hwritten => (hfirst.trans heffect).trans hwritten.toKept
  · exact fun _ _ _ h => ⟨h.1, hfirst.trans h.2.toKept⟩

theorem safe_writeJsonNoReplace {path : ArtifactPath} {record : Lease} (hfirst : Kept first world) :
    Safe context (writeJsonNoReplace path record) (fun _ after => Kept first after)
      (fun _ after => Kept first after) world := by
  have hcall : ∀ call (before : World), Kept first before →
      Safe context (perform (.fs call)) (fun _ after => Kept first after)
        (fun _ after => Kept first after) before := by
    intro call before hbefore
    exact (safe_fsCall (.refl before)).weaken (fun _ _ _ h => hbefore.trans h.toKept)
      fun _ _ _ h => hbefore.trans h.2.toKept
  unfold writeJsonNoReplace
  refine .seq (hcall _ _ hfirst) (fun _ _ _ h => h) fun _ dir hdir => ?_
  refine .ensuring (M := fun _ after => Kept first after) (E := fun _ after => Kept first after)
    ?_ (fun _ linked hlinked => hcall _ _ hlinked) fun _ failed hfailed => hcall _ _ hfailed
  refine .seq (hcall _ _ hdir) (fun _ _ _ h => h) fun _ temp htemp => ?_
  have heffect := kept_effect (.linkArtifact path record) rfl temp
  refine .op trivial (fun _ linked _ hstill => (htemp.trans heffect).trans hstill.toKept) ?_
  rintro error failed - - (hstill | ⟨hlate, -⟩)
  · exact htemp.trans hstill.toKept
  · simp [BrokerOp.mayFailLate] at hlate

/-- Only the link of a new artifact can fail where files do not fail. -/
theorem safe_writeLeaseArtifact {lease : Lease} {replaceArtifact : Bool}
    (hfirst : Kept first world) :
    Safe context (writeLeaseArtifact lease replaceArtifact) (fun _ after => Kept first after)
      (fun _ after => Kept first after ∧
        (replaceArtifact = true → ¬ RecordsEnds context.surroundings)) world := by
  unfold writeLeaseArtifact
  cases lease.artifactPath with
  | none => exact .pure hfirst
  | some path =>
      cases replaceArtifact with
      | true =>
          exact (safe_writeArtifact hfirst).weaken (fun _ _ _ h => h)
            fun _ _ _ h => ⟨h.2, fun _ => h.1⟩
      | false =>
          refine .catch (safe_writeJsonNoReplace hfirst) fun error failed hfailed => ?_
          cases error.alreadyExists with
          | true => exact .throw ⟨hfailed, by simp⟩
          | false => exact .throw ⟨hfailed, by simp⟩

theorem LeaseWriteOk.stepOk {record : Lease} (hok : LeaseWriteOk context world record) :
    StepOk context (.rename (.lease record)) world :=
  hok

/-- What was at the path of the lease file may be written back. -/
theorem restoreOk {record lease : Lease} (hinvariant : Invariant context world)
    (hwrite : LeaseWriteOk context world lease)
    (hcanonical : world.store.lease? lease.leaseId = some record)
    (hwritten : LeaseWritten lease world after) : LeaseWriteOk context after record := by
  have hdisk : record ∈ world.store.leases := List.mem_of_find?_eq_some hcanonical
  have hid : record.leaseId = lease.leaseId := by simpa using List.find?_some hcanonical
  refine ⟨?_, hinvariant.owned record hdisk, hinvariant.leaseArtifacts record hdisk, ?_, ?_, ?_⟩
  · exact (hinvariant.ownerSince record hdisk).trans hwritten.later.clock
  · rw [hid]
    exact hwrite.rolledBack
  · intro hspared
    obtain ⟨alive, haliveId, halive⟩ := hinvariant.spared record.leaseId hspared
    rw [← eq_of_nodup_map hinvariant.leaseIds halive.onDisk hdisk haliveId]
    exact halive.since
  · refine .inl ⟨lease, hwritten.leases ▸ mem_setLease.mpr (.inl rfl), ?_⟩
    obtain ⟨old, hold, hrewrites⟩ | hplaces := hwrite.placed
    · rw [← eq_of_nodup_map hinvariant.leaseIds hold hdisk (hrewrites.leaseId.trans hid.symm)]
      exact hrewrites.symm
    · exact absurd hid (hplaces.free record hdisk).2

theorem safe_restoreLeaseRecordFiles {snapshot : LeaseFilesSnapshot}
    (hspared : snapshot.canonical = none → ¬ context.spared snapshot.leaseId)
    (hok : ∀ record, snapshot.canonical = some record → LeaseWriteOk context world record) :
    Safe context (restoreLeaseRecordFiles snapshot)
      (fun _ after =>
        (∃ record, snapshot.canonical = some record ∧ LeaseWritten record world after) ∨
        snapshot.canonical = none ∧ Unlinked snapshot.leaseId .rollback world after)
      (fun _ after => ¬ RecordsEnds context.surroundings ∧ KeptButLeases world after) world := by
  have hartifact : ∀ restored, KeptButLeases world restored →
      Safe context (restoreArtifactFile snapshot) (fun _ after => Kept restored after)
        (fun _ after => ¬ RecordsEnds context.surroundings ∧ KeptButLeases world after)
        restored := by
    intro restored hrestored
    unfold restoreArtifactFile
    cases snapshot.artifactPath with
    | none => exact .pure (.refl restored)
    | some path =>
        cases snapshot.artifact with
        | some content =>
            exact (safe_writeArtifact (.refl restored)).weaken (fun _ _ _ h => h)
              fun _ _ _ h => ⟨h.1, hrestored.trans h.2.butLeases⟩
        | none =>
            exact (safe_unlinkArtifact (.refl restored)).weaken (fun _ _ _ h => h)
              fun _ _ _ h => ⟨h.1, hrestored.trans h.2.butLeases⟩
  unfold restoreLeaseRecordFiles
  cases hcanonical : snapshot.canonical with
  | some record =>
      refine .seq (safe_writeJsonAtomicRestricted (hok record hcanonical).stepOk) ?_
        fun _ restored hrestored => ?_
      · rintro error failed - ⟨hfails, hstill | hwritten⟩
        · exact ⟨hfails, hstill.toKept.butLeases⟩
        · exact ⟨hfails, LeaseWritten.butLeases hwritten.toKept⟩
      · have hwritten : LeaseWritten record world restored := hrestored.toKept
        exact (hartifact restored hwritten.butLeases).weaken
          (fun _ _ _ h => .inl ⟨record, rfl, hwritten.trans h⟩) fun _ _ _ h => h
  | none =>
      refine .seq (safe_unlinkLease (.refl world) (hspared hcanonical))
        (fun _ _ _ h => ⟨h.1, h.2.butLeases⟩) fun _ restored hrestored => ?_
      exact (hartifact restored (hrestored.butLeases rfl)).weaken
        (fun _ _ _ h => .inr ⟨rfl, hrestored.trans h⟩) fun _ _ _ h => h

/-- The record is written, or only lease files and artifacts have changed. -/
theorem safe_writeLeaseRecord {lease : Lease} {replaceArtifact : Bool}
    (hok : lease.artifactPath.all context.paths.artifactPathAllowed = true →
      LeaseWriteOk context world lease)
    (hallowed : replaceArtifact = true →
      lease.artifactPath.all context.paths.artifactPathAllowed = true) :
    Safe context (writeLeaseRecord context.paths lease replaceArtifact)
      (fun _ after => LeaseWritten lease world after)
      (fun _ after => KeptButLeases world after ∧
        (replaceArtifact = true → Unpending context world)) world := by
  refine .assume fun hinvariant => ?_
  unfold writeLeaseRecord
  refine .seq (M := fun _ after => after = world ∧
      lease.artifactPath.all context.paths.artifactPathAllowed = true)
    (E := fun _ after => after = world ∧
      ¬ lease.artifactPath.all context.paths.artifactPathAllowed = true) ?_ ?_
    fun _ checked hchecked => ?_
  · by_cases hpath : lease.artifactPath.all context.paths.artifactPathAllowed = true
    · exact (safe_assertLeaseArtifactPathAllowed (E := fun _ _ => False) hpath).weaken
        (fun _ _ _ h => ⟨h, hpath⟩) fun _ _ _ h => h.elim
    · cases hartifact : lease.artifactPath with
      | none => simp [hartifact] at hpath
      | some path =>
          simp only [hartifact, Option.all_some] at hpath ⊢
          simp only [assertLeaseArtifactPathAllowed, hpath]
          exact .throw ⟨rfl, by simp⟩
  · rintro error failed - ⟨rfl, hpath⟩
    exact ⟨(Kept.refl failed).butLeases, fun hreplace => absurd (hallowed hreplace) hpath⟩
  obtain ⟨rfl, hpath⟩ := hchecked
  replace hok := hok hpath
  refine .seq safe_snapshotLeaseRecordFiles
    (fun _ _ _ h => ⟨h.1.toKept.butLeases, fun _ => h.2⟩) fun snapshot read hread => ?_
  obtain ⟨hstill, hsnapshotId, hcanonical⟩ := hread
  refine .seq (safe_writeJsonAtomicRestricted (hstill.leaseWriteOk hok).stepOk) ?_
    fun _ written hwritten => ?_
  · rintro error failed - ⟨hfails, hnone | hwritten⟩
    · exact ⟨(hstill.trans hnone).toKept.butLeases, fun _ => .of_fails hfails⟩
    · exact ⟨hstill.toKept.butLeases.trans (LeaseWritten.butLeases hwritten.toKept),
        fun _ => .of_fails hfails⟩
  have hlease : LeaseWritten lease checked written := (hstill.written hwritten).toKept
  refine .catch (safe_writeLeaseArtifact hlease) fun error failed hfailed => ?_
  obtain ⟨hfailed, hfails⟩ := hfailed
  have hrestore : Safe context (restoreLeaseRecordFiles snapshot)
      (fun _ after => KeptButLeases checked after) (fun _ after => KeptButLeases checked after)
      failed := by
    refine (safe_restoreLeaseRecordFiles ?_ ?_).weaken ?_
      fun _ _ _ h => (LeaseWritten.butLeases hfailed).trans h.2
    · intro hnone hspared
      rw [hsnapshotId] at hspared
      obtain ⟨alive, haliveId, halive⟩ := hinvariant.spared lease.leaseId hspared
      rw [hcanonical] at hnone
      have habsent := List.find?_eq_none.mp hnone alive halive.onDisk
      simp [haliveId] at habsent
    · intro record hrecord
      exact restoreOk hinvariant hok (hcanonical ▸ hrecord) hfailed
    · rintro _ restored - (⟨record, -, hrecord⟩ | ⟨-, hunlinked⟩)
      · exact (LeaseWritten.butLeases hfailed).trans (LeaseWritten.butLeases hrecord)
      · exact (LeaseWritten.butLeases hfailed).trans (hunlinked.butLeases rfl)
  refine .seq (E := fun _ _ => False) (safe_ignoringErrors hrestore) (fun _ _ _ h => h.elim)
    fun _ restored hrestored => ?_
  exact .throw ⟨hrestored, fun hreplace => .of_fails (hfails hreplace)⟩

end SimulatorBroker.Safety
