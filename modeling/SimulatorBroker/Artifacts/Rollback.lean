import SimulatorBroker.Artifacts.Writes

/-!
# Failed lease writes

A failed write restores both files from what it parsed before.  The files are as they were
exactly when no step between the rename of the canonical file and the write of the artifact
fails, and the files that were there hold the bytes that parsing and writing them again gives.
-/

namespace SimulatorBroker.Artifacts

open SimulatorBroker.Text SimulatorBroker.Paths

/-! ## What a failed write leaves -/

variable (faults : Faults) (overlap : Option ArtifactOverlap) (leaseRecord : Value)
  (artifactPath replaceArtifact : Bool) (disk : Disk)

/-- A write that throws, with every restoring step done, leaves both files as they were. -/
def RestoresFiles : Prop :=
  ∀ error after, writeLeaseRecord faults overlap leaseRecord artifactPath replaceArtifact disk
      = (.error error, after) →
    error.restoreError = none → after.files = disk.files

/-- A write that throws and may not replace the artifact leaves a file that was there alone. -/
def KeepsArtifact : Prop :=
  ∀ error after, writeLeaseRecord faults overlap leaseRecord artifactPath replaceArtifact disk
      = (.error error, after) →
    replaceArtifact = false → (disk.files .artifact).isSome = true →
      after.files .artifact = disk.files .artifact

/-! ## The condition -/

/-- None of the steps fails. -/
def Faults.Spare (attempt : Attempt) (target : Target) (steps : List FileStep) : Prop :=
  ∀ step ∈ steps, faults ⟨attempt, target, step⟩ = none

/-- The bytes that reading a file and writing it again gives. -/
def rewritten (content : Option Bytes) : Option Bytes :=
  content.bind fun bytes => (parse (decode bytes)).map jsonBytes

/-- A file is absent, or can be read and holds JSON. -/
def Readable (target : Target) (content : Option Bytes) : Prop :=
  ∀ bytes, content = some bytes →
    faults ⟨.write, target, .read⟩ = none ∧ (parse (decode bytes)).isSome = true

/-- The canonical file is replaced. -/
structure CanonicalReplaced : Prop where
  allowed : overlap = none
  artifactReadable : artifactPath = true → Readable faults .artifact (disk.files .artifact)
  canonicalReadable : Readable faults .canonical (disk.files .canonical)
  written : faults.Spare .write .canonical
    [.makeDirectory, .writeTemporary, .restrictTemporary, .rename]

/-- The artifact is linked to its path. -/
structure ArtifactLinked : Prop where
  absent : disk.files .artifact = none
  spared : faults.Spare .write .artifact [.makeDirectory, .writeTemporary, .link]

/-- The write of the artifact fails. -/
def ArtifactFails : Prop :=
  artifactPath = true ∧
    if replaceArtifact then
      ¬ faults.Spare .write .artifact [.makeDirectory, .writeTemporary, .rename]
    else
      ¬ (ArtifactLinked faults disk ∧ faults.Spare .write .artifact [.removeTemporary])

/-- Every step of the restoring succeeds. -/
structure Restorable : Prop where
  canonical :
    if (disk.files .canonical).isSome then
      faults.Spare .restore .canonical
        [.makeDirectory, .writeTemporary, .restrictTemporary, .rename, .restrict]
    else faults.Spare .restore .canonical [.remove]
  artifact :
    if (disk.files .artifact).isSome then
      faults.Spare .restore .artifact [.makeDirectory, .writeTemporary, .rename]
    else
      replaceArtifact = false → ArtifactLinked faults disk →
        faults.Spare .restore .artifact [.remove]

/-- Once the canonical file is replaced, its last step does not fail unless the file held the
same bytes; and where the artifact then fails and all is restored, both files are unchanged by
reading and writing them again. -/
def Restoring : Prop :=
  CanonicalReplaced faults overlap artifactPath disk →
    (faults ⟨.write, .canonical, .restrict⟩ ≠ none →
        disk.files .canonical = some (jsonBytes leaseRecord)) ∧
    (faults ⟨.write, .canonical, .restrict⟩ = none →
      ArtifactFails faults artifactPath replaceArtifact disk →
        Restorable faults replaceArtifact disk →
          rewritten (disk.files .canonical) = disk.files .canonical ∧
            rewritten (disk.files .artifact) = disk.files .artifact)

/-! ## One step, one write -/

section

variable {faults}

theorem perform_spared {step : Step} (hspared : faults step = none) (effect : Disk → Disk)
    (disk : Disk) : perform faults step effect disk = (.ok (), effect disk) := by
  simp [perform, hspared]

theorem perform_failing {step : Step} {failure : Failure} (hfails : faults step = some failure)
    (effect : Disk → Disk) (disk : Disk) :
    perform faults step effect disk = (.error (.step step failure), disk) := by
  simp [perform, hfails]

theorem Faults.spare_nil (attempt : Attempt) (target : Target) : faults.Spare attempt target [] :=
  fun _ hmem => nomatch hmem

theorem Faults.spare_cons {attempt : Attempt} {target : Target} {step : FileStep}
    {steps : List FileStep} :
    faults.Spare attempt target (step :: steps) ↔
      faults ⟨attempt, target, step⟩ = none ∧ faults.Spare attempt target steps :=
  List.forall_mem_cons

end

/-- A write that replaces a file exactly when its steps are spared. -/
def Replaces (outcome : Except Cause Unit × Disk) (spared : Prop) (target : Target)
    (content : Option Bytes) : Prop :=
  (spared ∧ outcome.1 = .ok () ∧ outcome.2.files = Function.update disk.files target content)
    ∨ (¬ spared ∧ (∃ error, outcome.1 = .error error) ∧ outcome.2.files = disk.files)

theorem files_rename_setTemporary (attempt : Attempt) (target : Target) (content : Option Bytes) :
    ((disk.setTemporary attempt target content).rename attempt target).files =
      Function.update disk.files target content := by
  simp [Disk.rename, Disk.setTemporary, Disk.setFile]

theorem replaces_writeJsonAtomic (attempt : Attempt) (target : Target) (payload : Value) :
    Replaces disk (writeJsonAtomic faults attempt target payload disk)
      (faults.Spare attempt target [.makeDirectory, .writeTemporary, .rename]) target
      (some (jsonBytes payload)) := by
  simp only [Replaces, Faults.spare_cons, Faults.spare_nil, and_true, writeJsonAtomic,
    FileM.bind_apply]
  cases hdirectory : faults ⟨attempt, target, .makeDirectory⟩ with
  | some failure => simp [perform, hdirectory]
  | none =>
      cases htemporary : faults ⟨attempt, target, .writeTemporary⟩ with
      | some failure => simp [perform, hdirectory, htemporary]
      | none =>
          cases hrename : faults ⟨attempt, target, .rename⟩ with
          | some failure => simp [perform, hdirectory, htemporary, hrename, Disk.setTemporary]
          | none =>
              simp [perform, hdirectory, htemporary, hrename, files_rename_setTemporary]

/-- A restricted write: the steps up to the rename decide whether the file is replaced, and the
last step whether the write throws. -/
theorem writeJsonAtomicRestricted_cases (attempt : Attempt) (target : Target) (payload : Value) :
    let outcome := writeJsonAtomicRestricted faults attempt target payload disk
    let spared := faults.Spare attempt target
      [.makeDirectory, .writeTemporary, .restrictTemporary, .rename]
    let restricted := faults ⟨attempt, target, .restrict⟩ = none
    (spared ∧ (restricted ∧ outcome.1 = .ok () ∨ ¬ restricted ∧ ∃ error, outcome.1 = .error error)
        ∧ outcome.2.files = Function.update disk.files target (some (jsonBytes payload)))
      ∨ (¬ spared ∧ (∃ error, outcome.1 = .error error) ∧ outcome.2.files = disk.files) := by
  simp only [Faults.spare_cons, Faults.spare_nil, and_true, writeJsonAtomicRestricted,
    FileM.bind_apply]
  cases hdirectory : faults ⟨attempt, target, .makeDirectory⟩ with
  | some failure => simp [perform, hdirectory]
  | none =>
      cases htemporary : faults ⟨attempt, target, .writeTemporary⟩ with
      | some failure => simp [perform, hdirectory, htemporary]
      | none =>
          cases hprivate : faults ⟨attempt, target, .restrictTemporary⟩ with
          | some failure => simp [perform, hdirectory, htemporary, hprivate, Disk.setTemporary]
          | none =>
              cases hrename : faults ⟨attempt, target, .rename⟩ with
              | some failure =>
                  simp [perform, hdirectory, htemporary, hprivate, hrename, Disk.setTemporary]
              | none =>
                  cases hrestrict : faults ⟨attempt, target, .restrict⟩ <;>
                    simp [perform, hdirectory, htemporary, hprivate, hrename, hrestrict,
                      files_rename_setTemporary]

theorem replaces_removeIfExists (attempt : Attempt) (target : Target) :
    Replaces disk (removeIfExists faults attempt target disk)
      ((disk.files target).isSome = true → faults.Spare attempt target [.remove]) target none := by
  simp only [Replaces, Faults.spare_cons, Faults.spare_nil, and_true, removeIfExists,
    FileM.bind_apply, FileM.get_apply]
  cases hfile : disk.files target with
  | none =>
      left
      refine ⟨by simp, by simp, ?_⟩
      simpa using (Function.update_eq_self_iff.2 hfile.symm).symm
  | some bytes =>
      cases hremove : faults ⟨attempt, target, .remove⟩ <;>
        simp [perform, hremove, Disk.setFile]

theorem removeTemporary_cases (attempt : Attempt) (target : Target) :
    let outcome := removeTemporary faults attempt target disk
    outcome.2.files = disk.files ∧
      (outcome.1 = .ok () ∧ ((disk.temporary attempt target).isSome = true →
          faults.Spare attempt target [.removeTemporary])
        ∨ (∃ error, outcome.1 = .error error)
          ∧ ¬ faults.Spare attempt target [.removeTemporary]) := by
  simp only [removeTemporary, FileM.bind_apply, FileM.get_apply, Faults.spare_cons,
    Faults.spare_nil, and_true]
  cases htemporary : disk.temporary attempt target with
  | none => simp
  | some content =>
      cases hremove : faults ⟨attempt, target, .removeTemporary⟩ <;>
        simp [perform, hremove, Disk.setTemporary]

/-- Where the work failed, so does the work with its cleaning up. -/
theorem ensuring_removeTemporary_error {work : FileM Cause Unit} {error : Cause} {reached : Disk}
    (attempt : Attempt) (target : Target) (hwork : work disk = (.error error, reached)) :
    let outcome := FileM.ensuring work (removeTemporary faults attempt target) disk
    (∃ error, outcome.1 = .error error) ∧ outcome.2.files = reached.files := by
  obtain ⟨hfiles, hends⟩ := removeTemporary_cases faults reached attempt target
  simp only [FileM.ensuring, hwork]
  cases hcleanup : removeTemporary faults attempt target reached with
  | mk result after =>
      rw [hcleanup] at hfiles
      cases result with
      | ok value => exact ⟨⟨_, rfl⟩, hfiles⟩
      | error error => exact ⟨⟨_, rfl⟩, hfiles⟩

/-- Where the work is done and its temporary file is there, the cleaning up decides. -/
theorem ensuring_removeTemporary_ok {work : FileM Cause Unit} {reached : Disk}
    (attempt : Attempt) (target : Target) (hwork : work disk = (.ok (), reached))
    (htemporary : (reached.temporary attempt target).isSome = true) :
    let outcome := FileM.ensuring work (removeTemporary faults attempt target) disk
    (faults.Spare attempt target [.removeTemporary] ∧ outcome.1 = .ok ()
        ∨ ¬ faults.Spare attempt target [.removeTemporary] ∧ ∃ error, outcome.1 = .error error)
      ∧ outcome.2.files = reached.files := by
  obtain ⟨hfiles, hends⟩ := removeTemporary_cases faults reached attempt target
  simp only [FileM.ensuring, hwork]
  cases hcleanup : removeTemporary faults attempt target reached with
  | mk result after =>
      rw [hcleanup] at hfiles hends
      rcases hends with ⟨rfl, hspared⟩ | ⟨⟨error, rfl⟩, hfails⟩
      · exact ⟨Or.inl ⟨hspared htemporary, rfl⟩, hfiles⟩
      · exact ⟨Or.inr ⟨hfails, error, rfl⟩, hfiles⟩

/-- A write that does not replace: it links the file or leaves it, and throws unless it linked
the file and removed its temporary file. -/
theorem writeJsonNoReplace_cases (payload : Value) :
    let outcome := writeJsonNoReplace faults .write .artifact payload disk
    (ArtifactLinked faults disk
        ∧ (faults.Spare .write .artifact [.removeTemporary] ∧ outcome.1 = .ok ()
          ∨ ¬ faults.Spare .write .artifact [.removeTemporary] ∧ ∃ error, outcome.1 = .error error)
        ∧ outcome.2.files = Function.update disk.files .artifact (some (jsonBytes payload)))
      ∨ (¬ ArtifactLinked faults disk ∧ (∃ error, outcome.1 = .error error)
        ∧ outcome.2.files = disk.files) := by
  have hlinked : ArtifactLinked faults disk ↔ disk.files .artifact = none ∧
      faults ⟨.write, .artifact, .makeDirectory⟩ = none ∧
        faults ⟨.write, .artifact, .writeTemporary⟩ = none ∧
          faults ⟨.write, .artifact, .link⟩ = none := by
    constructor
    · rintro ⟨habsent, hspared⟩
      simp only [Faults.spare_cons] at hspared
      exact ⟨habsent, hspared.1, hspared.2.1, hspared.2.2.1⟩
    · rintro ⟨habsent, hdirectory, htemporary, hlink⟩
      refine ⟨habsent, ?_⟩
      simp only [Faults.spare_cons]
      exact ⟨hdirectory, htemporary, hlink, Faults.spare_nil _ _⟩
  rw [hlinked]
  unfold writeJsonNoReplace
  simp only [FileM.bind_apply]
  cases hdirectory : faults ⟨.write, .artifact, .makeDirectory⟩ with
  | some failure => simp [perform, hdirectory]
  | none =>
      rw [perform_spared hdirectory]
      dsimp only
      cases htemporary : faults ⟨.write, .artifact, .writeTemporary⟩ with
      | some failure =>
          obtain ⟨hthrows, hfiles⟩ := ensuring_removeTemporary_error faults disk .write .artifact
            (FileM.bind_error (perform_failing htemporary _ disk) fun _ =>
              linkSync faults .write .artifact)
          exact Or.inr ⟨by simp, hthrows, hfiles⟩
      | none =>
          have hwritten := perform_spared htemporary
            (fun disk => disk.setTemporary .write .artifact (some (jsonBytes payload))) disk
          have hwork := FileM.bind_ok hwritten fun _ => linkSync faults .write .artifact
          cases hfile : disk.files .artifact with
          | some bytes =>
              have hlink : linkSync faults .write .artifact
                  (disk.setTemporary .write .artifact (some (jsonBytes payload))) =
                    (.error (.step ⟨.write, .artifact, .link⟩ .eexist),
                      disk.setTemporary .write .artifact (some (jsonBytes payload))) := by
                simp [linkSync, FileM.bind_apply, Disk.setTemporary, hfile]
              obtain ⟨hthrows, hfiles⟩ := ensuring_removeTemporary_error faults disk .write
                .artifact (hwork.trans hlink)
              exact Or.inr ⟨by simp, hthrows, hfiles⟩
          | none =>
              cases hfault : faults ⟨.write, .artifact, .link⟩ with
              | some failure =>
                  have hlink : linkSync faults .write .artifact
                      (disk.setTemporary .write .artifact (some (jsonBytes payload))) =
                        (.error (.step ⟨.write, .artifact, .link⟩ failure),
                          disk.setTemporary .write .artifact (some (jsonBytes payload))) := by
                    simp [linkSync, FileM.bind_apply, Disk.setTemporary, hfile, perform, hfault]
                  obtain ⟨hthrows, hfiles⟩ := ensuring_removeTemporary_error faults disk .write
                    .artifact (hwork.trans hlink)
                  exact Or.inr ⟨by simp, hthrows, hfiles⟩
              | none =>
                  have hlink : linkSync faults .write .artifact
                      (disk.setTemporary .write .artifact (some (jsonBytes payload))) =
                        (.ok (), (disk.setTemporary .write .artifact
                          (some (jsonBytes payload))).setFile .artifact
                            (some (jsonBytes payload))) := by
                    simp [linkSync, FileM.bind_apply, Disk.setTemporary, hfile, perform, hfault]
                  obtain ⟨hends, hfiles⟩ := ensuring_removeTemporary_ok faults disk
                    .write .artifact (hwork.trans hlink) (by simp [Disk.setFile, Disk.setTemporary])
                  exact Or.inl ⟨by simp, hends, hfiles⟩

/-! ## Reading what was there -/

theorem readIfExists_cases (target : Target) :
    (Readable faults target (disk.files target)
        ∧ ∃ record, readIfExists faults target disk = (.ok record, disk)
          ∧ record.isSome = (disk.files target).isSome
          ∧ record.map jsonBytes = rewritten (disk.files target))
      ∨ (¬ Readable faults target (disk.files target)
        ∧ ∃ error, readIfExists faults target disk = (.error error, disk)) := by
  simp only [readIfExists, FileM.bind_apply, FileM.get_apply, Readable]
  cases hfile : disk.files target with
  | none => exact Or.inl ⟨by simp, none, by simp, rfl, rfl⟩
  | some bytes =>
      cases hread : faults ⟨.write, target, .read⟩ with
      | some failure => simp [FileM.bind_apply, perform, hread]
      | none =>
          cases hparse : parse (decode bytes) with
          | none => simp [FileM.bind_apply, perform, hread, hparse]
          | some value =>
              refine Or.inl ⟨by simp [hparse], some value, ?_, rfl, ?_⟩
              · simp [FileM.bind_apply, perform, hread, hparse]
              · simp [rewritten, hparse]

/-- What the snapshot holds when it is taken. -/
structure Snapshotted (snapshot : Snapshot) : Prop where
  artifactPath_eq : snapshot.artifactPath = artifactPath
  artifact_isSome : artifactPath = true →
    snapshot.artifactRecord.isSome = (disk.files .artifact).isSome
  artifact_rewritten : artifactPath = true →
    snapshot.artifactRecord.map jsonBytes = rewritten (disk.files .artifact)
  canonical_isSome : snapshot.canonicalRecord.isSome = (disk.files .canonical).isSome
  canonical_rewritten : snapshot.canonicalRecord.map jsonBytes = rewritten (disk.files .canonical)

theorem snapshotLeaseRecordFiles_cases :
    ((artifactPath = true → Readable faults .artifact (disk.files .artifact))
        ∧ Readable faults .canonical (disk.files .canonical)
        ∧ ∃ snapshot, snapshotLeaseRecordFiles faults artifactPath disk = (.ok snapshot, disk)
          ∧ Snapshotted artifactPath disk snapshot)
      ∨ (¬ ((artifactPath = true → Readable faults .artifact (disk.files .artifact))
          ∧ Readable faults .canonical (disk.files .canonical))
        ∧ ∃ error, snapshotLeaseRecordFiles faults artifactPath disk = (.error error, disk)) := by
  have hcanonical := readIfExists_cases faults disk .canonical
  unfold snapshotLeaseRecordFiles
  cases artifactPath with
  | false =>
      rcases hcanonical with ⟨hreadable, record, hread, hsome, hbytes⟩ | ⟨hfails, error, hread⟩
      · refine Or.inl ⟨by simp, hreadable,
          { artifactPath := false, artifactRecord := none, canonicalRecord := record },
          by simp [FileM.bind_apply, hread], ?_⟩
        exact ⟨rfl, by simp, by simp, hsome, hbytes⟩
      · exact Or.inr ⟨fun h => hfails h.2, error, by simp [FileM.bind_apply, hread]⟩
  | true =>
      rcases readIfExists_cases faults disk .artifact with
        ⟨hartifact, artifact, hreadArtifact, hsomeArtifact, hbytesArtifact⟩ | ⟨hfails, error, hread⟩
      · rcases hcanonical with ⟨hreadable, record, hread, hsome, hbytes⟩ | ⟨hfails, error, hread⟩
        · refine Or.inl ⟨fun _ => hartifact, hreadable,
            { artifactPath := true, artifactRecord := artifact, canonicalRecord := record },
            by simp [FileM.bind_apply, hreadArtifact, hread], ?_⟩
          exact ⟨rfl, fun _ => hsomeArtifact, fun _ => hbytesArtifact, hsome, hbytes⟩
        · exact Or.inr ⟨fun h => hfails h.2, error, by simp [FileM.bind_apply, hreadArtifact, hread]⟩
      · exact Or.inr ⟨fun h => hfails (h.1 rfl), error, by simp [FileM.bind_apply, hread]⟩

/-! ## Restoring -/

section

variable {disk} {snapshot : Snapshot} {broken : Disk}

/-- The first half of a restoring: the canonical file, which the failed write replaced. -/
theorem restoreCanonical_cases (hsnapshot : Snapshotted true disk snapshot)
    (hwritten : (broken.files .canonical).isSome = true) :
    let outcome := restoreCanonicalFile faults snapshot broken
    let spared :=
      if (disk.files .canonical).isSome then
        faults.Spare .restore .canonical
          [.makeDirectory, .writeTemporary, .restrictTemporary, .rename, .restrict]
      else faults.Spare .restore .canonical [.remove]
    (spared ∧ outcome.1 = .ok () ∧
        outcome.2.files =
          Function.update broken.files .canonical (rewritten (disk.files .canonical)))
      ∨ (¬ spared ∧ (∃ error, outcome.1 = .error error)
        ∧ outcome.2.files .artifact = broken.files .artifact) := by
  have hsome := hsnapshot.canonical_isSome
  rw [← hsnapshot.canonical_rewritten]
  unfold restoreCanonicalFile
  cases hrecord : snapshot.canonicalRecord with
  | none =>
      have habsent : (disk.files .canonical).isSome = false := by rw [← hsome, hrecord]; rfl
      simp only [habsent, Option.map_none]
      rcases replaces_removeIfExists faults broken .restore .canonical with
        ⟨hspared, hok, hfiles⟩ | ⟨hfails, herror, hfiles⟩
      · exact Or.inl ⟨hspared hwritten, hok, hfiles⟩
      · exact Or.inr ⟨fun hspared => hfails fun _ => hspared, herror, by rw [hfiles]⟩
  | some record =>
      have hpresent : (disk.files .canonical).isSome = true := by rw [← hsome, hrecord]; rfl
      have hspare : faults.Spare .restore .canonical
          [.makeDirectory, .writeTemporary, .restrictTemporary, .rename, .restrict] ↔
            faults.Spare .restore .canonical
              [.makeDirectory, .writeTemporary, .restrictTemporary, .rename] ∧
              faults ⟨.restore, .canonical, .restrict⟩ = none := by
        simp only [Faults.spare_cons, Faults.spare_nil, and_true, and_assoc]
      simp only [hpresent, if_true, Option.map_some, hspare]
      rcases writeJsonAtomicRestricted_cases faults broken .restore .canonical record with
        ⟨hspared, ⟨hrestricted, hok⟩ | ⟨hfails, herror⟩, hfiles⟩ | ⟨hfails, herror, hfiles⟩
      · exact Or.inl ⟨⟨hspared, hrestricted⟩, hok, hfiles⟩
      · exact Or.inr ⟨fun h => hfails h.2, herror, by simp [hfiles]⟩
      · exact Or.inr ⟨fun h => hfails h.1, herror, by rw [hfiles]⟩

/-- The second half: the artifact, which is there when the failed write linked it. -/
theorem restoreArtifact_cases (hsnapshot : Snapshotted true disk snapshot)
    (hlinked : disk.files .artifact = none →
      ((broken.files .artifact).isSome = true ↔
        replaceArtifact = false ∧ ArtifactLinked faults disk)) :
    Replaces broken (restoreArtifactFile faults snapshot broken)
      (if (disk.files .artifact).isSome then
        faults.Spare .restore .artifact [.makeDirectory, .writeTemporary, .rename]
      else
        replaceArtifact = false → ArtifactLinked faults disk →
          faults.Spare .restore .artifact [.remove])
      .artifact (rewritten (disk.files .artifact)) := by
  have hsome := hsnapshot.artifact_isSome rfl
  rw [← hsnapshot.artifact_rewritten rfl, restoreArtifactFile, hsnapshot.artifactPath_eq,
    if_pos rfl]
  cases hrecord : snapshot.artifactRecord with
  | none =>
      have habsent : disk.files .artifact = none := by
        rw [hrecord] at hsome
        simpa using hsome.symm
      have hremoved := replaces_removeIfExists faults broken .restore .artifact
      rw [hlinked habsent, and_imp] at hremoved
      simpa [habsent] using hremoved
  | some record =>
      have hpresent : (disk.files .artifact).isSome = true := by rw [← hsome, hrecord]; rfl
      simp only [hpresent, if_true, Option.map_some]
      exact replaces_writeJsonAtomic faults broken .restore .artifact record

/-- A restoring that gets to its end leaves what was read, written again; one that does not has
not reached an artifact that was there. -/
theorem restoreLeaseRecordFiles_cases (hsnapshot : Snapshotted true disk snapshot)
    (hwritten : (broken.files .canonical).isSome = true)
    (hlinked : disk.files .artifact = none →
      ((broken.files .artifact).isSome = true ↔
        replaceArtifact = false ∧ ArtifactLinked faults disk)) :
    let outcome := restoreLeaseRecordFiles faults snapshot broken
    (Restorable faults replaceArtifact disk ∧ outcome.1 = .ok ()
        ∧ outcome.2.files .canonical = rewritten (disk.files .canonical)
        ∧ outcome.2.files .artifact = rewritten (disk.files .artifact))
      ∨ (¬ Restorable faults replaceArtifact disk ∧ (∃ error, outcome.1 = .error error)
        ∧ outcome.2.files .artifact = broken.files .artifact) := by
  have hboth : Restorable faults replaceArtifact disk ↔ _ ∧ _ :=
    ⟨fun h => ⟨h.canonical, h.artifact⟩, fun h => ⟨h.1, h.2⟩⟩
  rw [hboth, restoreLeaseRecordFiles, FileM.bind_apply]
  rcases hfirst : restoreCanonicalFile faults snapshot broken with ⟨result, reached⟩
  have hcanonical := restoreCanonical_cases faults hsnapshot hwritten
  simp only [hfirst] at hcanonical
  rcases hcanonical with ⟨hspared, rfl, hfiles⟩ | ⟨hfails, ⟨error, rfl⟩, hfiles⟩
  · have hreached : reached.files .artifact = broken.files .artifact := by simp [hfiles]
    rw [← hreached] at hlinked
    rcases restoreArtifact_cases faults replaceArtifact hsnapshot hlinked with ⟨hspared', hok, hfiles'⟩ | ⟨hfails, herror, hfiles'⟩
    · exact Or.inl ⟨⟨hspared, hspared'⟩, hok, by simp [hfiles', hfiles], by simp [hfiles']⟩
    · exact Or.inr ⟨fun h => hfails h.2, herror, by rw [hfiles', hreached]⟩
  · exact Or.inr ⟨fun h => hfails h.1, ⟨error, rfl⟩, hfiles⟩

end

/-! ## The whole write -/

theorem ArtifactLinked.congr {faults : Faults} {disk broken : Disk}
    (hkept : broken.files .artifact = disk.files .artifact) :
    ArtifactLinked faults broken ↔ ArtifactLinked faults disk :=
  ⟨fun h => ⟨hkept ▸ h.absent, h.spared⟩, fun h => ⟨hkept ▸ h.absent, h.spared⟩⟩

theorem writeLeaseArtifact_ok {broken reached : Disk}
    (hwrite : writeJsonNoReplace faults .write .artifact leaseRecord broken = (.ok (), reached)) :
    writeLeaseArtifact faults leaseRecord false broken = (.ok (), reached) := by
  simp [writeLeaseArtifact, FileM.catching, hwrite]

theorem writeLeaseArtifact_error {broken reached : Disk} {error : Cause}
    (hwrite : writeJsonNoReplace faults .write .artifact leaseRecord broken =
      (.error error, reached)) :
    ∃ thrown, writeLeaseArtifact faults leaseRecord false broken = (.error thrown, reached) := by
  simp only [writeLeaseArtifact, Bool.false_eq_true, if_false, FileM.catching, hwrite]
  split <;> exact ⟨_, rfl⟩

/-- The artifact is written, or the write throws: then the artifact is as it was, unless it was
linked where no file had been. -/
theorem writeLeaseArtifact_cases {disk : Disk} {broken : Disk}
    (hkept : broken.files .artifact = disk.files .artifact) :
    let outcome := writeLeaseArtifact faults leaseRecord replaceArtifact broken
    (¬ ArtifactFails faults true replaceArtifact disk ∧ outcome.1 = .ok ())
      ∨ (ArtifactFails faults true replaceArtifact disk ∧ (∃ error, outcome.1 = .error error)
        ∧ outcome.2.files .canonical = broken.files .canonical
        ∧ (disk.files .artifact = none →
          ((outcome.2.files .artifact).isSome = true ↔
            replaceArtifact = false ∧ ArtifactLinked faults disk))
        ∧ ((disk.files .artifact).isSome = true →
          outcome.2.files .artifact = disk.files .artifact)) := by
  cases replaceArtifact with
  | true =>
      have hfails : ArtifactFails faults true true disk ↔
          ¬ faults.Spare .write .artifact [.makeDirectory, .writeTemporary, .rename] := by
        simp [ArtifactFails]
      have hrun : writeLeaseArtifact faults leaseRecord true broken =
          writeJsonAtomic faults .write .artifact leaseRecord broken := rfl
      rw [hfails, hrun]
      rcases replaces_writeJsonAtomic faults broken .write .artifact leaseRecord with
        ⟨hspared, hok, -⟩ | ⟨hunspared, herror, hfiles⟩
      · exact Or.inl ⟨not_not_intro hspared, hok⟩
      · refine Or.inr ⟨hunspared, herror, by rw [hfiles], ?_, fun _ => ?_⟩
        · intro habsent
          simp [hfiles, hkept, habsent]
        · rw [hfiles, hkept]
  | false =>
      have hfails : ArtifactFails faults true false disk ↔
          ¬ (ArtifactLinked faults disk ∧ faults.Spare .write .artifact [.removeTemporary]) := by
        simp [ArtifactFails]
      rw [hfails]
      have hcases := writeJsonNoReplace_cases faults broken leaseRecord
      rw [ArtifactLinked.congr hkept] at hcases
      rcases hwrite : writeJsonNoReplace faults .write .artifact leaseRecord broken with
        ⟨result, reached⟩
      simp only [hwrite] at hcases
      rcases hcases with ⟨hlinked, ⟨hspared, rfl⟩ | ⟨hunspared, error, rfl⟩, hfiles⟩
        | ⟨hunlinked, ⟨error, rfl⟩, hfiles⟩
      · have hrun := writeLeaseArtifact_ok faults leaseRecord hwrite
        exact Or.inl ⟨not_not_intro ⟨hlinked, hspared⟩, by rw [hrun]⟩
      · obtain ⟨thrown, hrun⟩ := writeLeaseArtifact_error faults leaseRecord hwrite
        refine Or.inr ⟨fun h => hunspared h.2, ?_⟩
        simp [hrun, hfiles, hlinked, hlinked.absent]
      · obtain ⟨thrown, hrun⟩ := writeLeaseArtifact_error faults leaseRecord hwrite
        refine Or.inr ⟨fun h => hunlinked h.1, ?_⟩
        simp +contextual [hrun, hfiles, hunlinked, hkept]

/-- Up to the rename of the canonical file, a failure leaves both files as they were. -/
theorem writeLeaseRecord_unreplaced
    (hunreplaced : ¬ CanonicalReplaced faults overlap artifactPath disk) :
    ∃ error after, writeLeaseRecord faults overlap leaseRecord artifactPath replaceArtifact disk
        = (.error error, after) ∧ after.files = disk.files := by
  unfold writeLeaseRecord
  cases hoverlap : overlap with
  | some overlap => exact ⟨_, disk, rfl, rfl⟩
  | none =>
      rcases snapshotLeaseRecordFiles_cases faults artifactPath disk with
        ⟨hartifact, hcanonical, snapshot, hsnapshot, -⟩ | ⟨-, error, hsnapshot⟩
      · have hcases := writeJsonAtomicRestricted_cases faults disk .write .canonical leaseRecord
        rcases hwrite : writeJsonAtomicRestricted faults .write .canonical leaseRecord disk with
          ⟨result, after⟩
        simp only [hwrite] at hcases
        rcases hcases with ⟨hspared, -⟩ | ⟨-, ⟨error, rfl⟩, hfiles⟩
        · exact absurd ⟨hoverlap, hartifact, hcanonical, hspared⟩ hunreplaced
        · refine ⟨{ cause := error, restoreError := none }, after, ?_, hfiles⟩
          simp [FileM.bind_apply, unrestored, FileM.catching, hsnapshot, hwrite]
      · refine ⟨{ cause := error, restoreError := none }, disk, ?_, rfl⟩
        simp [FileM.bind_apply, unrestored, FileM.catching, hsnapshot]

theorem writeLeaseRecord_replaced
    (hreplaced : CanonicalReplaced faults overlap artifactPath disk) :
    ∃ snapshot reached, Snapshotted artifactPath disk snapshot
      ∧ reached.files = Function.update disk.files .canonical (some (jsonBytes leaseRecord))
      ∧ ((faults ⟨.write, .canonical, .restrict⟩ ≠ none
          ∧ ∃ cause, writeLeaseRecord faults overlap leaseRecord artifactPath replaceArtifact disk
            = (.error { cause, restoreError := none }, reached))
        ∨ (faults ⟨.write, .canonical, .restrict⟩ = none
          ∧ writeLeaseRecord faults overlap leaseRecord artifactPath replaceArtifact disk
            = writeArtifactOrRestore faults leaseRecord artifactPath replaceArtifact snapshot
              reached)) := by
  obtain ⟨hoverlap, hartifact, hcanonical, hspared⟩ := hreplaced
  rcases snapshotLeaseRecordFiles_cases faults artifactPath disk with
    ⟨-, -, snapshot, hsnapshot, htaken⟩ | ⟨hunreadable, -⟩
  · have hcases := writeJsonAtomicRestricted_cases faults disk .write .canonical leaseRecord
    rcases hwrite : writeJsonAtomicRestricted faults .write .canonical leaseRecord disk with
      ⟨result, reached⟩
    simp only [hwrite] at hcases
    rcases hcases with ⟨-, ⟨hrestricted, rfl⟩ | ⟨hfails, error, rfl⟩, hfiles⟩ | ⟨hunspared, -⟩
    · refine ⟨snapshot, reached, htaken, hfiles, Or.inr ⟨hrestricted, ?_⟩⟩
      simp [writeLeaseRecord, hoverlap, FileM.bind_apply, unrestored, FileM.catching, hsnapshot,
        hwrite]
    · refine ⟨snapshot, reached, htaken, hfiles, Or.inl ⟨hfails, error, ?_⟩⟩
      simp [writeLeaseRecord, hoverlap, FileM.bind_apply, unrestored, FileM.catching, hsnapshot,
        hwrite]
    · exact absurd hspared hunspared
  · exact absurd ⟨hartifact, hcanonical⟩ hunreadable

/-- The artifact is written; or the restoring gets to its end and leaves what was read, written
again; or it does not and has not reached an artifact that was there. -/
theorem writeArtifactOrRestore_cases {snapshot : Snapshot} {reached : Disk}
    (hsnapshot : Snapshotted artifactPath disk snapshot)
    (hfiles : reached.files =
      Function.update disk.files .canonical (some (jsonBytes leaseRecord))) :
    let outcome := writeArtifactOrRestore faults leaseRecord artifactPath replaceArtifact snapshot
      reached
    (¬ ArtifactFails faults artifactPath replaceArtifact disk ∧ outcome.1 = .ok ())
      ∨ (ArtifactFails faults artifactPath replaceArtifact disk
        ∧ Restorable faults replaceArtifact disk
        ∧ (∃ cause, outcome.1 = .error { cause, restoreError := none })
        ∧ outcome.2.files .canonical = rewritten (disk.files .canonical)
        ∧ outcome.2.files .artifact = rewritten (disk.files .artifact))
      ∨ (ArtifactFails faults artifactPath replaceArtifact disk
        ∧ ¬ Restorable faults replaceArtifact disk
        ∧ (∃ cause restoreError, outcome.1 = .error { cause, restoreError := some restoreError })
        ∧ ((disk.files .artifact).isSome = true →
          outcome.2.files .artifact = disk.files .artifact)) := by
  cases artifactPath with
  | false => exact Or.inl ⟨fun h => Bool.false_ne_true h.1, rfl⟩
  | true =>
      have hkept : reached.files .artifact = disk.files .artifact := by simp [hfiles]
      have hartifact := writeLeaseArtifact_cases faults leaseRecord replaceArtifact hkept
      rcases hwrite : writeLeaseArtifact faults leaseRecord replaceArtifact reached with
        ⟨result, broken⟩
      simp only [hwrite] at hartifact
      simp only [writeArtifactOrRestore, if_true, FileM.catching, hwrite]
      rcases hartifact with ⟨hwritten, rfl⟩ | ⟨hfails, ⟨cause, rfl⟩, hcanonical, hlinked, hleft⟩
      · exact Or.inl ⟨hwritten, rfl⟩
      · right
        have hpresent : (broken.files .canonical).isSome = true := by simp [hcanonical, hfiles]
        have hrestore := restoreLeaseRecordFiles_cases faults replaceArtifact hsnapshot hpresent
          hlinked
        rcases hrun : restoreLeaseRecordFiles faults snapshot broken with ⟨result, after⟩
        simp only [hrun] at hrestore
        rcases hrestore with ⟨hrestorable, rfl, hfile, hfile'⟩ | ⟨hstuck, ⟨error, rfl⟩, hfile⟩
        · left
          refine ⟨hfails, hrestorable, ⟨cause, ?_⟩, ?_, ?_⟩ <;>
            simp [FileM.bind_apply, FileM.catching, hrun, hfile, hfile']
        · right
          refine ⟨hfails, hstuck, ⟨cause, error, ?_⟩, fun hsome => ?_⟩
          · simp [FileM.bind_apply, FileM.catching, hrun]
          · simpa [FileM.bind_apply, FileM.catching, hrun, hfile] using hleft hsome

/-- Failed lease writes leave the files as they were, and an artifact that was there alone,
exactly when the write is a restoring one. -/
theorem restoring_iff :
    RestoresFiles faults overlap leaseRecord artifactPath replaceArtifact disk
        ∧ KeepsArtifact faults overlap leaseRecord artifactPath replaceArtifact disk ↔
      Restoring faults overlap leaseRecord artifactPath replaceArtifact disk := by
  by_cases hreplaced : CanonicalReplaced faults overlap artifactPath disk
  · obtain ⟨snapshot, reached, hsnapshot, hfiles, hrun⟩ := writeLeaseRecord_replaced faults
      overlap leaseRecord artifactPath replaceArtifact disk hreplaced
    rcases hrun with ⟨hunrestricted, cause, hrun⟩ | ⟨hrestricted, hrun⟩
    · simp only [RestoresFiles, KeepsArtifact, Restoring, hrun, hreplaced, hunrestricted]
      constructor
      · rintro ⟨hrestores, -⟩
        have hsame := congrFun (hrestores _ _ rfl rfl) .canonical
        simp only [hfiles, Function.update_self] at hsame
        exact fun _ => ⟨fun _ => hsame.symm, fun h => nomatch h⟩
      · intro hcondition
        have hsame := (hcondition trivial).1 hunrestricted
        have hunchanged : reached.files = disk.files := by
          rw [hfiles, ← hsame, Function.update_eq_self]
        constructor
        · rintro error after ⟨rfl, rfl⟩ -
          exact hunchanged
        · rintro error after ⟨rfl, rfl⟩ - -
          rw [hunchanged]
    · have hcases := writeArtifactOrRestore_cases faults leaseRecord artifactPath replaceArtifact
        disk hsnapshot hfiles
      rcases hends : writeArtifactOrRestore faults leaseRecord artifactPath replaceArtifact
        snapshot reached with ⟨result, after⟩
      simp only [hends] at hcases
      rw [hends] at hrun
      simp only [RestoresFiles, KeepsArtifact, Restoring, hrun, hreplaced, hrestricted]
      rcases hcases with ⟨hwritten, rfl⟩
        | ⟨hfails, hrestorable, ⟨cause, rfl⟩, hcanonical, hartifact⟩
        | ⟨hfails, hstuck, ⟨cause, error, rfl⟩, hleft⟩
      · simp [hwritten]
      · constructor
        · rintro ⟨hrestores, -⟩
          have hunchanged := hrestores _ _ rfl rfl
          refine fun _ => ⟨fun h => absurd rfl h, fun _ _ _ => ?_⟩
          rw [← hcanonical, ← hartifact, hunchanged]
          exact ⟨rfl, rfl⟩
        · intro hcondition
          obtain ⟨hsame, hsame'⟩ := (hcondition trivial).2 trivial hfails hrestorable
          have hunchanged : after.files = disk.files := by
            funext target
            cases target with
            | canonical => rw [hcanonical, hsame]
            | artifact => rw [hartifact, hsame']
          constructor
          · rintro error after ⟨rfl, rfl⟩ -
            exact hunchanged
          · rintro error after ⟨rfl, rfl⟩ - -
            rw [hunchanged]
      · constructor
        · exact fun _ _ => ⟨fun h => absurd rfl h, fun _ _ h => absurd h hstuck⟩
        · intro _
          constructor
          · rintro thrown after ⟨rfl, rfl⟩ hnone
            cases hnone
          · rintro thrown after ⟨rfl, rfl⟩ - hsome
            exact hleft hsome
  · obtain ⟨error, after, hrun, hfiles⟩ := writeLeaseRecord_unreplaced faults overlap leaseRecord
      artifactPath replaceArtifact disk hreplaced
    simp only [RestoresFiles, KeepsArtifact, Restoring, hrun, hreplaced, false_implies, iff_true]
    constructor
    · rintro error after ⟨rfl, rfl⟩ -
      exact hfiles
    · rintro error after ⟨rfl, rfl⟩ - -
      rw [hfiles]

/-- A disk with a JSON file of the user's at the artifact path, and no lease. -/
def userDisk : Disk where
  files
    | .canonical => none
    | .artifact => some (encode "\x7b\"note\":[]\x7d".toList)
  temporary _ _ := none

/-- An acquire that finds a JSON file at its artifact path throws, and has laid the file out
anew: no step failed, and every restoring step was done. -/
theorem not_keepsArtifact :
    ¬ RestoresFiles (fun _ => none) none (.object []) true false userDisk
      ∧ ¬ KeepsArtifact (fun _ => none) none (.object []) true false userDisk := by
  have hchanged : ∃ after, writeLeaseRecord (fun _ => none) none (.object []) true false userDisk
      = (.error { cause := .artifactPathExists, restoreError := none }, after)
        ∧ after.files .artifact ≠ userDisk.files .artifact :=
    ⟨_, rfl, by decide +kernel⟩
  obtain ⟨after, hrun, hchanged⟩ := hchanged
  constructor
  · intro hrestores
    exact hchanged (congrFun (hrestores _ after hrun rfl) .artifact)
  · intro hkeeps
    exact hchanged (hkeeps _ after hrun rfl rfl)

end SimulatorBroker.Artifacts
