import SimulatorBroker.Reading.Readout

/-!
# Errors other than a missing match

Only the selection of an acquire says that no alias matched; whatever else a
command does throws something else.
-/

namespace SimulatorBroker.Reading

open SimulatorBroker.Effects
open SimulatorBroker.State
open SimulatorBroker.Broker

/-- An error that does not say that no alias matched. -/
def Unrelated (error : BrokerError) : Prop :=
  error.reasonCode ≠ some .noMatchingAlias

theorem unrelated_raw {error : BrokerError} (hraw : error.Raw) : Unrelated error := by
  unfold Unrelated
  rw [hraw.noReason]
  simp

theorem unrelated_broker {reasonCode : ReasonCode} (hne : reasonCode ≠ .noMatchingAlias)
    {text : String} : Unrelated (.broker reasonCode text) := by
  simp [Unrelated, BrokerError.broker, hne]

theorem unrelated_sampler {error : BrokerError} (hsampler : error.OfSampler) :
    Unrelated error := by
  unfold Unrelated
  rcases hsampler.2 with hreason | hreason
  · simp [hreason]
  · simp [hreason]

/-- No operation says that no alias matched. -/
theorem unrelated_of {op : BrokerOp} {world : World} {error : BrokerError}
    (hof : ErrorOf op world error) : Unrelated error := by
  cases op with
  | now => exact hof.elim
  | randomUuid => exact hof.elim
  | processExists pid => exact hof.elim
  | hostConfigExists => exact hof.elim
  | lock name =>
      cases name with
      | lease =>
          rcases hof with hsampler | rfl | rfl
          · exact unrelated_sampler hsampler
          · exact unrelated_broker (by decide)
          · exact unrelated_broker (by decide)
      | capacity =>
          rcases hof with hsampler | rfl | rfl
          · exact unrelated_sampler hsampler
          · exact unrelated_broker (by decide)
          · exact unrelated_broker (by decide)
      | reset =>
          rcases hof with hsampler | rfl
          · exact unrelated_sampler hsampler
          · exact unrelated_broker (by decide)
  | linkArtifact path record => exact unrelated_raw hof.1
  | readProject =>
      rcases hof with hraw | rfl | rfl
      · exact unrelated_raw hraw
      · exact unrelated_broker (by decide)
      · exact unrelated_broker (by decide)
  | sampleProcesses => exact unrelated_sampler hof
  | containLeaseProcesses record reason => exact unrelated_sampler hof
  | readHostConfig | readRegistry | listLeases | listPins | readKnownProjects | readIdlePolicy
  | listTransactions =>
      rcases hof with hraw | rfl
      · exact unrelated_raw hraw
      · exact unrelated_broker (by decide)
  | _ => exact unrelated_raw hof

/-! ## Programs -/

/-- The program never says that no alias matched. -/
abbrev Mild {α : Type} (surroundings : Surroundings) (readout : Readout) (body : Broker α) : Prop :=
  Throws surroundings readout Unrelated body

variable {α β ι : Type} {surroundings : Surroundings} {readout : Readout}

theorem mild_perform (op : BrokerOp) : Mild surroundings readout (perform op) :=
  .op fun _ _ hof => unrelated_of hof

theorem mild_throw {reasonCode : ReasonCode} (hne : reasonCode ≠ .noMatchingAlias)
    {text : String} :
    Mild surroundings readout (throw (.broker reasonCode text) : Broker α) :=
  .throw (unrelated_broker hne)

theorem mild_ignoringErrors {body : Broker Unit} :
    Mild surroundings readout (ignoringErrors body) :=
  .catch fun _ => .pure _

theorem mild_writeJsonAtomic {file : FileWrite} :
    Mild surroundings readout (writeJsonAtomic file) := by
  unfold writeJsonAtomic
  exact .bind (mild_perform _) fun _ => .bind (mild_perform _) fun _ => mild_perform _

theorem mild_writeJsonAtomicRestricted {file : FileWrite} :
    Mild surroundings readout (writeJsonAtomicRestricted file) := by
  unfold writeJsonAtomicRestricted
  exact .bind (mild_perform _) fun _ => .bind (mild_perform _) fun _ =>
    .bind (mild_perform _) fun _ => .bind (mild_perform _) fun _ => mild_perform _

theorem mild_appendEventRecord {event : Event} :
    Mild surroundings readout (appendEventRecord event) := by
  unfold appendEventRecord recordAuditAppendFailure
  exact .catch fun _ => .bind mild_ignoringErrors fun _ => .pure _

theorem mild_writeRegistry {registry : Registry} {note : RegistryNote} :
    Mild surroundings readout (writeRegistry registry note) :=
  mild_writeJsonAtomicRestricted

/-! ## Lease files -/

theorem mild_assertLeaseArtifactPathAllowed {paths : BrokerPaths} {path : Option ArtifactPath} :
    Mild surroundings readout (assertLeaseArtifactPathAllowed paths path) := by
  unfold assertLeaseArtifactPathAllowed
  cases path with
  | none => exact .pure _
  | some path =>
      simp only
      split
      · exact .pure _
      · exact mild_throw (by decide)

theorem mild_removeArtifact {lease : Lease} :
    Mild surroundings readout (removeArtifact lease) := by
  unfold removeArtifact
  cases lease.artifactPath with
  | none => exact .pure _
  | some path => exact mild_perform _

theorem mild_removeLeaseRecordFiles {paths : BrokerPaths} {lease : Lease} {site : UnlinkSite} :
    Mild surroundings readout (removeLeaseRecordFiles paths lease site) := by
  unfold removeLeaseRecordFiles
  exact .bind mild_assertLeaseArtifactPathAllowed fun _ => .bind (mild_perform _) fun _ =>
    mild_removeArtifact

theorem mild_snapshotLeaseRecordFiles {lease : Lease} :
    Mild surroundings readout (snapshotLeaseRecordFiles lease) := by
  unfold snapshotLeaseRecordFiles
  refine .bind ?_ fun _ => .bind (mild_perform _) fun _ => .pure _
  unfold readLeaseArtifact
  cases lease.artifactPath with
  | none => exact .pure _
  | some path => exact mild_perform _

theorem mild_writeLeaseArtifact {lease : Lease} {replaceArtifact : Bool} :
    Mild surroundings readout (writeLeaseArtifact lease replaceArtifact) := by
  unfold writeLeaseArtifact
  cases lease.artifactPath with
  | none => exact .pure _
  | some path =>
      simp only
      split
      · exact mild_writeJsonAtomic
      · refine .tryCatch ?_ fun error herror => ?_
        · unfold writeJsonNoReplace
          exact .bind (mild_perform _) fun _ =>
            .ensuring (.bind (mild_perform _) fun _ => mild_perform _) (mild_perform _)
        · split
          · exact mild_throw (by decide)
          · exact .throw herror

theorem mild_writeLeaseRecord {paths : BrokerPaths} {lease : Lease} {replaceArtifact : Bool} :
    Mild surroundings readout (writeLeaseRecord paths lease replaceArtifact) := by
  unfold writeLeaseRecord
  refine .bind mild_assertLeaseArtifactPathAllowed fun _ =>
    .bind mild_snapshotLeaseRecordFiles fun _ =>
      .bind mild_writeJsonAtomicRestricted fun _ =>
        .tryCatch mild_writeLeaseArtifact fun error herror => ?_
  exact .bind mild_ignoringErrors fun _ => .throw herror

/-! ## Locks -/

end SimulatorBroker.Reading
