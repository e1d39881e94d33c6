import SimulatorBroker.Actions.Flag
import SimulatorBroker.Actions.Guarded

/-!
# Revoked confirmations stay revoked

Whatever the order of turns, what the store offers for confirmation was asked for and received
in the current epoch, and what has been confirmed was received in the epoch of its
confirmation.  The sheet has to open fenced, and a plan that a failed setup keeps is another
matter.
-/

namespace SimulatorBroker.Actions

namespace ActionStore

/-- On the whole run the sheet opens while no capacity preview of an earlier epoch is on its
way. -/
def OpensFencedAlong (store : ActionStore) : List Event → Prop
  | [] => True
  | event :: rest =>
      store.OpensFenced event ∧
        ∀ next, store.step event = some next → next.OpensFencedAlong rest

theorem guarded_launched (pane : Pane) (inspected : Option String) :
    (launched pane inspected).Guarded := by
  constructor
  · apply fenced_of_silent
    · exact fun _ => trivial
    · intro id hasking
      cases hasking.running
    · nofun
  · exact ⟨nofun, nofun, nofun, nofun, nofun⟩

theorem guarded_run {store last : ActionStore} (events : List Event) (hguarded : store.Guarded)
    (hsound : store.work.Sound) (hopens : store.OpensFencedAlong events)
    (hrun : store.run events = some last) : last.Guarded := by
  induction events generalizing store with
  | nil =>
      obtain rfl := Option.some.inj hrun
      exact hguarded
  | cons event rest ih =>
      unfold run at hrun
      rw [List.foldlM_cons] at hrun
      cases hstep : store.step event with
      | none =>
          rw [hstep] at hrun
          cases hrun
      | some next =>
          rw [hstep] at hrun
          apply ih _ _ (hopens.2 next hstep) hrun
          · exact guarded_step hguarded hsound hopens.1 hstep
          · exact sound_step hsound hstep

/-- In every run whose sheet opens fenced, nothing that was asked for before the epoch advanced
is offered after it, and every confirmed plan and lease was received in the epoch of its
confirmation. -/
theorem revoked_confirmations_stay_revoked (pane : Pane) (inspected : Option String)
    (events : List Event) (store : ActionStore)
    (hopens : (launched pane inspected).OpensFencedAlong events)
    (hrun : (launched pane inspected).run events = some store) : store.Fresh :=
  (guarded_run events (guarded_launched pane inspected) (sound_launched pane inspected) hopens
    hrun).2

/-! ## A preview that is confirmed, and two that come back -/

/-- A service with a project that has a file. -/
def projectState (service : String) : BrokerLoadedState where
  service := some service
  snapshot := some
    { projects := [{ projectId := "app", projectFilePath := some "/app/project.json" }] }

def capacityEnvelope : CommandEnvelope where
  actions := some ["create"]
  planId := some "capacity-1"
  status := some "changes_required"

/-- The sheet is opened, answered and confirmed. -/
def confirmedCapacity : List Event :=
  [.refreshed (.loaded (projectState "first")) none, .beginAddSimulators, .begin 0,
    .answered 0 (.envelope capacityEnvelope), .confirmAddSimulators]

theorem confirmed_capacity_stays_revoked :
    ∃ store, (launched .simulators none).run confirmedCapacity = some store ∧
      store.submissions.length = 1 ∧ store.Fresh := by
  have hopens : (launched .simulators none).OpensFencedAlong confirmedCapacity := by
    refine ⟨trivial, fun loaded hloaded => ⟨?_, fun opened hopened => ?_⟩⟩
    · obtain rfl := Option.some.inj hloaded
      intro id projectId purposeId sent hjob
      cases hjob
    · exact ⟨trivial, fun begun _ => ⟨trivial, fun shown _ => ⟨trivial, fun _ _ => trivial⟩⟩⟩
  exact ⟨_, rfl, rfl, revoked_confirmations_stay_revoked .simulators none confirmedCapacity _
    hopens rfl⟩

/-- The epoch advances while a preview is on its way and a setup plan awaits its confirmation;
the busy flag is cleared with the plan, and the sheet opens again before the answer. -/
def revivedCapacity : List Event :=
  let plan : SetupPlan := { planId := "setup-1", status := .ready, confirmationRequired := true }
  [.refreshed (.loaded (projectState "first")) none, .requestGuidedSetup, .begin 0,
    .previewed 0 (.answered plan), .beginAddSimulators, .begin 1,
    .refreshed (.loaded (projectState "second")) none, .beginAddSimulators,
    .answered 1 (.envelope capacityEnvelope)]

/-- The epoch advances while a setup is applied, which then fails and keeps its plan. -/
def recoveredSetup : List Event :=
  let plan : SetupPlan := { planId := "setup-1", status := .ready, confirmationRequired := true }
  [.refreshed (.loaded (projectState "first")) none, .requestGuidedSetup, .begin 0,
    .previewed 0 (.answered plan), .confirmGuidedSetup, .begin 1,
    .refreshed (.loaded (projectState "second")) none, .applied 1 .failed, .concluded 1,
    .confirmGuidedSetup]

/-- Nothing that is offered or was confirmed is of another epoch. -/
def Unrevived (store : ActionStore) : Prop :=
  (∀ cleanup, store.pendingIdleCleanupRequest = some cleanup → store.Current cleanup) ∧
  (∀ override, store.pendingOverrideRequest = some override → store.Current override) ∧
  (∀ sheet preview, store.capacitySheet = some sheet → sheet.preview = some preview →
    store.Current preview) ∧
  (store.setupPhase = .awaitingConfirmation → ∀ plan, store.setupPlan = some plan →
    store.Current plan) ∧
  ∀ submission ∈ store.submissions, submission.received = submission.confirmed

/-- A capacity preview comes back after the epoch has advanced, and so does the plan of a failed
setup, which is then confirmed. -/
theorem stale_answers_revived :
    (∃ store sheet preview, (launched .simulators none).run revivedCapacity = some store ∧
      store.capacitySheet = some sheet ∧ sheet.preview = some preview ∧
      preview.sent = 1 ∧ store.serviceAuthorityEpoch = 2) ∧
    (∃ store submission, (launched .overview none).run recoveredSetup = some store ∧
      submission ∈ store.submissions ∧ submission.received = 1 ∧ submission.confirmed = 2) ∧
    ¬ ∀ pane inspected events store, (launched pane inspected).run events = some store →
      store.Unrevived := by
  have hcapacity : ∃ store sheet preview,
      (launched .simulators none).run revivedCapacity = some store ∧
        store.capacitySheet = some sheet ∧ sheet.preview = some preview ∧
        preview.sent = 1 ∧ store.serviceAuthorityEpoch = 2 :=
    ⟨_, _, _, rfl, rfl, rfl, rfl, rfl⟩
  refine ⟨hcapacity, ?_, ?_⟩
  · exact ⟨_, _, rfl, List.mem_cons_self, rfl, rfl⟩
  · intro hclaim
    obtain ⟨store, sheet, preview, hrun, hsheet, hpreview, hsent, hepoch⟩ := hcapacity
    have hcurrent := (hclaim .simulators none revivedCapacity store hrun).2.2.1 sheet preview
      hsheet hpreview
    have hsame : (1 : Nat) = 2 := hsent.symm.trans (hcurrent.1.trans hepoch)
    cases hsame

end ActionStore

end SimulatorBroker.Actions
