import SimulatorBroker.Actions.Accurate

/-!
# The busy flag over a run

A run starts from a store in which nothing has been set in motion.  The flag is accurate in
every state of the run exactly when each of its turns is orderly.
-/

namespace SimulatorBroker.Actions

open Work

def CommandAvailability.enablesMutation (availability : CommandAvailability) : Bool :=
  availability.canBootSimulator || availability.canShutdownSimulator ||
    availability.canEraseSimulator || availability.canRepairSimulator ||
    availability.canDeleteSimulator || availability.canReleaseLease ||
    availability.canCreatePin || availability.canClearPin

namespace ActionStore

/-- The store before its first turn. -/
def launched (pane : Pane) (inspected : Option String) : ActionStore :=
  { selectedPane := pane, inspectedSimulatorAlias := inspected }

/-- A loop that has begun starts no refresh in this turn. -/
def PollsNothing (store : ActionStore) : Prop :=
  ∀ id, (store.loops id).stage ≠ .queued → store.loopRefreshes id = false

/-- The flag says whether anything is in flight, and while something is, no mutation is offered
and no refresh is started but the first one of a loop. -/
def BusyFlagAccurate (store : ActionStore) : Prop :=
  (store.isApplyingAction = true ↔ ∃ id, store.InFlight id) ∧
    ((∃ id, store.InFlight id) →
      store.commandAvailability.enablesMutation = false ∧
        store.commandAvailability.canRefreshSnapshot = false ∧ store.PollsNothing)

/-- The flag is accurate in every state of the run. -/
def AccurateAlong (store : ActionStore) : List Event → Prop
  | [] => store.BusyFlagAccurate
  | event :: rest =>
      store.BusyFlagAccurate ∧
        ∀ next, store.step event = some next → next.AccurateAlong rest

/-- Every turn of the run is orderly. -/
def OrderlyAlong (store : ActionStore) : List Event → Prop
  | [] => True
  | event :: rest =>
      ∀ next, store.step event = some next → store.Orderly event ∧ next.OrderlyAlong rest

theorem sound_launched (pane : Pane) (inspected : Option String) :
    (launched pane inspected).work.Sound := by
  constructor
  · exact fun _ _ => rfl
  · intro id hheld
    cases hheld
  · intro id hrunning
    cases hrunning
  · intro id generation stopGeneration confirmed hjob
    cases hjob
  · intro first second generation firstStop secondStop firstPlan secondPlan hfirst
    cases hfirst

theorem accurate_launched (pane : Pane) (inspected : Option String) :
    (launched pane inspected).work.Accurate := by
  apply (accurate_released rfl).mpr
  intro id hflight
  cases hflight.1

/-- The flag alone keeps mutations and refreshes back. -/
theorem offers_nothing {store : ActionStore} (hbusy : store.isApplyingAction = true) :
    store.commandAvailability.enablesMutation = false ∧
      store.commandAvailability.canRefreshSnapshot = false ∧ store.PollsNothing := by
  have hmutate : (store.canSendCommands && !store.isApplyingAction) = false := by
    rw [hbusy]
    exact Bool.and_false _
  refine ⟨?_, ?_, ?_⟩
  · unfold commandAvailability
    dsimp only
    cases store.selectedSimulator with
    | none => rfl
    | some simulator =>
        rw [hmutate]
        rfl
  · unfold commandAvailability
    dsimp only
    cases store.selectedSimulator with
    | none =>
        rw [hbusy]
        rfl
    | some simulator =>
        rw [hbusy]
        rfl
  · intro id hbegun
    unfold loopRefreshes
    cases hstage : (store.loops id).stage with
    | queued => exact absurd hstage hbegun
    | asleep => simp [hbusy]
    | _ => simp

theorem busyFlagAccurate_iff (store : ActionStore) :
    store.BusyFlagAccurate ↔ store.work.Accurate := by
  constructor
  · exact fun haccurate => haccurate.1
  · intro haccurate
    refine ⟨haccurate, fun hflight => ?_⟩
    apply offers_nothing
    exact haccurate.mpr hflight

theorem accurateAlong_iff {store : ActionStore} (events : List Event) (hsound : store.work.Sound)
    (haccurate : store.work.Accurate) :
    store.AccurateAlong events ↔ store.OrderlyAlong events := by
  induction events generalizing store with
  | nil => exact iff_of_true ((busyFlagAccurate_iff store).mpr haccurate) trivial
  | cons event rest ih =>
      have hturns {next : ActionStore} (hstep : store.step event = some next) :
          next.work.Sound ∧ (next.work.Accurate ↔ store.Orderly event) := by
        have hkeeps : next.work.Keeps True (store.Orderly event) :=
          keeps_step hsound (fun _ => haccurate) hstep
        exact ⟨hkeeps.1, hkeeps.2 trivial⟩
      constructor
      · rintro ⟨-, hrest⟩ next hstep
        obtain ⟨hnext, hiff⟩ := hturns hstep
        have halong := hrest next hstep
        have hkept : next.work.Accurate := by
          cases rest with
          | nil => exact (busyFlagAccurate_iff next).mp halong
          | cons => exact (busyFlagAccurate_iff next).mp halong.1
        exact ⟨hiff.mp hkept, (ih hnext hkept).mp halong⟩
      · intro horderly
        refine ⟨(busyFlagAccurate_iff store).mpr haccurate, fun next hstep => ?_⟩
        obtain ⟨hturn, hrest⟩ := horderly next hstep
        obtain ⟨hnext, hiff⟩ := hturns hstep
        exact (ih hnext (hiff.mpr hturn)).mpr hrest

/-- In a run from the launch the flag is accurate in every state exactly when no activity ends,
and no setup is let go, with another one in flight. -/
theorem busy_flag_accurate_iff_orderly (pane : Pane) (inspected : Option String)
    (events : List Event) :
    (launched pane inspected).AccurateAlong events ↔
      (launched pane inspected).OrderlyAlong events :=
  accurateAlong_iff events (sound_launched pane inspected) (accurate_launched pane inspected)

/-! ## Where it is not -/

/-- A service and a healthy simulator that is shut down. -/
def servedState : BrokerLoadedState where
  service := some "brokerd"
  snapshot := some
    { simulators :=
        [{ aliasName := "phone", health := "healthy", powerState := "shutdown", leased := false,
           pinned := false, hasEligiblePinProjects := false }] }

/-- The simulator is booted twice, and the first command fails. -/
def overlappingBoots : List Event :=
  [.refreshed (.loaded servedState) (some "phone"), .requestLifecycleAction .boot,
    .requestLifecycleAction .boot, .begin 0, .begin 1, .answered 0 (.failed "timed out")]

/-- A setup is asked to stop while it is applied. -/
def stoppedSetup : List Event :=
  let plan : SetupPlan :=
    { planId := "plan", status := .changesRequired, confirmationRequired := false }
  [.requestGuidedSetup, .begin 0, .previewed 0 (.answered plan), .stopGuidedSetup]

/-- The store is stopped and started again while a boot is on its way. -/
def restartedLoop : List Event :=
  [.refreshed (.loaded servedState) (some "phone"), .start, .loopTurn 0,
    .requestLifecycleAction .boot, .begin 0, .stop, .start]

/-- A mutation, or a preview or a setup run that is not cancelled, is in flight. -/
def Uncancelled (store : ActionStore) (id : Nat) : Prop :=
  (store.tasks id).running = true ∧
    ((store.tasks id).isSetup = true → (store.tasks id).cancelled = false)

/-- The first boot that ends clears the flag of the second; a setup that is asked to stop keeps
the flag until it has stopped; a loop that is started anew refreshes at once. -/
theorem busy_flag_inaccurate :
    (∃ store, (launched .simulators none).run overlappingBoots = some store ∧
      store.isApplyingAction = false ∧ store.Uncancelled 1) ∧
    (∃ store, (launched .overview none).run stoppedSetup = some store ∧
      store.isApplyingAction = true ∧ ¬ ∃ id, store.Uncancelled id) ∧
    (∃ store, (launched .simulators none).run restartedLoop = some store ∧
      store.Uncancelled 0 ∧ store.loopRefreshes 1 = true) ∧
    ¬ ∀ pane inspected events store, (launched pane inspected).run events = some store →
      (store.isApplyingAction = true ↔ ∃ id, store.Uncancelled id) := by
  have hboots : ∃ store, (launched .simulators none).run overlappingBoots = some store ∧
      store.isApplyingAction = false ∧ store.Uncancelled 1 := by
    refine ⟨_, rfl, rfl, rfl, ?_⟩
    intro hsetup
    cases hsetup
  refine ⟨hboots, ?_, ?_, ?_⟩
  · refine ⟨_, rfl, rfl, ?_⟩
    rintro ⟨id, hrunning, huncancelled⟩
    cases id with
    | zero => cases huncancelled rfl
    | succ id => cases hrunning
  · exact ⟨_, rfl, ⟨rfl, nofun⟩, rfl⟩
  · intro hclaim
    obtain ⟨store, hrun, hflag, hflight⟩ := hboots
    have hset := (hclaim .simulators none overlappingBoots store hrun).mpr ⟨1, hflight⟩
    exact absurd (hflag.symm.trans hset) Bool.false_ne_true

end ActionStore

end SimulatorBroker.Actions
