import SimulatorBroker.Actions.Store

/-!
# The busy flag

One flag stands for five kinds of activity.  Whoever ends clears it, so it stays accurate just
while no activity ends, and no setup is let go, with another one in flight.  A few moves on
tasks and the flag say what every turn of the store does to them.
-/

namespace SimulatorBroker.Actions

namespace ActionTask

def isSetup (task : ActionTask) : Bool :=
  match task.job with
  | .guidedSetup _ _ _ => true
  | _ => false

/-- A mutation runs from the first step of `executeMutation` to its return, a preview and a
setup from the turn that starts them to their end. -/
def running (task : ActionTask) : Bool :=
  match task.job, task.stage with
  | .mutation, .sent _ | .mutation, .refreshing => true
  | .lifecycle _ _, .sent _ | .lifecycle _ _, .refreshing => true
  | .mutation, _ | .lifecycle _ _, _ => false
  | .idleCleanupPreview _, .queued | .idleCleanupPreview _, .sent _ => true
  | .capacityPreview _ _, .queued | .capacityPreview _ _, .sent _ => true
  | .idleCleanupPreview _, _ | .capacityPreview _ _, _ => false
  | .guidedSetup _ _ _, .absent | .guidedSetup _ _ _, .ended => false
  | .guidedSetup _ _ _, _ => true

end ActionTask

/-! ## Moves -/

/-- What the flag is about. -/
structure Work where
  isApplyingAction : Bool
  setupTask : Option Nat
  tasks : Nat → ActionTask
  nextTask : Nat
  setupGeneration : Nat
  storeStopGeneration : Nat

def ActionStore.work (store : ActionStore) : Work where
  isApplyingAction := store.isApplyingAction
  setupTask := store.setupTask
  tasks := store.tasks
  nextTask := store.nextTask
  setupGeneration := store.setupGeneration
  storeStopGeneration := store.storeStopGeneration

namespace Work

/-- A setup run that is cancelled counts while the store still holds it. -/
def InFlight (work : Work) (id : Nat) : Prop :=
  (work.tasks id).running = true ∧
    ((work.tasks id).isSetup = true →
      (work.tasks id).cancelled = false ∨ work.setupTask = some id)

def Accurate (work : Work) : Prop :=
  work.isApplyingAction = true ↔ ∃ id, work.InFlight id

/-- No activity but this one is in flight. -/
def Alone (work : Work) (id : Nat) : Prop :=
  ∀ other, work.InFlight other → other = id

/-- No activity but the setup that the store holds is in flight. -/
def OnlySetup (work : Work) : Prop :=
  ∀ other, work.InFlight other → work.setupTask = some other

def setTask (work : Work) (id : Nat) (task : ActionTask) : Work :=
  { work with tasks := Function.update work.tasks id task }

def setStage (work : Work) (id : Nat) (stage : Stage) : Work :=
  work.setTask id { work.tasks id with stage }

def spawn (work : Work) (job : Job) : Work :=
  { work.setTask work.nextTask { job, stage := .queued } with nextTask := work.nextTask + 1 }

def release (work : Work) : Work :=
  { work with isApplyingAction := false }

def engage (work : Work) : Work :=
  { work with isApplyingAction := true }

def cancelSetup (work : Work) : Work :=
  match work.setupTask with
  | none => work
  | some id => work.setTask id { work.tasks id with cancelled := true }

def letGo (work : Work) : Work :=
  { work.cancelSetup with setupTask := none, isApplyingAction := false }

def replaceSetup (work : Work) (confirmed : Option (Received SetupPlan)) : Work :=
  { work.cancelSetup.spawn
      (.guidedSetup (work.setupGeneration + 1) work.storeStopGeneration confirmed) with
    setupGeneration := work.setupGeneration + 1
    isApplyingAction := true
    setupTask := some work.nextTask }

def isCurrent (work : Work) (generation stopGeneration : Nat) : Bool :=
  generation = work.setupGeneration && stopGeneration = work.storeStopGeneration

def giveUp (work : Work) (id : Nat) : Work :=
  { work.setStage id .ended with isApplyingAction := false, setupTask := none }

def finishSetup (work : Work) (id generation stopGeneration : Nat) : Work :=
  if work.isCurrent generation stopGeneration then work.giveUp id
  else work.setStage id .ended

def stop (work : Work) : Work :=
  let stopped := { work with storeStopGeneration := work.storeStopGeneration + 1 }
  if work.setupTask.isSome then stopped.letGo else stopped

/-- The setup the store holds is of the current generations, and no other run is uncancelled;
generations tell setup runs apart. -/
structure Sound (work : Work) : Prop where
  unborn : ∀ id, work.nextTask ≤ id → (work.tasks id).stage = .absent
  held : ∀ id, work.setupTask = some id → (work.tasks id).running = true ∧
    ∃ confirmed, (work.tasks id).job =
      .guidedSetup work.setupGeneration work.storeStopGeneration confirmed
  uncancelled : ∀ id, (work.tasks id).running = true → (work.tasks id).isSetup = true →
    (work.tasks id).cancelled = false → work.setupTask = some id
  bounded : ∀ id generation stopGeneration confirmed,
    (work.tasks id).job = .guidedSetup generation stopGeneration confirmed →
    generation ≤ work.setupGeneration
  distinct : ∀ first second generation firstStop secondStop firstPlan secondPlan,
    (work.tasks first).job = .guidedSetup generation firstStop firstPlan →
    (work.tasks second).job = .guidedSetup generation secondStop secondPlan → first = second

/-- After a move the work is sound, and as long as something is given, the flag is accurate on
this condition. -/
def Keeps (next : Work) (given condition : Prop) : Prop :=
  next.Sound ∧ (given → (next.Accurate ↔ condition))

theorem Keeps.congr {next : Work} {given condition other : Prop}
    (hkeeps : next.Keeps given condition) (hsame : condition ↔ other) : next.Keeps given other :=
  ⟨hkeeps.1, fun hgiven => (hkeeps.2 hgiven).trans hsame⟩

theorem Keeps.of_true {next : Work} {given condition : Prop} (hkeeps : next.Keeps given True)
    (hcondition : condition) : next.Keeps given condition :=
  hkeeps.congr (iff_of_true trivial hcondition)

theorem keeps_rest {work : Work} {given : Prop} (hsound : work.Sound)
    (haccurate : given → work.Accurate) : work.Keeps given True :=
  ⟨hsound, fun hgiven => iff_of_true (haccurate hgiven) trivial⟩

theorem accurate_of_engaged {work : Work} (happlying : work.isApplyingAction = true)
    (hflight : ∃ id, work.InFlight id) : work.Accurate :=
  ⟨fun _ => hflight, fun _ => happlying⟩

theorem accurate_released {work : Work} (happlying : work.isApplyingAction = false) :
    work.Accurate ↔ ∀ id, ¬ work.InFlight id := by
  constructor
  · intro haccurate id hflight
    have := haccurate.mpr ⟨id, hflight⟩
    simp [happlying] at this
  · intro hnone
    constructor
    · intro htrue
      simp [happlying] at htrue
    · rintro ⟨id, hflight⟩
      exact absurd hflight (hnone id)

@[simp] theorem setTask_self (work : Work) (id : Nat) (task : ActionTask) :
    (work.setTask id task).tasks id = task := Function.update_self _ _ _

theorem setTask_of_ne (work : Work) {id other : Nat} (hother : other ≠ id) (task : ActionTask) :
    (work.setTask id task).tasks other = work.tasks other :=
  Function.update_of_ne hother _ _

/-! ## One task -/

section

variable {work : Work} {id : Nat} {task : ActionTask} {given : Prop}

theorem Sound.release (hsound : work.Sound) : work.release.Sound :=
  ⟨hsound.unborn, hsound.held, hsound.uncancelled, hsound.bounded, hsound.distinct⟩

theorem Sound.engage (hsound : work.Sound) : work.engage.Sound :=
  ⟨hsound.unborn, hsound.held, hsound.uncancelled, hsound.bounded, hsound.distinct⟩

theorem Sound.lt_nextTask (hsound : work.Sound) (hborn : (work.tasks id).stage ≠ .absent) :
    id < work.nextTask := by
  apply Nat.lt_of_not_le
  intro hle
  exact hborn (hsound.unborn id hle)

theorem job_setTask (hjob : task.job = (work.tasks id).job) (other : Nat) :
    ((work.setTask id task).tasks other).job = (work.tasks other).job := by
  by_cases hother : other = id
  · rw [hother, setTask_self, hjob]
  · rw [setTask_of_ne work hother]

theorem Sound.unborn_setTask (hsound : work.Sound) (hborn : (work.tasks id).stage ≠ .absent)
    {other : Nat} (hother : work.nextTask ≤ other) :
    ((work.setTask id task).tasks other).stage = .absent := by
  have hne : other ≠ id := by
    rintro rfl
    exact absurd (hsound.lt_nextTask hborn) (Nat.not_lt.mpr hother)
  rw [setTask_of_ne work hne]
  exact hsound.unborn other hother

/-- A task changes its stage, or is cancelled, but not what it does. -/
theorem Sound.setTask (hsound : work.Sound) (task : ActionTask)
    (hborn : (work.tasks id).stage ≠ .absent) (hjob : task.job = (work.tasks id).job)
    (hheld : work.setupTask = some id → task.running = true)
    (huncancelled : task.running = true → (work.tasks id).isSetup = true →
      task.cancelled = false → work.setupTask = some id) :
    (work.setTask id task).Sound := by
  have hjobs := job_setTask hjob
  have hsetup : task.isSetup = (work.tasks id).isSetup := by
    unfold ActionTask.isSetup
    rw [hjob]
  constructor
  · exact fun other hother => hsound.unborn_setTask hborn hother
  · intro other hother
    obtain ⟨hrunning, confirmed, hconfirmed⟩ := hsound.held other hother
    refine ⟨?_, confirmed, (hjobs other).trans hconfirmed⟩
    by_cases hne : other = id
    · rw [hne, setTask_self]
      exact hheld (hother.trans (congrArg some hne))
    · rwa [setTask_of_ne work hne]
  · intro other hrunning hissetup hcancelled
    by_cases hne : other = id
    · rw [hne, setTask_self] at hrunning hissetup hcancelled
      rw [hne]
      exact huncancelled hrunning (hsetup ▸ hissetup) hcancelled
    · rw [setTask_of_ne work hne] at hrunning hissetup hcancelled
      exact hsound.uncancelled other hrunning hissetup hcancelled
  · intro other generation stopGeneration confirmed hother
    exact hsound.bounded other generation stopGeneration confirmed ((hjobs other).symm.trans hother)
  · intro first second generation firstStop secondStop firstPlan secondPlan hfirst hsecond
    exact hsound.distinct first second generation firstStop secondStop firstPlan secondPlan
      ((hjobs first).symm.trans hfirst) ((hjobs second).symm.trans hsecond)

theorem inFlight_setTask_of_ne {other : Nat} (hother : other ≠ id) :
    (work.setTask id task).InFlight other ↔ work.InFlight other := by
  unfold InFlight
  rw [setTask_of_ne work hother]
  exact Iff.rfl

theorem running_eq {job : Job} {stage : Stage} (hjob : (work.tasks id).job = job)
    (hstage : (work.tasks id).stage = stage) :
    (work.tasks id).running = ActionTask.running { job, stage } := by
  unfold ActionTask.running
  rw [hjob, hstage]

theorem running_ended (task : ActionTask) : { task with stage := .ended }.running = false := by
  rcases task with ⟨job, stage, cancelled⟩
  cases job <;> rfl

theorem not_running_ended : ((work.setStage id .ended).tasks id).running ≠ true := by
  rw [setStage, setTask_self, running_ended]
  exact Bool.false_ne_true

theorem not_inFlight_ended : ¬ (work.setStage id .ended).InFlight id :=
  fun hflight => not_running_ended hflight.1

theorem born_of_running (hrunning : (work.tasks id).running = true) :
    (work.tasks id).stage ≠ .absent := by
  intro habsent
  unfold ActionTask.running at hrunning
  rw [habsent] at hrunning
  cases hjob : (work.tasks id).job <;> rw [hjob] at hrunning <;> simp at hrunning

theorem isSetup_of_held (hsound : work.Sound) (hheld : work.setupTask = some id) :
    (work.tasks id).isSetup = true := by
  obtain ⟨-, confirmed, hjob⟩ := hsound.held id hheld
  unfold ActionTask.isSetup
  rw [hjob]

/-- A setup in flight is the one the store holds. -/
theorem held_of_inFlight (hsound : work.Sound) (hflight : work.InFlight id)
    (hsetup : (work.tasks id).isSetup = true) : work.setupTask = some id := by
  rcases hflight.2 hsetup with huncancelled | hheld
  · exact hsound.uncancelled id hflight.1 hsetup huncancelled
  · exact hheld

/-- A turn between two stages of the same activity. -/
theorem keeps_setStage (hsound : work.Sound) (haccurate : given → work.Accurate) {stage : Stage}
    (hborn : (work.tasks id).stage ≠ .absent)
    (hsame : { work.tasks id with stage }.running = (work.tasks id).running) :
    (work.setStage id stage).Keeps given True := by
  constructor
  · apply hsound.setTask { work.tasks id with stage } hborn rfl
    · intro hheld
      rw [hsame]
      exact (hsound.held id hheld).1
    · intro hrunning hsetup huncancelled
      exact hsound.uncancelled id (hsame ▸ hrunning) hsetup huncancelled
  · have hflight : ∀ other, (work.setStage id stage).InFlight other ↔ work.InFlight other := by
      intro other
      by_cases hother : other = id
      · subst hother
        unfold InFlight setStage
        rw [setTask_self, hsame]
        exact Iff.rfl
      · exact inFlight_setTask_of_ne hother
    simp only [iff_true]
    intro hgiven
    exact (haccurate hgiven).trans (exists_congr fun other => (hflight other).symm)

/-- An activity that is no setup ends. -/
theorem keeps_finish (hsound : work.Sound) (hborn : (work.tasks id).stage ≠ .absent)
    (hsetup : (work.tasks id).isSetup = false) :
    (work.setStage id .ended).release.Keeps given (work.Alone id) := by
  constructor
  · apply Sound.release
    apply hsound.setTask { work.tasks id with stage := .ended } hborn rfl
    · intro hheld
      rw [isSetup_of_held hsound hheld] at hsetup
      cases hsetup
    · intro hrunning
      rw [running_ended] at hrunning
      cases hrunning
  · intro _
    refine (accurate_released rfl).trans ?_
    constructor
    · intro hnone other hflight
      by_contra hother
      exact hnone other ((inFlight_setTask_of_ne hother).mpr hflight)
    · intro halone other hflight
      by_cases hother : other = id
      · subst hother
        exact not_inFlight_ended hflight
      · exact hother (halone other ((inFlight_setTask_of_ne hother).mp hflight))

/-- `executeMutation` takes its first step. -/
theorem keeps_start (hsound : work.Sound) {stage : Stage}
    (hborn : (work.tasks id).stage ≠ .absent) (hsetup : (work.tasks id).isSetup = false)
    (hruns : { work.tasks id with stage }.running = true) :
    (work.setStage id stage).engage.Keeps given True := by
  constructor
  · apply Sound.engage
    apply hsound.setTask { work.tasks id with stage } hborn rfl (fun _ => hruns)
    intro _ hissetup _
    rw [hsetup] at hissetup
    cases hissetup
  · intro _
    rw [iff_true]
    apply accurate_of_engaged rfl
    refine ⟨id, ?_, ?_⟩
    · rw [show (work.setStage id stage).engage.tasks id = { work.tasks id with stage } from
        setTask_self work id _]
      exact hruns
    · intro hissetup
      rw [show (work.setStage id stage).engage.tasks id = { work.tasks id with stage } from
        setTask_self work id _] at hissetup
      exact absurd (hsetup.symm.trans hissetup) Bool.false_ne_true

/-- The setup is asked to stop. -/
theorem Sound.cancelSetup (hsound : work.Sound) : work.cancelSetup.Sound := by
  unfold Work.cancelSetup
  cases hheld : work.setupTask with
  | none => exact hsound
  | some id =>
      obtain ⟨hrunning, -⟩ := hsound.held id hheld
      apply hsound.setTask { work.tasks id with cancelled := true } _ rfl
      · exact fun _ => hrunning
      · intro _ _ huncancelled
        cases huncancelled
      · exact born_of_running hrunning

theorem inFlight_cancelSetup (work : Work) (id : Nat) :
    work.cancelSetup.InFlight id ↔ work.InFlight id := by
  unfold Work.cancelSetup
  cases hheld : work.setupTask with
  | none => exact Iff.rfl
  | some held =>
      by_cases hid : id = held
      · subst hid
        have htask : (work.setTask id { work.tasks id with cancelled := true }).tasks id =
            { work.tasks id with cancelled := true } := setTask_self _ _ _
        unfold InFlight
        rw [htask]
        exact ⟨fun h => ⟨h.1, fun _ => .inr hheld⟩, fun h => ⟨h.1, fun _ => .inr hheld⟩⟩
      · exact inFlight_setTask_of_ne hid

theorem keeps_cancelSetup (hsound : work.Sound) (haccurate : given → work.Accurate) :
    work.cancelSetup.Keeps given True := by
  refine ⟨hsound.cancelSetup, ?_⟩
  have happlying : work.cancelSetup.isApplyingAction = work.isApplyingAction := by
    unfold Work.cancelSetup
    split <;> rfl
  intro hgiven
  rw [iff_true, Accurate, happlying]
  exact (haccurate hgiven).trans (exists_congr fun id => (inFlight_cancelSetup work id).symm)

/-! ## Letting a setup go -/

theorem setupTask_cancelSetup (work : Work) : work.cancelSetup.setupTask = work.setupTask := by
  unfold Work.cancelSetup
  split <;> rfl

theorem job_cancelSetup (work : Work) (id : Nat) :
    (work.cancelSetup.tasks id).job = (work.tasks id).job := by
  unfold Work.cancelSetup
  cases work.setupTask with
  | none => rfl
  | some held =>
      dsimp only
      by_cases hid : id = held
      · rw [hid, setTask_self]
      · exact congrArg ActionTask.job (setTask_of_ne work hid _)

theorem isSetup_cancelSetup (work : Work) (id : Nat) :
    (work.cancelSetup.tasks id).isSetup = (work.tasks id).isSetup := by
  unfold ActionTask.isSetup
  rw [job_cancelSetup]

theorem cancelled_of_held (hheld : work.setupTask = some id) :
    (work.cancelSetup.tasks id).cancelled = true := by
  unfold Work.cancelSetup
  rw [hheld]
  exact congrArg ActionTask.cancelled (setTask_self work id _)

/-- After the setup is cancelled, every setup run is. -/
theorem cancelled_of_running (hsound : work.Sound)
    (hrunning : (work.cancelSetup.tasks id).running = true)
    (hsetup : (work.cancelSetup.tasks id).isSetup = true) :
    (work.cancelSetup.tasks id).cancelled = true := by
  by_contra huncancelled
  have hheld := hsound.cancelSetup.uncancelled id hrunning hsetup (by simpa using huncancelled)
  rw [setupTask_cancelSetup] at hheld
  exact huncancelled (cancelled_of_held hheld)

/-- No setup is in flight once it is let go. -/
theorem inFlight_letGo (hsound : work.Sound) :
    work.letGo.InFlight id ↔ work.InFlight id ∧ (work.tasks id).isSetup = false := by
  constructor
  · rintro ⟨hrunning, hcounted⟩
    have hsetup : (work.cancelSetup.tasks id).isSetup = false := by
      by_contra hsetup
      have hissetup : (work.cancelSetup.tasks id).isSetup = true := by simpa using hsetup
      rcases hcounted hissetup with huncancelled | hheld
      · have hcancelled := cancelled_of_running hsound hrunning hissetup
        exact absurd (huncancelled.symm.trans hcancelled) Bool.false_ne_true
      · cases hheld
    refine ⟨(inFlight_cancelSetup work id).mp ⟨hrunning, ?_⟩,
      isSetup_cancelSetup work id ▸ hsetup⟩
    intro hissetup
    exact absurd (hsetup.symm.trans hissetup) Bool.false_ne_true
  · rintro ⟨hflight, hsetup⟩
    obtain ⟨hrunning, -⟩ := (inFlight_cancelSetup work id).mpr hflight
    refine ⟨hrunning, ?_⟩
    intro hissetup
    have hsame : (work.cancelSetup.tasks id).isSetup = true := hissetup
    rw [isSetup_cancelSetup, hsetup] at hsame
    cases hsame

theorem Sound.letGo (hsound : work.Sound) : work.letGo.Sound := by
  have hcancelled := hsound.cancelSetup
  constructor
  · exact hcancelled.unborn
  · intro id hheld
    cases hheld
  · intro id hrunning hsetup huncancelled
    have htrue := cancelled_of_running hsound hrunning hsetup
    exact absurd (huncancelled.symm.trans htrue) Bool.false_ne_true
  · exact hcancelled.bounded
  · exact hcancelled.distinct

theorem onlySetup_iff (hsound : work.Sound) :
    work.OnlySetup ↔ ∀ id, work.InFlight id → (work.tasks id).isSetup = true := by
  constructor
  · intro honly id hflight
    exact isSetup_of_held hsound (honly id hflight)
  · intro hall id hflight
    exact held_of_inFlight hsound hflight (hall id hflight)

theorem keeps_letGo (hsound : work.Sound) : work.letGo.Keeps given work.OnlySetup := by
  refine ⟨hsound.letGo, fun _ => ?_⟩
  rw [accurate_released rfl, onlySetup_iff hsound]
  constructor
  · intro hnone id hflight
    by_contra hsetup
    exact hnone id ((inFlight_letGo hsound).mpr ⟨hflight, by simpa using hsetup⟩)
  · intro hall id hflight
    obtain ⟨hflight, hsetup⟩ := (inFlight_letGo hsound).mp hflight
    rw [hall id hflight] at hsetup
    cases hsetup

/-- `stop` moves the generation on; a setup it lets go is cancelled first. -/
theorem keeps_stop (hsound : work.Sound) (haccurate : given → work.Accurate) :
    work.stop.Keeps given (work.setupTask.isSome = true → work.OnlySetup) := by
  cases hheld : work.setupTask with
  | none =>
      have hstop : work.stop =
          { work with storeStopGeneration := work.storeStopGeneration + 1 } := by
        unfold Work.stop
        rw [hheld]
        rfl
      rw [hstop]
      refine ⟨⟨hsound.unborn, ?_, hsound.uncancelled, hsound.bounded, hsound.distinct⟩, ?_⟩
      · intro id hid
        exact absurd (hheld.symm.trans hid) nofun
      · intro hgiven
        constructor
        · exact fun _ => nofun
        · exact fun _ => haccurate hgiven
  | some id =>
      have hstop : work.stop =
          { work.letGo with storeStopGeneration := work.storeStopGeneration + 1 } := by
        unfold Work.stop Work.letGo Work.cancelSetup
        rw [hheld]
        rfl
      have hletGo : work.letGo.Keeps given work.OnlySetup := keeps_letGo hsound
      rw [hstop]
      refine ⟨⟨hletGo.1.unborn, nofun, hletGo.1.uncancelled, hletGo.1.bounded,
        hletGo.1.distinct⟩, fun hgiven => ?_⟩
      refine Iff.trans ?_ ((hletGo.2 hgiven).trans ⟨fun honly _ => honly, fun honly => honly rfl⟩)
      exact Iff.rfl

/-! ## A setup run ends -/

theorem isSetup_of_job {generation stopGeneration : Nat} {confirmed : Option (Received SetupPlan)}
    (hjob : (work.tasks id).job = .guidedSetup generation stopGeneration confirmed) :
    (work.tasks id).isSetup = true := by
  unfold ActionTask.isSetup
  rw [hjob]

/-- The store holds no other setup of the current generations. -/
theorem held_of_current (hsound : work.Sound) {generation stopGeneration held : Nat}
    {confirmed : Option (Received SetupPlan)}
    (hjob : (work.tasks id).job = .guidedSetup generation stopGeneration confirmed)
    (hgeneration : generation = work.setupGeneration) (hheld : work.setupTask = some held) :
    held = id := by
  obtain ⟨-, plan, hplan⟩ := hsound.held held hheld
  rw [hgeneration] at hjob
  exact hsound.distinct held id _ _ _ _ _ hplan hjob

/-- A task ends, and the store holds no setup any more. -/
theorem Sound.giveUp (hsound : work.Sound) (hborn : (work.tasks id).stage ≠ .absent)
    (hheld : ∀ held, work.setupTask = some held → held = id) : (work.giveUp id).Sound := by
  have hjobs : ∀ other, ((work.setStage id .ended).tasks other).job = (work.tasks other).job :=
    job_setTask rfl
  constructor
  · exact fun other hother => hsound.unborn_setTask hborn hother
  · intro other hother
    cases hother
  · intro other hrunning hsetup huncancelled
    have hne : other ≠ id := by
      rintro rfl
      exact not_running_ended hrunning
    have htask : (work.giveUp id).tasks other = work.tasks other := setTask_of_ne work hne _
    rw [htask] at hrunning hsetup huncancelled
    exact absurd (hheld other (hsound.uncancelled other hrunning hsetup huncancelled)) hne
  · intro other generation stopGeneration confirmed hother
    exact hsound.bounded other generation stopGeneration confirmed ((hjobs other).symm.trans hother)
  · intro first second generation firstStop secondStop firstPlan secondPlan hfirst hsecond
    exact hsound.distinct first second generation firstStop secondStop firstPlan secondPlan
      ((hjobs first).symm.trans hfirst) ((hjobs second).symm.trans hsecond)

theorem inFlight_giveUp (hsound : work.Sound)
    (hheld : ∀ held, work.setupTask = some held → held = id) {other : Nat} :
    (work.giveUp id).InFlight other ↔ other ≠ id ∧ work.InFlight other := by
  by_cases hother : other = id
  · subst hother
    exact iff_of_false (fun hflight => not_running_ended hflight.1) fun h => h.1 rfl
  · have htask : (work.giveUp id).tasks other = work.tasks other := setTask_of_ne work hother _
    constructor
    · rintro ⟨hrunning, hcounted⟩
      rw [htask] at hrunning hcounted
      refine ⟨hother, hrunning, fun hsetup => (hcounted hsetup).imp_right ?_⟩
      exact fun hnone => nomatch hnone
    · rintro ⟨-, hflight⟩
      refine ⟨htask ▸ hflight.1, fun hsetup => ?_⟩
      rw [htask] at hsetup
      exact absurd (hheld other (held_of_inFlight hsound hflight hsetup)) hother

theorem keeps_giveUp (hsound : work.Sound) (hborn : (work.tasks id).stage ≠ .absent)
    (hheld : ∀ held, work.setupTask = some held → held = id) :
    (work.giveUp id).Keeps given (work.Alone id) := by
  refine ⟨hsound.giveUp hborn hheld, fun _ => (accurate_released rfl).trans ?_⟩
  constructor
  · intro hnone other hflight
    by_contra hother
    exact hnone other ((inFlight_giveUp hsound hheld).mpr ⟨hother, hflight⟩)
  · intro halone other hflight
    obtain ⟨hother, hflight⟩ := (inFlight_giveUp hsound hheld).mp hflight
    exact hother (halone other hflight)

theorem keeps_finishSetup (hsound : work.Sound) (haccurate : given → work.Accurate)
    {generation stopGeneration : Nat} {confirmed : Option (Received SetupPlan)}
    (hjob : (work.tasks id).job = .guidedSetup generation stopGeneration confirmed)
    (hrunning : (work.tasks id).running = true) :
    (work.finishSetup id generation stopGeneration).Keeps given
      (work.isCurrent generation stopGeneration = true → work.Alone id) := by
  have hborn := born_of_running hrunning
  unfold Work.finishSetup
  cases hcurrent : work.isCurrent generation stopGeneration with
  | false =>
      have hnotHeld : work.setupTask ≠ some id := by
        intro hheld
        obtain ⟨-, plan, hplan⟩ := hsound.held id hheld
        have hsame := hjob.symm.trans hplan
        injection hsame with hgeneration hstop
        simp [Work.isCurrent, hgeneration, hstop] at hcurrent
      have hidle : ¬ work.InFlight id := fun hflight =>
        hnotHeld (held_of_inFlight hsound hflight (isSetup_of_job hjob))
      refine ⟨?_, ?_⟩
      · apply hsound.setTask { work.tasks id with stage := .ended } hborn rfl
        · exact fun hheld => absurd hheld hnotHeld
        · intro hran
          rw [running_ended] at hran
          cases hran
      · intro hgiven
        constructor
        · exact fun _ => nofun
        · intro _
          refine (haccurate hgiven).trans (exists_congr fun other => ?_)
          by_cases hother : other = id
          · subst hother
            exact iff_of_false hidle not_inFlight_ended
          · exact (inFlight_setTask_of_ne hother).symm
  | true =>
      have hgeneration : generation = work.setupGeneration := by
        simp only [Work.isCurrent, Bool.and_eq_true, decide_eq_true_eq] at hcurrent
        exact hcurrent.1
      have hgiveUp : (work.giveUp id).Keeps given (work.Alone id) :=
        keeps_giveUp hsound hborn fun held hheld =>
          held_of_current hsound hjob hgeneration hheld
      exact hgiveUp.congr ⟨fun halone _ => halone, fun halone => halone rfl⟩

/-! ## New tasks -/

theorem spawn_tasks_of_ne (work : Work) (job : Job) {other : Nat}
    (hother : other ≠ work.nextTask) :
    (work.spawn job).tasks other = work.tasks other :=
  setTask_of_ne work hother _

theorem spawn_tasks_self (work : Work) (job : Job) :
    (work.spawn job).tasks work.nextTask = { job, stage := .queued } :=
  setTask_self work _ _

theorem Sound.spawn (hsound : work.Sound) {job : Job}
    (hjob : ∀ generation stopGeneration confirmed,
      job ≠ .guidedSetup generation stopGeneration confirmed) : (work.spawn job).Sound := by
  have hset : ∀ other generation stopGeneration confirmed,
      ((work.spawn job).tasks other).job = .guidedSetup generation stopGeneration confirmed →
        (work.tasks other).job = .guidedSetup generation stopGeneration confirmed := by
    intro other generation stopGeneration confirmed hother
    by_cases hne : other = work.nextTask
    · rw [hne, spawn_tasks_self] at hother
      exact absurd hother (hjob generation stopGeneration confirmed)
    · rwa [spawn_tasks_of_ne work job hne] at hother
  constructor
  · intro other hother
    have hne : other ≠ work.nextTask := Nat.ne_of_gt hother
    rw [spawn_tasks_of_ne work job hne]
    exact hsound.unborn other (Nat.le_of_succ_le hother)
  · intro other hother
    obtain ⟨hrunning, confirmed, hconfirmed⟩ := hsound.held other hother
    have hne : other ≠ work.nextTask :=
      Nat.ne_of_lt (hsound.lt_nextTask (born_of_running hrunning))
    rw [spawn_tasks_of_ne work job hne]
    exact ⟨hrunning, confirmed, hconfirmed⟩
  · intro other hrunning hsetup huncancelled
    by_cases hne : other = work.nextTask
    · rw [hne, spawn_tasks_self] at hsetup
      cases job with
      | guidedSetup generation stopGeneration confirmed => exact absurd rfl (hjob _ _ _)
      | mutation | lifecycle | idleCleanupPreview | capacityPreview => cases hsetup
    · rw [spawn_tasks_of_ne work job hne] at hrunning hsetup huncancelled
      exact hsound.uncancelled other hrunning hsetup huncancelled
  · intro other generation stopGeneration confirmed hother
    exact hsound.bounded other _ _ _ (hset other _ _ _ hother)
  · intro first second generation firstStop secondStop firstPlan secondPlan hfirst hsecond
    exact hsound.distinct first second _ _ _ _ _ (hset first _ _ _ hfirst)
      (hset second _ _ _ hsecond)

/-- A queued mutation is not in flight yet. -/
theorem keeps_spawn (hsound : work.Sound) (haccurate : given → work.Accurate) {job : Job}
    (hjob : ∀ generation stopGeneration confirmed,
      job ≠ .guidedSetup generation stopGeneration confirmed)
    (hidle : ActionTask.running { job, stage := .queued } = false) :
    (work.spawn job).Keeps given True := by
  refine ⟨hsound.spawn hjob, fun hgiven => ?_⟩
  rw [iff_true]
  refine (haccurate hgiven).trans (exists_congr fun other => ?_)
  by_cases hother : other = work.nextTask
  · apply iff_of_false
    · intro hflight
      exact absurd (hother ▸ hsound.lt_nextTask (born_of_running hflight.1)) (Nat.lt_irrefl _)
    · rintro ⟨hrunning, -⟩
      rw [hother, spawn_tasks_self, hidle] at hrunning
      cases hrunning
  · exact (inFlight_setTask_of_ne hother).symm

/-- A preview is in flight from the turn that starts it. -/
theorem keeps_spawn_engage (hsound : work.Sound) {job : Job}
    (hjob : ∀ generation stopGeneration confirmed,
      job ≠ .guidedSetup generation stopGeneration confirmed)
    (hruns : ActionTask.running { job, stage := .queued } = true) :
    (work.spawn job).engage.Keeps given True := by
  refine ⟨(hsound.spawn hjob).engage, fun _ => ?_⟩
  rw [iff_true]
  apply accurate_of_engaged rfl
  have htask : (work.spawn job).engage.tasks work.nextTask = { job, stage := .queued } :=
    spawn_tasks_self work job
  refine ⟨work.nextTask, ?_, ?_⟩
  · rw [htask]
    exact hruns
  · intro _
    rw [htask]
    exact .inl rfl

theorem nextTask_cancelSetup (work : Work) : work.cancelSetup.nextTask = work.nextTask := by
  unfold Work.cancelSetup
  split <;> rfl

theorem storeStopGeneration_cancelSetup (work : Work) :
    work.cancelSetup.storeStopGeneration = work.storeStopGeneration := by
  unfold Work.cancelSetup
  split <;> rfl

/-- A new setup takes the place of the one the store holds. -/
theorem keeps_replaceSetup (hsound : work.Sound) {confirmed : Option (Received SetupPlan)} :
    (work.replaceSetup confirmed).Keeps given True := by
  have hcancelled := hsound.cancelSetup
  have hself : (work.replaceSetup confirmed).tasks work.nextTask =
      { job := .guidedSetup (work.setupGeneration + 1) work.storeStopGeneration confirmed
        stage := .queued } := by
    rw [← nextTask_cancelSetup]
    exact spawn_tasks_self work.cancelSetup _
  have hother : ∀ other, other ≠ work.nextTask →
      (work.replaceSetup confirmed).tasks other = work.cancelSetup.tasks other := by
    intro other hne
    exact spawn_tasks_of_ne work.cancelSetup _ (nextTask_cancelSetup work ▸ hne)
  have hbounded : ∀ other generation stopGeneration plan, other ≠ work.nextTask →
      ((work.replaceSetup confirmed).tasks other).job =
        .guidedSetup generation stopGeneration plan → generation ≤ work.setupGeneration := by
    intro other generation stopGeneration plan hne hjob
    rw [hother other hne, job_cancelSetup] at hjob
    exact hsound.bounded other _ _ _ hjob
  refine ⟨⟨?_, ?_, ?_, ?_, ?_⟩, ?_⟩
  · intro id hle
    have hle' : work.nextTask + 1 ≤ id := nextTask_cancelSetup work ▸ hle
    rw [hother id (Nat.ne_of_gt hle')]
    exact hcancelled.unborn id (nextTask_cancelSetup work ▸ Nat.le_of_succ_le hle')
  · intro id hheld
    obtain rfl : work.nextTask = id := Option.some.inj hheld
    have hstop : (work.replaceSetup confirmed).storeStopGeneration = work.storeStopGeneration :=
      storeStopGeneration_cancelSetup work
    rw [hself, hstop]
    exact ⟨rfl, confirmed, rfl⟩
  · intro id hrunning hsetup huncancelled
    by_cases hid : id = work.nextTask
    · rw [hid]
      rfl
    · rw [hother id hid] at hrunning hsetup huncancelled
      have htrue := cancelled_of_running hsound hrunning hsetup
      exact absurd (huncancelled.symm.trans htrue) Bool.false_ne_true
  · intro id generation stopGeneration plan hjob
    by_cases hid : id = work.nextTask
    · rw [hid, hself] at hjob
      injection hjob with hgeneration
      exact Nat.le_of_eq hgeneration.symm
    · exact Nat.le_succ_of_le (hbounded id _ _ _ hid hjob)
  · intro first second generation firstStop secondStop firstPlan secondPlan hfirst hsecond
    by_cases hfirstNew : first = work.nextTask
    · by_cases hsecondNew : second = work.nextTask
      · rw [hfirstNew, hsecondNew]
      · have hbound := hbounded second _ _ _ hsecondNew hsecond
        rw [hfirstNew, hself] at hfirst
        injection hfirst with hgeneration
        omega
    · by_cases hsecondNew : second = work.nextTask
      · have hbound := hbounded first _ _ _ hfirstNew hfirst
        rw [hsecondNew, hself] at hsecond
        injection hsecond with hgeneration
        omega
      · rw [hother first hfirstNew] at hfirst
        rw [hother second hsecondNew] at hsecond
        exact hcancelled.distinct first second _ _ _ _ _ hfirst hsecond
  · intro _
    rw [iff_true]
    refine accurate_of_engaged rfl ⟨work.nextTask, ?_, fun _ => .inr rfl⟩
    rw [hself]
    rfl

end

end Work

end SimulatorBroker.Actions
