import SimulatorBroker.Service.Shutdown

/-!
# Closed admission

Whenever admission is closed, a shutdown must be on its way, and one shutdown run alone
removes the files.  Both hold in every run in which the answer to a stop request is
lost or completed at the right moment only.
-/

namespace SimulatorBroker.Service

namespace BrokerService

/-- The completion callback of an answer that is being written will schedule a
shutdown. -/
def Answering (service : BrokerService) : Prop :=
  ∃ request ∈ service.stopRequests, request.stage = .answering

/-- A shutdown run is in progress or scheduled, if only by a completion callback. -/
def Underway (service : BrokerService) : Prop :=
  (∃ run ∈ service.runs, run.stage ≠ .finished) ∨ service.Answering

/-- The next signal starts a shutdown run. -/
def SignalStarts (service : BrokerService) : Prop :=
  ∀ fault, ∃ next, service.step (.signal fault) = some next ∧
    next.runs.length = service.runs.length + 1

/-- A shutdown run has done its work to the end. -/
def Stopped (service : BrokerService) : Prop :=
  service.listening = false ∧
  ∃ run, (run, .metadata) ∈ service.removals ∧ (run, .socket) ∈ service.removals

/-- The daemon listens, refuses every command and ignores signals, and nothing is going
to change that. -/
def DeadEnd (service : BrokerService) : Prop :=
  service.exited = false ∧ service.listening = true ∧ service.shuttingDown = true ∧
  ¬ service.Underway ∧ ¬ service.SignalStarts

/-- What is asked of every state reached. -/
structure Served (service : BrokerService) : Prop where
  underway : service.exited = false → service.shuttingDown = true →
    service.Underway ∨ service.SignalStarts ∨ service.Stopped
  noDeadEnd : ¬ service.DeadEnd
  removedByOne : ∀ first ∈ service.removals, ∀ second ∈ service.removals, first.1 = second.1

/-! ## The condition -/

/-- The connection of a stop answer breaks only if a shutdown run has been called for or
another answer is still being written, and a stop answer is completed only if none has
been called for. -/
def Orderly (service : BrokerService) : ServiceEvent → Prop
  | .disconnect connection =>
      service.runs = [] → service.Answering →
        ∃ request ∈ service.stopRequests,
          request.stage = .answering ∧ request.connection ≠ connection
  | .stopAnswered _ => service.runs = []
  | _ => True

/-- A run whose turns all meet the condition. -/
inductive OrderlyRun : BrokerService → List ServiceEvent → BrokerService → Prop where
  | nil (service : BrokerService) : OrderlyRun service [] service
  | cons {service middle last : BrokerService} {event : ServiceEvent}
      {events : List ServiceEvent} (orderly : service.Orderly event)
      (happens : service.step event = some middle) (rest : OrderlyRun middle events last) :
      OrderlyRun service (event :: events) last

/-! ## The invariant -/

/-- What the stage of a run says about the endpoint. -/
def StageSound (service : BrokerService) (run : RunId) : ShutdownStage → Prop
  | .closing => service.listening = false ∧ (run, .metadata) ∈ service.removals
  | .finished => service.listening = false ∧ (run, .metadata) ∈ service.removals ∧
      (run, .socket) ∈ service.removals
  | _ => True

/-- At most one run is ever called for, and closed admission has called for one or is
about to. -/
structure Guarded (service : BrokerService) : Prop where
  oneRun : service.runs.length ≤ 1
  called : service.exited = false → service.shuttingDown = true →
    service.runs ≠ [] ∨ service.Answering
  closed : service.runs ≠ [] ∨ service.Answering → service.shuttingDown = true
  numbered : ∀ removal ∈ service.removals, removal.1 < service.runs.length
  staged : ∀ run found, service.runs[run]? = some found → service.StageSound run found.stage

theorem StageSound.mono {service next : BrokerService} {run : RunId} {stage : ShutdownStage}
    (hsound : service.StageSound run stage)
    (hlistening : service.listening = false → next.listening = false)
    (hremovals : ∀ removal ∈ service.removals, removal ∈ next.removals) :
    next.StageSound run stage := by
  cases stage with
  | closing => exact ⟨hlistening hsound.1, hremovals _ hsound.2⟩
  | finished => exact ⟨hlistening hsound.1, hremovals _ hsound.2.1, hremovals _ hsound.2.2⟩
  | _ => trivial

namespace Guarded

variable {service : BrokerService}

theorem initial : Guarded {} where
  oneRun := Nat.zero_le 1
  called := by
    rintro - ⟨⟩
  closed := by
    rintro (hruns | ⟨request, hrequest, -⟩)
    · exact absurd rfl hruns
    · cases hrequest
  numbered := by
    rintro removal hremoval
    cases hremoval
  staged := by
    rintro run found hfound
    cases hfound

/-- A turn that leaves the runs, the answers and the endpoint alone. -/
theorem frame {next : BrokerService} (hguarded : Guarded service)
    (hruns : next.runs = service.runs) (hlistening : next.listening = service.listening)
    (hremovals : next.removals = service.removals)
    (hclosed : next.shuttingDown = service.shuttingDown)
    (halive : next.exited = false → service.exited = false)
    (hanswering : next.Answering ↔ service.Answering) : Guarded next where
  oneRun := by
    rw [hruns]
    exact hguarded.oneRun
  called := by
    intro hexited hshut
    rw [hruns, hanswering]
    exact hguarded.called (halive hexited) (hclosed ▸ hshut)
  closed := by
    rw [hruns, hanswering, hclosed]
    exact hguarded.closed
  numbered := by
    rw [hruns, hremovals]
    exact hguarded.numbered
  staged := by
    intro run found hfound
    rw [hruns] at hfound
    exact (hguarded.staged run found hfound).mono (fun hstill => hlistening.trans hstill)
      (fun removal hremoval => hremovals ▸ hremoval)

theorem exit (hguarded : Guarded service) : Guarded service.exit :=
  hguarded.frame rfl rfl rfl rfl (by rintro ⟨⟩) Iff.rfl

/-- The queue may move as long as it leaves admission alone. -/
theorem withQueue {queue : Daemon} (hguarded : Guarded service)
    (hclosed : queue.shuttingDown = service.queue.shuttingDown)
    (halive : queue.exited = false → service.queue.exited = false) :
    Guarded (service.withQueue queue) :=
  hguarded.frame rfl rfl rfl hclosed halive Iff.rfl

theorem lt_length {run : RunId} {found : ShutdownRun} (hfound : service.runs[run]? = some found) :
    run < service.runs.length :=
  (List.getElem?_eq_some_iff.mp hfound).1

theorem getElem?_setStage {run other : RunId} {stage : ShutdownStage} {found : ShutdownRun}
    (hfound : (service.setStage run stage).runs[other]? = some found) :
    ∃ before, service.runs[other]? = some before ∧
      (found.stage = before.stage ∨ other = run ∧ found.stage = stage) := by
  simp only [setStage, List.getElem?_modify] at hfound
  cases hbefore : service.runs[other]? with
  | none => simp [hbefore] at hfound
  | some before =>
      refine ⟨before, rfl, ?_⟩
      simp only [hbefore, Option.map_eq_map, Option.map_some, Option.some.injEq] at hfound
      split at hfound
      · next hsame =>
        refine Or.inr ⟨hsame.symm, ?_⟩
        rw [← hfound]
      · refine Or.inl ?_
        rw [← hfound]

theorem runs_setStage_ne_nil (run : RunId) (stage : ShutdownStage) :
    (service.setStage run stage).runs ≠ [] ↔ service.runs ≠ [] := by
  simp [setStage, List.modify_eq_nil_iff]

/-- A run that goes on, with what its new stage says. -/
theorem advance {next : BrokerService} {run : RunId} (hguarded : Guarded service)
    (stage : ShutdownStage) (hrun : run < service.runs.length)
    (hruns : next.runs = (service.setStage run stage).runs)
    (hlistening : service.listening = false → next.listening = false)
    (hremovals : ∀ removal ∈ service.removals, removal ∈ next.removals)
    (hnumbered : ∀ removal ∈ next.removals, removal ∈ service.removals ∨ removal.1 = run)
    (hclosed : next.shuttingDown = service.shuttingDown)
    (hsound : next.StageSound run stage) : Guarded next where
  oneRun := by
    simp only [hruns, setStage, List.length_modify]
    exact hguarded.oneRun
  called := by
    rintro - -
    rw [hruns, runs_setStage_ne_nil]
    exact Or.inl (List.ne_nil_of_length_pos (Nat.zero_lt_of_lt hrun))
  closed := by
    intro hcalled
    rw [hclosed]
    exact hguarded.closed (Or.inl (List.ne_nil_of_length_pos (Nat.zero_lt_of_lt hrun)))
  numbered := by
    intro removal hremoval
    simp only [hruns, setStage, List.length_modify]
    rcases hnumbered removal hremoval with hold | hnew
    · exact hguarded.numbered removal hold
    · rw [hnew]
      exact hrun
  staged := by
    intro other found hfound
    rw [hruns] at hfound
    obtain ⟨before, hbefore, hsame | ⟨rfl, hstage⟩⟩ := getElem?_setStage hfound
    · rw [hsame]
      exact (hguarded.staged other before hbefore).mono hlistening hremovals
    · rw [hstage]
      exact hsound

theorem setStage {run : RunId} {stage : ShutdownStage} (hguarded : Guarded service)
    (hrun : run < service.runs.length) (hsound : service.StageSound run stage) :
    Guarded (service.setStage run stage) :=
  hguarded.advance stage hrun rfl id (fun _ hremoval => hremoval) (fun _ hremoval => Or.inl hremoval)
    rfl (hsound.mono id fun _ hremoval => hremoval)

theorem removeMetadata {run : RunId} (hguarded : Guarded service)
    (hrun : run < service.runs.length) (fault : Bool) :
    Guarded (service.removeMetadata run fault) := by
  unfold BrokerService.removeMetadata
  cases fault with
  | true => exact hguarded.exit
  | false =>
      refine hguarded.advance .closing hrun rfl (fun _ => rfl) ?_ ?_ rfl ?_
      · intro removal hremoval
        exact List.mem_append_left _ hremoval
      · intro removal hremoval
        rcases List.mem_append.mp hremoval with hold | hnew
        · exact Or.inl hold
        · exact Or.inr (by rw [List.mem_singleton.mp hnew])
      · exact ⟨rfl, List.mem_append_right _ (List.mem_singleton.mpr rfl)⟩

theorem removeSocket {run : RunId} (hguarded : Guarded service)
    (hrun : run < service.runs.length) (hclosing : service.StageSound run .closing)
    (exitProcess fault : Bool) : Guarded (service.removeSocket run exitProcess fault) := by
  unfold BrokerService.removeSocket
  cases fault with
  | true => exact hguarded.exit
  | false =>
      have hremoved : Guarded { service.setStage run .finished with
          removals := service.removals ++ [(run, .socket)] } := by
        refine hguarded.advance .finished hrun rfl id ?_ ?_ rfl ?_
        · intro removal hremoval
          exact List.mem_append_left _ hremoval
        · intro removal hremoval
          rcases List.mem_append.mp hremoval with hold | hnew
          · exact Or.inl hold
          · exact Or.inr (by rw [List.mem_singleton.mp hnew])
        · exact ⟨hclosing.1, List.mem_append_left _ hclosing.2,
            List.mem_append_right _ (List.mem_singleton.mpr rfl)⟩
      cases exitProcess with
      | true => exact hremoved.exit
      | false => exact hremoved

theorem drainSnapshots {run : RunId} (hguarded : Guarded service)
    (hrun : run < service.runs.length) (fault : Bool) :
    Guarded (service.drainSnapshots run fault) := by
  unfold BrokerService.drainSnapshots
  split
  · exact hguarded.removeMetadata hrun fault
  · exact hguarded.setStage hrun trivial

theorem drainCommands {run : RunId} (hguarded : Guarded service)
    (hrun : run < service.runs.length) (fault : Bool) :
    Guarded (service.drainCommands run fault) := by
  unfold BrokerService.drainCommands
  split
  · exact hguarded.drainSnapshots hrun fault
  · exact hguarded.setStage hrun trivial

theorem beginShutdown {run : RunId} (hguarded : Guarded service)
    (hrun : run < service.runs.length) (fault : Bool) :
    Guarded (service.beginShutdown run fault) := by
  unfold BrokerService.beginShutdown
  split
  · exact hguarded.setStage hrun trivial
  · exact hguarded.drainCommands hrun fault

theorem resume {next : BrokerService} {run : RunId} {fault : Bool} (hguarded : Guarded service)
    (hresume : service.resume run fault = some next) : Guarded next := by
  unfold BrokerService.resume at hresume
  split at hresume
  · cases hresume
  · next found hfound =>
    have hrun := lt_length hfound
    have hsound := hguarded.staged run found hfound
    cases hstage : found.stage with
    | scheduled =>
        simp only [hstage, Option.some.injEq] at hresume
        exact hresume ▸ hguarded.beginShutdown hrun fault
    | awaitingIdle work =>
        simp only [hstage, Option.ite_none_right_eq_some, Option.some.injEq] at hresume
        exact hresume.2 ▸ hguarded.drainCommands hrun fault
    | awaitingCommands works =>
        simp only [hstage, Option.ite_none_right_eq_some, Option.some.injEq] at hresume
        exact hresume.2 ▸ hguarded.setStage hrun trivial
    | commandsTurn =>
        simp only [hstage, Option.some.injEq] at hresume
        exact hresume ▸ hguarded.drainSnapshots hrun fault
    | awaitingSnapshots workers =>
        simp only [hstage, Option.ite_none_right_eq_some, Option.some.injEq] at hresume
        exact hresume.2 ▸ hguarded.setStage hrun trivial
    | snapshotsTurn =>
        simp only [hstage, Option.some.injEq] at hresume
        exact hresume ▸ hguarded.removeMetadata hrun fault
    | closing =>
        simp only [hstage, Option.ite_none_right_eq_some, Option.some.injEq] at hresume
        rw [hstage] at hsound
        exact hresume.2 ▸ hguarded.removeSocket hrun hsound found.exitProcess fault
    | finished =>
        simp only [hstage] at hresume
        cases hresume

/-- The first call for a shutdown, by whoever closes admission or has closed it. -/
theorem callFor {next : BrokerService} (hguarded : Guarded service) (exitProcess : Bool)
    (hnone : service.runs = []) (hruns : next.runs = [{ exitProcess }])
    (hremovals : next.removals = service.removals) (hclosed : next.shuttingDown = true) :
    Guarded next where
  oneRun := by
    rw [hruns]
    exact Nat.le_refl 1
  called := by
    rintro - -
    rw [hruns]
    exact Or.inl (List.cons_ne_nil _ _)
  closed := fun _ => hclosed
  numbered := by
    intro removal hremoval
    rw [hremovals] at hremoval
    have himpossible := hguarded.numbered removal hremoval
    rw [hnone] at himpossible
    cases himpossible
  staged := by
    intro run found hfound
    rw [hruns] at hfound
    cases run with
    | zero =>
        cases hfound
        trivial
    | succ run => cases hfound

theorem signal (hguarded : Guarded service) (fault : Bool) :
    Guarded (service.signal fault) := by
  unfold BrokerService.signal
  cases hshut : service.shuttingDown with
  | true => exact hguarded
  | false =>
      have hnone : service.runs = [] := by
        by_contra hsome
        have himpossible := hguarded.closed (Or.inl hsome)
        rw [hshut] at himpossible
        cases himpossible
      have hcalled : Guarded (service.closeCommandAdmissionForShutdown.callFor true) := by
        refine hguarded.callFor true hnone ?_ rfl rfl
        simp [BrokerService.callFor, closeCommandAdmissionForShutdown, hnone]
      refine hcalled.beginShutdown ?_ fault
      simp [BrokerService.callFor, closeCommandAdmissionForShutdown]

/-! ## Stop requests -/

theorem disconnect {next : BrokerService} {connection : ConnectionId}
    (hguarded : Guarded service) (horderly : service.Orderly (.disconnect connection))
    (hnext : service.disconnect connection = some next) : Guarded next := by
  simp only [BrokerService.disconnect, Option.ite_none_right_eq_some, Option.some.injEq] at hnext
  obtain ⟨-, rfl⟩ := hnext
  have hkept : ∀ request, request ∈ service.stopRequests.filter (·.connection ≠ connection) ↔
      request ∈ service.stopRequests ∧ request.connection ≠ connection := by
    intro request
    simp
  constructor
  · exact hguarded.oneRun
  · intro halive hshut
    rcases hguarded.called halive hshut with hruns | hanswering
    · exact Or.inl hruns
    · by_cases hruns : service.runs = []
      · obtain ⟨request, hrequest, hstage, hother⟩ := horderly hruns hanswering
        exact Or.inr ⟨request, (hkept request).mpr ⟨hrequest, hother⟩, hstage⟩
      · exact Or.inl hruns
  · rintro (hruns | ⟨request, hrequest, hstage⟩)
    · exact hguarded.closed (Or.inl hruns)
    · exact hguarded.closed (Or.inr ⟨request, ((hkept request).mp hrequest).1, hstage⟩)
  · exact hguarded.numbered
  · intro run found hfound
    exact (hguarded.staged run found hfound).mono id fun _ hremoval => hremoval

theorem stopRequest {next : BrokerService} {connection : ConnectionId}
    (hguarded : Guarded service) (hnext : service.stopRequest connection = some next) :
    Guarded next := by
  simp only [BrokerService.stopRequest, Option.ite_none_right_eq_some, Option.some.injEq] at hnext
  obtain ⟨-, rfl⟩ := hnext
  refine hguarded.frame rfl rfl rfl rfl id ?_
  constructor
  · rintro ⟨request, hrequest, hstage⟩
    rcases List.mem_append.mp hrequest with hold | hnew
    · exact ⟨request, hold, hstage⟩
    · rw [List.mem_singleton.mp hnew] at hstage
      cases hstage
  · rintro ⟨request, hrequest, hstage⟩
    exact ⟨request, List.mem_append_left _ hrequest, hstage⟩

theorem receiveStop {next : BrokerService} {index : Nat} {valid : Bool}
    (hguarded : Guarded service) (hnext : service.receiveStop index valid = some next) :
    Guarded next := by
  unfold BrokerService.receiveStop at hnext
  split at hnext
  · cases hnext
  · next request hrequest =>
    obtain ⟨hindex, hat⟩ := List.getElem?_eq_some_iff.mp hrequest
    simp only [Option.ite_none_right_eq_some] at hnext
    obtain ⟨hreading, hnext⟩ := hnext
    cases valid with
    | true =>
        simp only [if_true, Option.some.injEq] at hnext
        subst hnext
        have hanswering : ∃ answer ∈ service.stopRequests.set index
            { request with stage := .answering }, answer.stage = .answering :=
          ⟨_, List.mem_set hindex _, rfl⟩
        constructor
        · exact hguarded.oneRun
        · exact fun _ _ => Or.inr hanswering
        · exact fun _ => rfl
        · exact hguarded.numbered
        · intro run found hfound
          exact (hguarded.staged run found hfound).mono id fun _ hremoval => hremoval
    | false =>
        simp only [Bool.false_eq_true, if_false, Option.some.injEq] at hnext
        subst hnext
        refine hguarded.frame rfl rfl rfl rfl id ?_
        constructor
        · rintro ⟨answer, hanswer, hstage⟩
          exact ⟨answer, List.mem_of_mem_eraseIdx hanswer, hstage⟩
        · rintro ⟨answer, hanswer, hstage⟩
          refine ⟨answer, ?_, hstage⟩
          rw [List.mem_eraseIdx_iff_getElem?]
          obtain ⟨position, hposition⟩ := List.mem_iff_getElem?.mp hanswer
          refine ⟨position, ?_, hposition⟩
          rintro rfl
          rw [hrequest] at hposition
          cases hposition
          rw [hstage] at hreading
          cases hreading

theorem stopAnswered {next : BrokerService} {index : Nat} (hguarded : Guarded service)
    (horderly : service.Orderly (.stopAnswered index))
    (hnext : service.stopAnswered index = some next) : Guarded next := by
  unfold BrokerService.stopAnswered at hnext
  split at hnext
  · cases hnext
  · next request hrequest =>
    simp only [Option.ite_none_right_eq_some, Option.some.injEq] at hnext
    obtain ⟨hstage, rfl⟩ := hnext
    have hnone : service.runs = [] := horderly
    refine hguarded.callFor false hnone ?_ rfl ?_
    · simp [BrokerService.callFor, hnone]
    · exact hguarded.closed (Or.inr ⟨request, List.mem_of_getElem? hrequest, hstage⟩)

end Guarded

/-! ## The queue -/

/-- The queue leaves admission alone, and a process that has ended stays so. -/
def Leaves (daemon next : Daemon) : Prop :=
  next.shuttingDown = daemon.shuttingDown ∧ (next.exited = false → daemon.exited = false)

theorem leaves_runSerializedCommand (daemon : Daemon) (files : ServiceFiles)
    (request : RequestId) (body : CommandBody) (now : Int) :
    Leaves daemon (daemon.runSerializedCommand files request body now).1 := by
  unfold Daemon.runSerializedCommand
  split
  · exact ⟨rfl, id⟩
  · dsimp only
    split
    · exact ⟨rfl, id⟩
    · exact ⟨rfl, id⟩

theorem leaves_receiveCommand (daemon : Daemon) (files : ServiceFiles) (body : CommandBody)
    (now : Int) : Leaves daemon (daemon.receiveCommand files body now) := by
  unfold Daemon.receiveCommand
  split
  · exact ⟨rfl, id⟩
  · have hleaves := leaves_runSerializedCommand { daemon with arrivals := daemon.arrivals + 1 }
      files daemon.arrivals body now
    dsimp only
    split
    · next hadmitted =>
      rw [hadmitted] at hleaves
      exact hleaves
    · next hadmitted =>
      rw [hadmitted] at hleaves
      exact hleaves

theorem leaves_idleTick (daemon : Daemon) (healthy : Bool) :
    Leaves daemon (daemon.idleTick healthy) := by
  unfold Daemon.idleTick
  split
  · exact ⟨rfl, id⟩
  · exact ⟨rfl, id⟩

theorem leaves_settleWork (daemon : Daemon) (id : WorkId) (work : Work) (outcome : Outcome) :
    Leaves daemon (daemon.settleWork id work outcome) := by
  unfold Daemon.settleWork
  dsimp only
  split
  · exact ⟨rfl, by rintro ⟨⟩⟩
  · exact ⟨rfl, fun halive => halive⟩

theorem leaves_startWork {daemon next : Daemon} {files : ServiceFiles} {id : WorkId} {now : Int}
    (hnext : daemon.startWork files id now = some next) : Leaves daemon next := by
  unfold Daemon.startWork at hnext
  split at hnext
  · cases hnext
  · next work hwork =>
    split at hnext
    · cases hnext
    · dsimp only at hnext
      split at hnext
      · cases hnext
        exact ⟨rfl, fun halive => halive⟩
      · split at hnext
        · cases hnext
          exact leaves_settleWork { daemon with started := daemon.started ++ [id] } id work _
        · cases hnext
          exact ⟨rfl, fun halive => halive⟩

theorem leaves_finishWork {daemon next : Daemon} {id : WorkId} {succeeds : Bool}
    (hnext : daemon.finishWork id succeeds = some next) : Leaves daemon next := by
  unfold Daemon.finishWork at hnext
  split at hnext
  · cases hnext
  · split at hnext
    · cases hnext
    · cases hnext
      exact leaves_settleWork daemon id _ _

theorem leaves_forgetWork {daemon next : Daemon} {id : WorkId}
    (hnext : daemon.forgetWork id = some next) : Leaves daemon next := by
  unfold Daemon.forgetWork at hnext
  split at hnext
  · cases hnext
  · cases hnext
    exact ⟨rfl, fun halive => halive⟩

/-! ## Whole runs -/

namespace Guarded

variable {service : BrokerService}

theorem moved {next : BrokerService} {moved : Option Daemon} (hguarded : Guarded service)
    (hleaves : ∀ queue, moved = some queue → Leaves service.queue queue)
    (hnext : moved.map service.withQueue = some next) : Guarded next := by
  obtain ⟨queue, hqueue, rfl⟩ := Option.map_eq_some_iff.mp hnext
  exact hguarded.withQueue (hleaves queue hqueue).1 (hleaves queue hqueue).2

theorem step {next : BrokerService} {event : ServiceEvent} (hguarded : Guarded service)
    (horderly : service.Orderly event) (hstep : service.step event = some next) :
    Guarded next := by
  unfold BrokerService.step at hstep
  split at hstep
  · cases hstep
  · cases event with
    | command files body now =>
        obtain ⟨hclosed, halive⟩ := leaves_receiveCommand service.queue files body now
        cases hstep
        exact hguarded.withQueue hclosed halive
    | idleTick healthy =>
        obtain ⟨hclosed, halive⟩ := leaves_idleTick service.queue healthy
        cases hstep
        exact hguarded.withQueue hclosed halive
    | start files work now => exact hguarded.moved (fun _ => leaves_startWork) hstep
    | finish work succeeds => exact hguarded.moved (fun _ => leaves_finishWork) hstep
    | forget work => exact hguarded.moved (fun _ => leaves_forgetWork) hstep
    | snapshot =>
        cases hstep
        unfold runTrackedAppSnapshotWorker
        split
        · exact hguarded
        · exact hguarded.frame rfl rfl rfl rfl id Iff.rfl
    | finishSnapshot worker =>
        simp only [finishSnapshot, Option.ite_none_right_eq_some, Option.some.injEq] at hstep
        exact hstep.2 ▸ hguarded.frame rfl rfl rfl rfl id Iff.rfl
    | forgetSnapshot worker =>
        simp only [forgetSnapshot, Option.ite_none_right_eq_some, Option.some.injEq] at hstep
        exact hstep.2 ▸ hguarded.frame rfl rfl rfl rfl id Iff.rfl
    | connect =>
        simp only [connect, Option.ite_none_right_eq_some] at hstep
        obtain ⟨-, hstep⟩ := hstep
        split at hstep
        all_goals
          cases hstep
          exact hguarded.frame rfl rfl rfl rfl id Iff.rfl
    | disconnect connection => exact hguarded.disconnect horderly hstep
    | stopRequest connection => exact hguarded.stopRequest hstep
    | receiveStop index valid => exact hguarded.receiveStop hstep
    | stopAnswered index => exact hguarded.stopAnswered horderly hstep
    | signal fault =>
        cases hstep
        exact hguarded.signal fault
    | resume run fault => exact hguarded.resume hstep
    | uncaughtException =>
        cases hstep
        exact hguarded.exit

theorem run {last : BrokerService} {events : List ServiceEvent} (hguarded : Guarded service)
    (hrun : OrderlyRun service events last) : Guarded last := by
  induction hrun with
  | nil service => exact hguarded
  | cons orderly happens rest ih => exact ih (hguarded.step orderly happens)

theorem served (hguarded : Guarded service) : Served service := by
  have hunderway : service.exited = false → service.shuttingDown = true →
      service.Underway ∨ service.Stopped := by
    intro halive hshut
    rcases hguarded.called halive hshut with hruns | hanswering
    · obtain ⟨found, rest, hfound⟩ := List.exists_cons_of_ne_nil hruns
      have hfirst : service.runs[0]? = some found := by simp [hfound]
      by_cases hfinished : found.stage = .finished
      · have hsound := hguarded.staged 0 found hfirst
        rw [hfinished] at hsound
        exact Or.inr ⟨hsound.1, 0, hsound.2⟩
      · exact Or.inl (Or.inl ⟨found, List.mem_of_getElem? hfirst, hfinished⟩)
    · exact Or.inl (Or.inr hanswering)
  constructor
  · intro halive hshut
    exact (hunderway halive hshut).imp_right Or.inr
  · rintro ⟨halive, hlistening, hshut, hnone, -⟩
    rcases hunderway halive hshut with hsome | hstopped
    · exact hnone hsome
    · rw [hstopped.1] at hlistening
      cases hlistening
  · intro first hfirst second hsecond
    have honly : ∀ removal ∈ service.removals, removal.1 = 0 := fun removal hremoval =>
      Nat.lt_one_iff.mp (Nat.lt_of_lt_of_le (hguarded.numbered removal hremoval) hguarded.oneRun)
    rw [honly first hfirst, honly second hsecond]

end Guarded

/-- In every run whose stop answers are completed or lost at the right moment only, closed
admission is never a dead end and one shutdown run alone removes the files. -/
theorem served_of_orderlyRun {service : BrokerService} {events : List ServiceEvent}
    (hrun : OrderlyRun {} events service) : Served service :=
  (Guarded.initial.run hrun).served

/-- A stop request is answered; its shutdown waits for nothing and removes both files. -/
theorem served_of_orderlyRun_stop :
    ∃ stopped, OrderlyRun {} [.connect, .stopRequest 0, .receiveStop 0 true, .stopAnswered 0,
        .resume 0 false, .resume 0 false] stopped ∧
      stopped.removals = [(0, .metadata), (0, .socket)] ∧ Served stopped := by
  have hrun : OrderlyRun {} [.connect, .stopRequest 0, .receiveStop 0 true, .stopAnswered 0,
      .resume 0 false, .resume 0 false] _ :=
    .cons trivial rfl (.cons trivial rfl (.cons trivial rfl (.cons rfl rfl
      (.cons trivial rfl (.cons trivial rfl (.nil _))))))
  exact ⟨_, hrun, rfl, served_of_orderlyRun hrun⟩

/-- The client leaves before its answer is written: the daemon listens, refuses and
ignores signals for good.  Two answered stop requests remove the files twice. -/
theorem served_fails :
    (∃ service, run {} [.connect, .stopRequest 0, .receiveStop 0 true, .disconnect 0] =
        some service ∧ service.DeadEnd ∧ ¬ Served service) ∧
    ∃ service, run {} [.connect, .connect, .stopRequest 0, .stopRequest 1, .receiveStop 0 true,
        .receiveStop 1 true, .stopAnswered 0, .stopAnswered 0, .resume 0 false, .resume 1 false,
        .resume 0 false, .resume 1 false] = some service ∧
      service.removals = [(0, .metadata), (1, .metadata), (0, .socket), (1, .socket)] ∧
      ¬ Served service := by
  constructor
  · refine ⟨_, rfl, ?_⟩
    have hdead : DeadEnd { accepted := 1, queue := { shuttingDown := true } } := by
      refine ⟨rfl, rfl, rfl, ?_, ?_⟩
      · rintro (⟨found, hfound, -⟩ | ⟨request, hrequest, -⟩)
        · cases hfound
        · cases hrequest
      · intro hstarts
        obtain ⟨next, hnext, hlength⟩ := hstarts false
        cases hnext
        cases hlength
    exact ⟨hdead, fun hserved => hserved.noDeadEnd hdead⟩
  · refine ⟨_, rfl, rfl, ?_⟩
    intro hserved
    have hsame := hserved.removedByOne (0, .metadata) (List.mem_cons_self)
      (1, .metadata) (List.mem_cons_of_mem _ List.mem_cons_self)
    cases hsame

end BrokerService

end SimulatorBroker.Service
