import SimulatorBroker.Service.Queue

/-!
# The command queue is serial

What holds in every run in which no execution budget that the daemon asks for
raises: the works start one at a time and in order, and a shutdown waits for all
of them.
-/

namespace SimulatorBroker.Service

/-! ## The condition -/

/-- The execution budget of a request can be computed from the files. -/
def Budgetable (files : ServiceFiles) (request : CommandRequest) : Prop :=
  ∃ budget, commandExecutionTimeoutMsForDispatch files request = .ok budget

/-- No budget that this event asks for raises: an open admission asks for one when the
fresh body names none, a dispatch when the body has all three timing fields and is not
too late. -/
def Budgeted (daemon : Daemon) : Event → Prop
  | .command files body now =>
      daemon.shuttingDown = false → assertCommandFreshForDispatch files body now = .ok () →
        body.clientCommandExecutionTimeoutMilliseconds = .missing → Budgetable files body.request
  | .start files id now =>
      ∀ work request body, daemon.works[id]? = some work → work.job = .command request body →
        ∀ startedAt queueTimeoutMs executionTimeoutMs,
          body.clientRequestStartedAtMilliseconds = .integer startedAt →
          body.clientCommandQueueTimeoutMilliseconds = .integer queueTimeoutMs →
          body.clientCommandExecutionTimeoutMilliseconds = .integer executionTimeoutMs →
          now - startedAt ≤ queueTimeoutMs → Budgetable files body.request
  | _ => True

/-- A run whose events all meet the condition. -/
inductive Run : Daemon → List Event → Daemon → Prop where
  | nil (daemon : Daemon) : Run daemon [] daemon
  | cons {daemon middle last : Daemon} {event : Event} {events : List Event}
      (budgeted : Budgeted daemon event) (happens : step daemon event = some middle)
      (rest : Run middle events last) : Run daemon (event :: events) last

/-! ## Timing fields -/

/-- The timing fields of a body can be read. -/
def WellTimed (body : CommandBody) : Prop :=
  (∃ value, optionalBodyInteger body.clientRequestStartedAtMilliseconds false = .ok value) ∧
  (∃ value, optionalBodyInteger body.clientCommandQueueTimeoutMilliseconds true = .ok value) ∧
  ∃ value, optionalBodyInteger body.clientCommandExecutionTimeoutMilliseconds true = .ok value

theorem optionalBodyInteger_some {field : BodyField} {positive : Bool} {value : Int}
    (hok : optionalBodyInteger field positive = .ok (some value)) : field = .integer value := by
  cases field with
  | missing => cases hok
  | integer found =>
      cases positive
      all_goals
        simp only [optionalBodyInteger, if_true, if_false, Bool.false_eq_true] at hok
        split at hok
      all_goals cases hok
      all_goals rfl
  | other => cases hok

theorem optionalBodyInteger_none {field : BodyField} {positive : Bool}
    (hok : optionalBodyInteger field positive = .ok none) : field = .missing := by
  cases field with
  | missing => rfl
  | integer value =>
      cases positive
      all_goals
        simp only [optionalBodyInteger, if_true, if_false, Bool.false_eq_true] at hok
        split at hok
        all_goals cases hok
  | other => cases hok

/-- A body that passes the check can be read. -/
theorem WellTimed.of_fresh {files : ServiceFiles} {body : CommandBody} {now : Int}
    (hfresh : assertCommandFreshForDispatch files body now = .ok ()) : WellTimed body := by
  unfold assertCommandFreshForDispatch at hfresh
  cases hstarted : optionalBodyInteger body.clientRequestStartedAtMilliseconds false with
  | error error => simp [hstarted, bind, Except.bind] at hfresh
  | ok startedAt =>
      cases hqueue : optionalBodyInteger body.clientCommandQueueTimeoutMilliseconds true with
      | error error => simp [hstarted, hqueue, bind, Except.bind] at hfresh
      | ok queueTimeoutMs =>
          cases hexecution :
              optionalBodyInteger body.clientCommandExecutionTimeoutMilliseconds true with
          | error error => simp [hstarted, hqueue, hexecution, bind, Except.bind] at hfresh
          | ok executionTimeoutMs => exact ⟨⟨_, hstarted⟩, ⟨_, hqueue⟩, ⟨_, hexecution⟩⟩

/-- A readable body is refused at its dispatch only when it has expired. -/
theorem WellTimed.expired {files : ServiceFiles} {body : CommandBody} {now : Int}
    {error : ServiceError} (htimed : WellTimed body)
    (hbudget : ∀ startedAt queueTimeoutMs executionTimeoutMs,
      body.clientRequestStartedAtMilliseconds = .integer startedAt →
      body.clientCommandQueueTimeoutMilliseconds = .integer queueTimeoutMs →
      body.clientCommandExecutionTimeoutMilliseconds = .integer executionTimeoutMs →
      now - startedAt ≤ queueTimeoutMs → Budgetable files body.request)
    (hrefused : assertCommandFreshForDispatch files body now = .error error) :
    error = .serviceCommandExpired := by
  obtain ⟨⟨startedAt, hstarted⟩, ⟨queueTimeoutMs, hqueue⟩, ⟨executionTimeoutMs, hexecution⟩⟩ :=
    htimed
  simp only [assertCommandFreshForDispatch, hstarted, hqueue, hexecution, bind, Except.bind]
    at hrefused
  cases startedAt with
  | none => cases hrefused
  | some startedAt =>
      cases queueTimeoutMs with
      | none => cases hrefused
      | some queueTimeoutMs =>
          simp only at hrefused
          split at hrefused
          · cases hrefused
            rfl
          · next hearly =>
            cases executionTimeoutMs with
            | none => cases hrefused
            | some executionTimeoutMs =>
                obtain ⟨budget, hok⟩ := hbudget startedAt queueTimeoutMs executionTimeoutMs
                  (optionalBodyInteger_some hstarted) (optionalBodyInteger_some hqueue)
                  (optionalBodyInteger_some hexecution) (Int.not_lt.mp hearly)
                simp only [hok] at hrefused
                split at hrefused
                · cases hrefused
                · cases hrefused
                  rfl

/-- The drain deadline of an admitted body is computed. -/
theorem WellTimed.drains {files : ServiceFiles} {body : CommandBody} (htimed : WellTimed body)
    (hbudget : body.clientCommandExecutionTimeoutMilliseconds = .missing →
      Budgetable files body.request) (now : Int) :
    ∃ deadline, Daemon.commandDrainDeadlineMilliseconds files body now = .ok deadline := by
  obtain ⟨-, -, ⟨executionTimeoutMs, hexecution⟩⟩ := htimed
  unfold Daemon.commandDrainDeadlineMilliseconds
  rw [hexecution]
  cases executionTimeoutMs with
  | some executionTimeoutMs => exact ⟨_, rfl⟩
  | none =>
      obtain ⟨budget, hok⟩ := hbudget (optionalBodyInteger_none hexecution)
      simp only [bind, Except.bind, hok]
      exact ⟨_, rfl⟩

/-! ## What one event does -/

/-- The effect of an event that meets the condition. -/
inductive Change (daemon : Daemon) : Daemon → Prop where
  | unchanged : Change daemon daemon
  | refused : Change daemon
      { daemon with arrivals := daemon.arrivals + 1, refused := daemon.arrivals :: daemon.refused }
  | admitted (body : CommandBody) (timed : WellTimed body) (opened : daemon.shuttingDown = false) :
      Change daemon { daemon with
        works := daemon.works ++ [
          { job := .command daemon.arrivals body, after := daemon.commandWorkerQueue
            handled := true }]
        arrivals := daemon.arrivals + 1
        activeCommandWorkers := daemon.activeCommandWorkers ++ [daemon.works.length]
        commandWorkerQueue := some daemon.works.length }
  | scheduled (opened : daemon.shuttingDown = false)
      (idle : daemon.activeIdleReconciliation = none) :
      Change daemon { daemon with
        works := daemon.works ++ [
          { job := .idleReconciliation, after := daemon.commandWorkerQueue, handled := true }]
        commandWorkerQueue := some daemon.works.length
        activeIdleReconciliation := some daemon.works.length }
  | begun (id : WorkId) (work : Work) (progress : Progress) (found : daemon.works[id]? = some work)
      (waiting : work.progress = .waiting) (ready : daemon.isReady work = true)
      (next : progress = .running ∨ progress = .settled (.rejected .serviceCommandExpired)) :
      Change daemon { daemon with
        works := daemon.works.set id { work with progress }
        started := daemon.started ++ [id] }
  | finished (id : WorkId) (work : Work) (outcome : Outcome)
      (found : daemon.works[id]? = some work) (running : work.progress = .running)
      (next : outcome = .completed ∨ outcome = .failed) :
      Change daemon { daemon with
        works := daemon.works.set id { work with progress := .settled outcome } }
  | forgotten (id : WorkId) (settled : daemon.isSettled id = true) :
      Change daemon { daemon with
        activeCommandWorkers := daemon.activeCommandWorkers.filter (· ≠ id)
        activeIdleReconciliation := daemon.activeIdleReconciliation.filter (· ≠ id) }
  | closed : Change daemon daemon.closeAdmission
  | stopping (closed : daemon.shuttingDown = true) : Change daemon daemon.beginShutdown
  | signalled : Change daemon daemon.closeAdmission.beginShutdown
  | advanced (index : Nat) (work : WorkId) (found : daemon.shutdowns[index]? = some (.awaitingIdle work))
      (settled : daemon.isSettled work = true) :
      Change daemon { daemon with shutdowns := daemon.shutdowns.set index daemon.commandsPhase }
  | drained (index : Nat) (works : List WorkId)
      (found : daemon.shutdowns[index]? = some (.awaitingCommands works))
      (settled : ∀ work ∈ works, daemon.isSettled work = true) :
      Change daemon { daemon with shutdowns := daemon.shutdowns.set index .finishing }
  | removed (index : Nat) (found : daemon.shutdowns[index]? = some .finishing) :
      Change daemon { daemon with socketRemoved := true }

/-- What every work of a run satisfies: it is awaited, and can be read if it is a command. -/
structure Sane (work : Work) : Prop where
  handled : work.handled = true
  timed : ∀ request body, work.job = .command request body → WellTimed body

theorem change_command {daemon : Daemon} {files : ServiceFiles} {body : CommandBody} (now : Int)
    (hbudget : Budgeted daemon (.command files body now)) :
    Change daemon (daemon.receiveCommand files body now) := by
  unfold Daemon.receiveCommand
  cases hfresh : assertCommandFreshForDispatch files body now with
  | error error => exact .refused
  | ok fresh =>
      have htimed : WellTimed body := WellTimed.of_fresh hfresh
      cases hclosed : daemon.shuttingDown with
      | true =>
          simp only [Daemon.runSerializedCommand, if_true]
          have hrefused : Change daemon _ := .refused
          simpa only [hclosed] using hrefused
      | false =>
          obtain ⟨deadline, hdrains⟩ := htimed.drains (hbudget hclosed hfresh) now
          simp only [Daemon.runSerializedCommand, Bool.false_eq_true, if_false, hdrains]
          simpa only [hclosed, Daemon.chain] using Change.admitted body htimed hclosed

theorem change_idleTick (daemon : Daemon) (healthy : Bool) :
    Change daemon (daemon.idleTick healthy) := by
  unfold Daemon.idleTick
  split
  · exact .unchanged
  · next hidle =>
      obtain ⟨hnone, hopened⟩ : daemon.activeIdleReconciliation = none ∧
          daemon.shuttingDown = false := by
        simp only [not_or, not_not, Bool.not_eq_true] at hidle
        exact ⟨hidle.1, hidle.2.1⟩
      exact .scheduled hopened hnone

theorem settleWork_handled {daemon : Daemon} {work : Work} (hhandled : work.handled = true)
    (id : WorkId) (outcome : Outcome) :
    daemon.settleWork id work outcome =
      { daemon with works := daemon.works.set id { work with progress := .settled outcome } } := by
  simp [Daemon.settleWork, hhandled]

theorem change_start {daemon next : Daemon} {files : ServiceFiles} {id : WorkId} {now : Int}
    (hsane : ∀ work ∈ daemon.works, Sane work)
    (hbudget : Budgeted daemon (.start files id now))
    (hstep : daemon.startWork files id now = some next) : Change daemon next := by
  unfold Daemon.startWork at hstep
  cases hfound : daemon.works[id]? with
  | none => simp [hfound] at hstep
  | some work =>
      have hwork := hsane work (List.mem_of_getElem? hfound)
      simp only [hfound] at hstep
      split at hstep
      · cases hstep
      · next henabled =>
          obtain ⟨hwaiting, hready⟩ : work.progress = .waiting ∧ daemon.isReady work = true := by
            simpa only [not_or, not_not, Bool.not_eq_false] using henabled
          cases hjob : work.job with
          | idleReconciliation =>
              simp only [hjob] at hstep
              cases hstep
              simpa only [hjob] using
                Change.begun id work .running hfound hwaiting hready (Or.inl rfl)
          | command request body =>
              simp only [hjob] at hstep
              cases hfresh : assertCommandFreshForDispatch files body now with
              | ok fresh =>
                  simp only [hfresh] at hstep
                  cases hstep
                  simpa only [hjob] using
                    Change.begun id work .running hfound hwaiting hready (Or.inl rfl)
              | error error =>
                  have hexpired := (hwork.timed request body hjob).expired
                    (hbudget work request body hfound hjob) hfresh
                  rw [hfresh, hexpired] at hstep
                  simp only [settleWork_handled hwork.handled] at hstep
                  cases hstep
                  exact .begun id work _ hfound hwaiting hready (Or.inr rfl)

theorem change_finish {daemon next : Daemon} {id : WorkId} {succeeds : Bool}
    (hsane : ∀ work ∈ daemon.works, Sane work)
    (hstep : daemon.finishWork id succeeds = some next) : Change daemon next := by
  unfold Daemon.finishWork at hstep
  cases hfound : daemon.works[id]? with
  | none => simp [hfound] at hstep
  | some work =>
      have hwork := hsane work (List.mem_of_getElem? hfound)
      simp only [hfound, settleWork_handled hwork.handled] at hstep
      split at hstep
      · cases hstep
      · next hrunning =>
          cases hstep
          refine .finished id work _ hfound (not_not.mp hrunning) ?_
          cases succeeds with
          | true => exact Or.inl rfl
          | false => exact Or.inr rfl

theorem change_advanceShutdown {daemon next : Daemon} {index : Nat}
    (hstep : daemon.advanceShutdown index = some next) : Change daemon next := by
  unfold Daemon.advanceShutdown at hstep
  cases hfound : daemon.shutdowns[index]? with
  | none => simp [hfound] at hstep
  | some phase =>
      cases phase with
      | awaitingIdle work =>
          simp only [hfound] at hstep
          split at hstep
          · next hsettled =>
              cases hstep
              exact .advanced index work hfound hsettled
          · cases hstep
      | awaitingCommands works =>
          simp only [hfound] at hstep
          split at hstep
          · next hsettled =>
              cases hstep
              exact .drained index works hfound (List.all_eq_true.mp hsettled)
          · cases hstep
      | finishing =>
          simp only [hfound] at hstep
          cases hstep
          exact .removed index hfound

/-- Every event that meets the condition is one of the changes. -/
theorem change_step {daemon next : Daemon} {event : Event}
    (hsane : ∀ work ∈ daemon.works, Sane work) (hbudget : Budgeted daemon event)
    (hstep : step daemon event = some next) : Change daemon next := by
  unfold step at hstep
  split at hstep
  · cases hstep
  · cases event with
    | command files body now =>
        cases hstep
        exact change_command now hbudget
    | idleTick healthy =>
        cases hstep
        exact change_idleTick daemon healthy
    | start files id now => exact change_start hsane hbudget hstep
    | finish id succeeds => exact change_finish hsane hstep
    | forget id =>
        simp only [Daemon.forgetWork] at hstep
        split at hstep
        · cases hstep
        · next hsettled =>
            cases hstep
            exact .forgotten id (by simpa using hsettled)
    | stopRequest =>
        cases hstep
        exact .closed
    | stopAnswered =>
        simp only at hstep
        split at hstep
        · next hclosed =>
            cases hstep
            exact .stopping hclosed
        · cases hstep
    | signal =>
        simp only at hstep
        split at hstep
        · cases hstep
          exact .unchanged
        · cases hstep
          exact .signalled
    | advanceShutdown index => exact change_advanceShutdown hstep

/-! ## Order -/

theorem getElem?_concat {works : List Work} {added work : Work} {id : Nat}
    (hfound : (works ++ [added])[id]? = some work) :
    works[id]? = some work ∨ (id = works.length ∧ work = added) := by
  by_cases hold : id < works.length
  · rw [List.getElem?_append_left hold] at hfound
    exact Or.inl hfound
  · rw [List.getElem?_append_right (Nat.le_of_not_lt hold)] at hfound
    obtain ⟨hzero, hwork⟩ := List.getElem?_eq_some_iff.mp hfound
    have hid : id = works.length := by
      simp only [List.length_singleton] at hzero
      omega
    exact Or.inr ⟨hid, by simpa using hwork.symm⟩

theorem getElem?_set_cases {works : List Work} {changed work : Work} {id other : Nat}
    (hfound : (works.set id changed)[other]? = some work) :
    (other = id ∧ work = changed) ∨ (other ≠ id ∧ works[other]? = some work) := by
  rw [List.getElem?_set] at hfound
  split at hfound
  · next heq =>
      split at hfound
      · exact Or.inl ⟨heq.symm, (Option.some.inj hfound).symm⟩
      · cases hfound
  · next hne => exact Or.inr ⟨fun heq => hne heq.symm, hfound⟩

/-- The works are chained one to the next, and have been started in that order, each
after the one before it had settled. -/
structure Ordered (daemon : Daemon) : Prop where
  chained : ∀ id work, daemon.works[id]? = some work →
    work.after = if id = 0 then none else some (id - 1)
  tail : daemon.commandWorkerQueue =
    if daemon.works.length = 0 then none else some (daemon.works.length - 1)
  inOrder : daemon.started = List.range daemon.started.length
  bounded : daemon.started.length ≤ daemon.works.length
  begun : ∀ id work, daemon.works[id]? = some work →
    (id < daemon.started.length ↔ work.progress ≠ .waiting)
  earlier : ∀ id work, daemon.works[id]? = some work → id + 1 < daemon.started.length →
    work.progress.isSettled = true

namespace Ordered

variable {daemon : Daemon}

/-- One more work at the end of the chain. -/
theorem append (hordered : Ordered daemon) {next : Daemon} {added : Work}
    (hworks : next.works = daemon.works ++ [added])
    (hafter : added.after = daemon.commandWorkerQueue) (hwaiting : added.progress = .waiting)
    (hqueue : next.commandWorkerQueue = some daemon.works.length)
    (hstarted : next.started = daemon.started) : Ordered next where
  chained := by
    intro id work hfound
    rw [hworks] at hfound
    obtain hold | ⟨rfl, rfl⟩ := getElem?_concat hfound
    · exact hordered.chained id work hold
    · rw [hafter, hordered.tail]
  tail := by simp [hqueue, hworks]
  inOrder := by rw [hstarted]; exact hordered.inOrder
  bounded := by
    have hbounded := hordered.bounded
    rw [hstarted, hworks, List.length_append]
    omega
  begun := by
    intro id work hfound
    rw [hworks] at hfound
    rw [hstarted]
    obtain hold | ⟨rfl, rfl⟩ := getElem?_concat hfound
    · exact hordered.begun id work hold
    · simp [hwaiting, hordered.bounded]
  earlier := by
    intro id work hfound hearlier
    rw [hworks] at hfound
    rw [hstarted] at hearlier
    obtain hold | ⟨rfl, rfl⟩ := getElem?_concat hfound
    · exact hordered.earlier id work hold hearlier
    · have hbounded := hordered.bounded
      omega

/-- A work that is ready follows the last one started. -/
theorem next_eq (hordered : Ordered daemon) {id : Nat} {work : Work}
    (hfound : daemon.works[id]? = some work) (hwaiting : work.progress = .waiting)
    (hready : daemon.isReady work = true) : id = daemon.started.length := by
  have hnot : ¬ id < daemon.started.length := fun hlt =>
    (hordered.begun id work hfound).mp hlt hwaiting
  have hafter := hordered.chained id work hfound
  by_cases hzero : id = 0
  · omega
  · rw [if_neg hzero] at hafter
    simp only [Daemon.isReady, hafter, Option.all_some, Daemon.isSettled, Daemon.progressOf]
      at hready
    cases hbefore : daemon.works[id - 1]? with
    | none => simp [hbefore] at hready
    | some before =>
        have hsettled : before.progress.isSettled = true := by simpa [hbefore] using hready
        have hbegun : id - 1 < daemon.started.length := by
          refine (hordered.begun _ _ hbefore).mpr ?_
          intro heq
          rw [heq] at hsettled
          cases hsettled
        omega

/-- All works before a ready one have settled. -/
theorem before_ready (hordered : Ordered daemon) {id : Nat} {work : Work}
    (hfound : daemon.works[id]? = some work) (hwaiting : work.progress = .waiting)
    (hready : daemon.isReady work = true) {other : Nat} {before : Work}
    (hbefore : daemon.works[other]? = some before) (hlt : other < id) :
    before.progress.isSettled = true := by
  have hnext := hordered.next_eq hfound hwaiting hready
  by_cases hlast : other + 1 < daemon.started.length
  · exact hordered.earlier other before hbefore hlast
  · have hother : other = id - 1 := by omega
    have hafter := hordered.chained id work hfound
    rw [if_neg (by omega)] at hafter
    simp only [Daemon.isReady, hafter, Option.all_some, Daemon.isSettled, Daemon.progressOf,
      ← hother, hbefore, Option.map_some, Option.any_some] at hready
    exact hready

theorem started_one (hordered : Ordered daemon) {id : Nat} {work : Work} {progress : Progress}
    (hfound : daemon.works[id]? = some work) (hwaiting : work.progress = .waiting)
    (hready : daemon.isReady work = true) (hnext : progress ≠ .waiting) {next : Daemon}
    (hworks : next.works = daemon.works.set id { work with progress })
    (hqueue : next.commandWorkerQueue = daemon.commandWorkerQueue)
    (hstarted : next.started = daemon.started ++ [id]) : Ordered next := by
  have hid := hordered.next_eq hfound hwaiting hready
  have hlt : id < daemon.works.length := (List.getElem?_eq_some_iff.mp hfound).1
  have hlength : next.started.length = daemon.started.length + 1 := by simp [hstarted]
  refine ⟨?_, ?_, ?_, ?_, ?_, ?_⟩
  · intro other changed hother
    rw [hworks] at hother
    obtain ⟨rfl, rfl⟩ | ⟨-, hold⟩ := getElem?_set_cases hother
    · exact hordered.chained other work hfound
    · exact hordered.chained other changed hold
  · rw [hqueue, hworks, List.length_set]
    exact hordered.tail
  · rw [hlength, List.range_succ, ← hordered.inOrder, ← hid, hstarted]
  · rw [hlength, hworks, List.length_set]
    omega
  · intro other changed hother
    rw [hworks] at hother
    rw [hlength]
    obtain ⟨rfl, rfl⟩ | ⟨hne, hold⟩ := getElem?_set_cases hother
    · simp [hid, hnext]
    · rw [← hordered.begun other changed hold]
      omega
  · intro other changed hother hearlier
    rw [hworks] at hother
    rw [hlength] at hearlier
    obtain ⟨rfl, rfl⟩ | ⟨hne, hold⟩ := getElem?_set_cases hother
    · omega
    · exact hordered.before_ready hfound hwaiting hready hold (by omega)

theorem settled_one (hordered : Ordered daemon) {id : Nat} {work : Work} {outcome : Outcome}
    (hfound : daemon.works[id]? = some work) (hrunning : work.progress = .running) {next : Daemon}
    (hworks : next.works = daemon.works.set id { work with progress := .settled outcome })
    (hqueue : next.commandWorkerQueue = daemon.commandWorkerQueue)
    (hstarted : next.started = daemon.started) : Ordered next := by
  have hbegun : id < daemon.started.length :=
    (hordered.begun id work hfound).mpr (by simp [hrunning])
  refine ⟨?_, ?_, ?_, ?_, ?_, ?_⟩
  · intro other changed hother
    rw [hworks] at hother
    obtain ⟨rfl, rfl⟩ | ⟨-, hold⟩ := getElem?_set_cases hother
    · exact hordered.chained other work hfound
    · exact hordered.chained other changed hold
  · rw [hqueue, hworks, List.length_set]
    exact hordered.tail
  · rw [hstarted]
    exact hordered.inOrder
  · rw [hstarted, hworks, List.length_set]
    exact hordered.bounded
  · intro other changed hother
    rw [hworks] at hother
    rw [hstarted]
    obtain ⟨rfl, rfl⟩ | ⟨-, hold⟩ := getElem?_set_cases hother
    · simp [hbegun]
    · exact hordered.begun other changed hold
  · intro other changed hother hearlier
    rw [hworks] at hother
    rw [hstarted] at hearlier
    obtain ⟨rfl, rfl⟩ | ⟨-, hold⟩ := getElem?_set_cases hother
    · rfl
    · exact hordered.earlier other changed hold hearlier

/-- Everything else leaves the chain alone. -/
theorem of_eq (hordered : Ordered daemon) {next : Daemon} (hworks : next.works = daemon.works)
    (hqueue : next.commandWorkerQueue = daemon.commandWorkerQueue)
    (hstarted : next.started = daemon.started) : Ordered next := by
  obtain ⟨hchained, htail, hinOrder, hbounded, hbegun, hearlier⟩ := hordered
  exact ⟨hworks ▸ hchained, by rw [hqueue, hworks]; exact htail,
    by rw [hstarted]; exact hinOrder, by rw [hstarted, hworks]; exact hbounded,
    by rw [hstarted, hworks]; exact hbegun, by rw [hstarted, hworks]; exact hearlier⟩

theorem change {next : Daemon} (hordered : Ordered daemon) (hchange : Change daemon next) :
    Ordered next := by
  cases hchange with
  | unchanged => exact hordered
  | refused => exact hordered.of_eq rfl rfl rfl
  | admitted body timed opened => exact hordered.append rfl rfl rfl rfl rfl
  | scheduled opened idle => exact hordered.append rfl rfl rfl rfl rfl
  | begun id work progress found waiting ready next =>
      refine hordered.started_one found waiting ready ?_ rfl rfl rfl
      obtain rfl | rfl := next
      all_goals simp
  | finished id work outcome found running next =>
      exact hordered.settled_one found running rfl rfl rfl
  | forgotten id settled => exact hordered.of_eq rfl rfl rfl
  | closed => exact hordered.of_eq rfl rfl rfl
  | stopping closed => exact hordered.of_eq rfl rfl rfl
  | signalled => exact hordered.of_eq rfl rfl rfl
  | advanced index work found settled => exact hordered.of_eq rfl rfl rfl
  | drained index works found settled => exact hordered.of_eq rfl rfl rfl
  | removed index found => exact hordered.of_eq rfl rfl rfl

end Ordered

/-! ## Shutdown -/

/-- What a call of `shutdown` relies on while it waits. -/
def PhaseSound (daemon : Daemon) : ShutdownPhase → Prop
  | .awaitingIdle idle => ∀ (id : Nat) (work : Work), daemon.works[id]? = some work →
      work.progress.isSettled = false → work.job = Job.idleReconciliation → id = idle
  | .awaitingCommands works => ∀ (id : Nat) (work : Work), daemon.works[id]? = some work →
      work.progress.isSettled = false → id ∈ works
  | .finishing => ∀ work ∈ daemon.works, work.progress.isSettled = true

/-- Every work that has not settled is remembered, and a shutdown waits for it. -/
structure Remembered (daemon : Daemon) : Prop where
  commands : ∀ (id : Nat) (work : Work) request body, daemon.works[id]? = some work →
    work.progress.isSettled = false → work.job = Job.command request body →
    id ∈ daemon.activeCommandWorkers
  idle : ∀ (id : Nat) (work : Work), daemon.works[id]? = some work →
    work.progress.isSettled = false → work.job = Job.idleReconciliation → daemon.activeIdleReconciliation = some id
  phases : ∀ phase ∈ daemon.shutdowns, daemon.shuttingDown = true ∧ PhaseSound daemon phase
  removed : daemon.socketRemoved = true →
    daemon.shuttingDown = true ∧ ∀ work ∈ daemon.works, work.progress.isSettled = true

theorem isSettled_of_found {daemon : Daemon} {id : WorkId} {work : Work}
    (hfound : daemon.works[id]? = some work) :
    daemon.isSettled id = work.progress.isSettled := by
  simp [Daemon.isSettled, Daemon.progressOf, hfound]

namespace Remembered

variable {daemon : Daemon}

/-- What the commands' phase relies on, once no idle reconciliation is left. -/
theorem commandsPhase_sound (hremembered : Remembered daemon)
    (hidle : ∀ (id : Nat) (work : Work), daemon.works[id]? = some work →
      work.progress.isSettled = false → work.job ≠ Job.idleReconciliation) : PhaseSound daemon daemon.commandsPhase := by
  have hcommands : ∀ (id : Nat) (work : Work), daemon.works[id]? = some work →
      work.progress.isSettled = false → id ∈ daemon.activeCommandWorkers := by
    intro id work hfound hunsettled
    cases hjob : work.job with
    | idleReconciliation => exact absurd hjob (hidle id work hfound hunsettled)
    | command request body =>
        exact hremembered.commands id work request body hfound hunsettled hjob
  unfold Daemon.commandsPhase
  split
  · next hnone =>
      intro work hwork
      obtain ⟨id, hid, hfound⟩ := List.mem_iff_getElem.mp hwork
      by_contra hunsettled
      have hmem := hcommands id work (List.getElem?_eq_some_iff.mpr ⟨hid, hfound⟩)
        (by simpa using hunsettled)
      rw [hnone] at hmem
      cases hmem
  · exact hcommands

theorem beginShutdown_sound (hremembered : Remembered daemon) {next : Daemon}
    (hworks : next.works = daemon.works)
    (hcommands : next.activeCommandWorkers = daemon.activeCommandWorkers)
    (hidle : next.activeIdleReconciliation = daemon.activeIdleReconciliation)
    (hshutdowns : next.shutdowns = daemon.shutdowns)
    (hremoved : next.socketRemoved = daemon.socketRemoved)
    (hclosed : next.shuttingDown = true) : Remembered next.beginShutdown := by
  have hnext : Remembered next := by
    refine ⟨?_, ?_, ?_, ?_⟩
    · rw [hworks, hcommands]
      exact hremembered.commands
    · rw [hworks, hidle]
      exact hremembered.idle
    · rw [hshutdowns]
      intro phase hphase
      have hsound := (hremembered.phases phase hphase).2
      refine ⟨hclosed, ?_⟩
      cases phase with
      | _ => simpa only [PhaseSound, hworks] using hsound
    · rw [hremoved, hworks]
      exact fun hsocket => ⟨hclosed, (hremembered.removed hsocket).2⟩
  refine ⟨hnext.commands, hnext.idle, ?_, hnext.removed⟩
  intro phase hphase
  obtain hold | hadded := List.mem_append.mp hphase
  · exact hnext.phases phase hold
  · rw [List.mem_singleton.mp hadded]
    refine ⟨hclosed, ?_⟩
    cases hactive : next.activeIdleReconciliation with
    | some idle =>
        intro id work hfound hunsettled hjob
        have hsame := hnext.idle id work hfound hunsettled hjob
        rw [hactive] at hsame
        exact (Option.some.inj hsame).symm
    | none =>
        refine hnext.commandsPhase_sound ?_
        intro id work hfound hunsettled hjob
        have hsame := hnext.idle id work hfound hunsettled hjob
        rw [hactive] at hsame
        cases hsame

/-- A work moves on; nothing that had settled becomes unsettled. -/
theorem progressed (hremembered : Remembered daemon) {id : Nat} {work : Work}
    {progress : Progress} (hfound : daemon.works[id]? = some work)
    (hunsettled : work.progress.isSettled = false) {next : Daemon}
    (hnext : next = { daemon with works := daemon.works.set id { work with progress }
                                  started := next.started }) : Remembered next := by
  have hback : ∀ (other : Nat) (changed : Work), next.works[other]? = some changed →
      changed.progress.isSettled = false → ∃ before : Work, daemon.works[other]? = some before ∧
        before.progress.isSettled = false ∧ before.job = changed.job := by
    intro other changed hother hchanged
    rw [hnext] at hother
    obtain ⟨rfl, rfl⟩ | ⟨-, hold⟩ := getElem?_set_cases hother
    · exact ⟨work, hfound, hunsettled, rfl⟩
    · exact ⟨changed, hold, hchanged, rfl⟩
  have hall : (∀ before ∈ daemon.works, before.progress.isSettled = true) → False := by
    intro hsettled
    rw [hsettled work (List.mem_of_getElem? hfound)] at hunsettled
    cases hunsettled
  refine ⟨?_, ?_, ?_, ?_⟩
  · intro other changed request body hother hchanged hjob
    obtain ⟨before, hbefore, hopen, hsame⟩ := hback other changed hother hchanged
    rw [hnext]
    exact hremembered.commands other before request body hbefore hopen (hsame.trans hjob)
  · intro other changed hother hchanged hjob
    obtain ⟨before, hbefore, hopen, hsame⟩ := hback other changed hother hchanged
    rw [hnext]
    exact hremembered.idle other before hbefore hopen (hsame.trans hjob)
  · intro phase hphase
    rw [hnext] at hphase ⊢
    obtain ⟨hclosed, hsound⟩ := hremembered.phases phase hphase
    refine ⟨hclosed, ?_⟩
    rw [← hnext]
    cases phase with
    | awaitingIdle idle =>
        intro other changed hother hchanged hjob
        obtain ⟨before, hbefore, hopen, hsame⟩ := hback other changed hother hchanged
        exact hsound other before hbefore hopen (hsame.trans hjob)
    | awaitingCommands works =>
        intro other changed hother hchanged
        obtain ⟨before, hbefore, hopen, -⟩ := hback other changed hother hchanged
        exact hsound other before hbefore hopen
    | finishing => exact (hall hsound).elim
  · intro hremoved
    rw [hnext] at hremoved
    exact (hall (hremembered.removed hremoved).2).elim

/-- A work is added while admission is open, and remembered. -/
theorem appended (hremembered : Remembered daemon) (hopened : daemon.shuttingDown = false)
    {next : Daemon} {added : Work} (hworks : next.works = daemon.works ++ [added])
    (hcommand : ∀ request body, added.job = .command request body →
      daemon.works.length ∈ next.activeCommandWorkers)
    (hidle : added.job = .idleReconciliation →
      next.activeIdleReconciliation = some daemon.works.length)
    (hcommands : ∀ id ∈ daemon.activeCommandWorkers, id ∈ next.activeCommandWorkers)
    (hactive : ∀ id : Nat, daemon.activeIdleReconciliation = some id →
      next.activeIdleReconciliation = some id)
    (hshutdowns : next.shutdowns = daemon.shutdowns)
    (hremoved : next.socketRemoved = daemon.socketRemoved) : Remembered next := by
  refine ⟨?_, ?_, ?_, ?_⟩
  · intro id work request body hfound hunsettled hjob
    rw [hworks] at hfound
    obtain hold | ⟨rfl, rfl⟩ := getElem?_concat hfound
    · exact hcommands id (hremembered.commands id work request body hold hunsettled hjob)
    · exact hcommand request body hjob
  · intro id work hfound hunsettled hjob
    rw [hworks] at hfound
    obtain hold | ⟨rfl, rfl⟩ := getElem?_concat hfound
    · exact hactive id (hremembered.idle id work hold hunsettled hjob)
    · exact hidle hjob
  · intro phase hphase
    rw [hshutdowns] at hphase
    have hclosed := (hremembered.phases phase hphase).1
    rw [hopened] at hclosed
    cases hclosed
  · intro hsocket
    rw [hremoved] at hsocket
    have hclosed := (hremembered.removed hsocket).1
    rw [hopened] at hclosed
    cases hclosed

/-- One phase of a shutdown is replaced by one that is sound as well. -/
theorem phaseSet (hremembered : Remembered daemon) {index : Nat} {phase old : ShutdownPhase}
    (hfound : daemon.shutdowns[index]? = some old) (hsound : PhaseSound daemon phase) :
    Remembered { daemon with shutdowns := daemon.shutdowns.set index phase } := by
  have hclosed := (hremembered.phases old (List.mem_of_getElem? hfound)).1
  refine ⟨hremembered.commands, hremembered.idle, ?_, hremembered.removed⟩
  intro other hother
  obtain hold | rfl := List.mem_or_eq_of_mem_set hother
  · exact hremembered.phases other hold
  · exact ⟨hclosed, hsound⟩

theorem change {next : Daemon} (hremembered : Remembered daemon)
    (hchange : Change daemon next) : Remembered next := by
  cases hchange with
  | unchanged => exact hremembered
  | refused =>
      exact ⟨hremembered.commands, hremembered.idle, hremembered.phases, hremembered.removed⟩
  | admitted body timed opened =>
      refine hremembered.appended opened rfl ?_ ?_ ?_ ?_ rfl rfl
      · intro request body hjob
        simp
      · rintro ⟨⟩
      · intro id hid
        exact List.mem_append_left _ hid
      · exact fun id hid => hid
  | scheduled opened idle =>
      refine hremembered.appended opened rfl ?_ ?_ ?_ ?_ rfl rfl
      · rintro request body ⟨⟩
      · exact fun _ => rfl
      · exact fun id hid => hid
      · intro id hid
        rw [idle] at hid
        cases hid
  | begun id work progress found waiting ready next =>
      exact hremembered.progressed found (by rw [waiting]; rfl) rfl
  | finished id work outcome found running next =>
      exact hremembered.progressed found (by rw [running]; rfl) rfl
  | forgotten id settled =>
      have hother : ∀ (other : Nat) (work : Work), daemon.works[other]? = some work →
          work.progress.isSettled = false → other ≠ id := by
        rintro other work hfound hunsettled rfl
        rw [isSettled_of_found hfound, hunsettled] at settled
        cases settled
      refine ⟨?_, ?_, hremembered.phases, hremembered.removed⟩
      · intro other work request body hfound hunsettled hjob
        have hmem := hremembered.commands other work request body hfound hunsettled hjob
        simpa using ⟨hmem, hother other work hfound hunsettled⟩
      · intro other work hfound hunsettled hjob
        have hactive := hremembered.idle other work hfound hunsettled hjob
        simpa [hactive] using hother other work hfound hunsettled
  | closed =>
      refine ⟨hremembered.commands, hremembered.idle, ?_, ?_⟩
      · exact fun phase hphase => ⟨rfl, (hremembered.phases phase hphase).2⟩
      · exact fun hsocket => ⟨rfl, (hremembered.removed hsocket).2⟩
  | stopping closed => exact hremembered.beginShutdown_sound rfl rfl rfl rfl rfl closed
  | signalled => exact hremembered.beginShutdown_sound rfl rfl rfl rfl rfl rfl
  | advanced index idle found settled =>
      refine hremembered.phaseSet found (hremembered.commandsPhase_sound ?_)
      intro id work hfound hunsettled hjob
      have hsound := (hremembered.phases _ (List.mem_of_getElem? found)).2
      have hsame := hsound id work hfound hunsettled hjob
      rw [← hsame, isSettled_of_found hfound, hunsettled] at settled
      cases settled
  | drained index works found settled =>
      refine hremembered.phaseSet found ?_
      intro work hwork
      obtain ⟨id, hid, hfound⟩ := List.mem_iff_getElem.mp hwork
      have hfound : daemon.works[id]? = some work := List.getElem?_eq_some_iff.mpr ⟨hid, hfound⟩
      by_contra hunsettled
      have hsound := (hremembered.phases _ (List.mem_of_getElem? found)).2
      have hmem := hsound id work hfound (by simpa using hunsettled)
      rw [← isSettled_of_found hfound, settled id hmem] at hunsettled
      exact hunsettled rfl
  | removed index found =>
      obtain ⟨hclosed, hsound⟩ := hremembered.phases _ (List.mem_of_getElem? found)
      exact ⟨hremembered.commands, hremembered.idle, hremembered.phases,
        fun _ => ⟨hclosed, hsound⟩⟩

end Remembered

/-! ## Requests -/

/-- The request is the one that the work was admitted for. -/
def Work.Carries (work : Work) (request : RequestId) : Prop :=
  ∃ body, work.job = .command request body

/-- A work ends by its worker, or is rejected because it has expired. -/
def Work.EndsWell (work : Work) : Prop :=
  ∀ error, work.progress = .settled (.rejected error) → error = .serviceCommandExpired

/-- Every request that has arrived was either refused or is carried by exactly one work. -/
structure Accounted (daemon : Daemon) : Prop where
  sane : ∀ work ∈ daemon.works, Sane work
  endsWell : ∀ work ∈ daemon.works, work.EndsWell
  refused : ∀ request ∈ daemon.refused, request < daemon.arrivals
  carried : ∀ (id : Nat) (work : Work) (request : Nat), daemon.works[id]? = some work →
    work.Carries request → request < daemon.arrivals ∧ request ∉ daemon.refused
  once : ∀ (id other : Nat) (work twin : Work) (request : Nat),
    daemon.works[id]? = some work → daemon.works[other]? = some twin →
    work.Carries request → twin.Carries request → id = other
  admitted : ∀ request : Nat, request < daemon.arrivals → request ∉ daemon.refused →
    ∃ (id : Nat) (work : Work), daemon.works[id]? = some work ∧ work.Carries request
  alive : daemon.exited = false

namespace Accounted

variable {daemon : Daemon}

/-- A work moves on, and keeps what it was admitted for. -/
theorem progressed (haccounted : Accounted daemon) {id : Nat} {work : Work}
    {progress : Progress} (hfound : daemon.works[id]? = some work)
    (hends : ({ work with progress } : Work).EndsWell) {next : Daemon}
    (hworks : next.works = daemon.works.set id { work with progress })
    (harrivals : next.arrivals = daemon.arrivals) (hrefused : next.refused = daemon.refused)
    (halive : next.exited = daemon.exited) : Accounted next := by
  have hback : ∀ (other : Nat) (changed : Work), next.works[other]? = some changed →
      ∃ before : Work, daemon.works[other]? = some before ∧ before.job = changed.job := by
    intro other changed hother
    rw [hworks] at hother
    obtain ⟨rfl, rfl⟩ | ⟨-, hold⟩ := getElem?_set_cases hother
    · exact ⟨work, hfound, rfl⟩
    · exact ⟨changed, hold, rfl⟩
  refine ⟨?_, ?_, ?_, ?_, ?_, ?_, ?_⟩
  · intro changed hchanged
    rw [hworks] at hchanged
    obtain hold | rfl := List.mem_or_eq_of_mem_set hchanged
    · exact haccounted.sane changed hold
    · obtain ⟨hhandled, htimed⟩ := haccounted.sane work (List.mem_of_getElem? hfound)
      exact ⟨hhandled, htimed⟩
  · intro changed hchanged
    rw [hworks] at hchanged
    obtain hold | rfl := List.mem_or_eq_of_mem_set hchanged
    · exact haccounted.endsWell changed hold
    · exact hends
  · rw [hrefused, harrivals]
    exact haccounted.refused
  · rw [hrefused, harrivals]
    rintro other changed request hother ⟨body, hjob⟩
    obtain ⟨before, hbefore, hsame⟩ := hback other changed hother
    exact haccounted.carried other before request hbefore ⟨body, hsame.trans hjob⟩
  · rintro first other changed twin request hchanged htwin ⟨body, hjob⟩ ⟨twinBody, htwinJob⟩
    obtain ⟨before, hbefore, hsame⟩ := hback first changed hchanged
    obtain ⟨twinBefore, htwinBefore, htwinSame⟩ := hback other twin htwin
    exact haccounted.once first other before twinBefore request hbefore htwinBefore
      ⟨body, hsame.trans hjob⟩ ⟨twinBody, htwinSame.trans htwinJob⟩
  · rw [hrefused, harrivals, hworks]
    intro request hrequest hadmitted
    obtain ⟨other, before, hbefore, body, hjob⟩ :=
      haccounted.admitted request hrequest hadmitted
    by_cases hsame : id = other
    · subst hsame
      rw [hfound] at hbefore
      cases hbefore
      have hbound := (List.getElem?_eq_some_iff.mp hfound).1
      exact ⟨id, { work with progress }, List.getElem?_set_self hbound, body, hjob⟩
    · exact ⟨other, before, by rw [List.getElem?_set_ne hsame]; exact hbefore, body, hjob⟩
  · rw [halive]
    exact haccounted.alive

/-- A work is added for the request that has just arrived, or for none. -/
theorem appended (haccounted : Accounted daemon) {next : Daemon} {added : Work}
    (hsane : Sane added) (hwaiting : added.progress = .waiting)
    (hworks : next.works = daemon.works ++ [added]) (hrefused : next.refused = daemon.refused)
    (halive : next.exited = daemon.exited)
    (harrivals : (added.job = .idleReconciliation ∧ next.arrivals = daemon.arrivals) ∨
      (added.Carries daemon.arrivals ∧ next.arrivals = daemon.arrivals + 1)) :
    Accounted next := by
  have hgrown : daemon.arrivals ≤ next.arrivals := by
    obtain ⟨-, hsame⟩ | ⟨-, hmore⟩ := harrivals
    all_goals omega
  have hadded : ∀ request : Nat, added.Carries request →
      request = daemon.arrivals ∧ next.arrivals = daemon.arrivals + 1 := by
    rintro request ⟨body, hjob⟩
    obtain ⟨hidle, -⟩ | ⟨⟨other, hcommand⟩, hmore⟩ := harrivals
    · rw [hidle] at hjob
      cases hjob
    · rw [hcommand] at hjob
      cases hjob
      exact ⟨rfl, hmore⟩
  have hfresh : daemon.arrivals ∉ daemon.refused := by
    exact fun hmem => Nat.lt_irrefl _ (haccounted.refused daemon.arrivals hmem)
  refine ⟨?_, ?_, ?_, ?_, ?_, ?_, ?_⟩
  · rw [hworks]
    intro work hwork
    obtain hold | hnew := List.mem_append.mp hwork
    · exact haccounted.sane work hold
    · rw [List.mem_singleton.mp hnew]
      exact hsane
  · rw [hworks]
    intro work hwork
    obtain hold | hnew := List.mem_append.mp hwork
    · exact haccounted.endsWell work hold
    · rw [List.mem_singleton.mp hnew]
      intro error herror
      rw [hwaiting] at herror
      cases herror
  · rw [hrefused]
    exact fun request hrequest => Nat.lt_of_lt_of_le (haccounted.refused request hrequest) hgrown
  · rw [hrefused, hworks]
    intro id work request hfound hcarries
    obtain hold | ⟨rfl, rfl⟩ := getElem?_concat hfound
    · obtain ⟨hlt, hnot⟩ := haccounted.carried id work request hold hcarries
      exact ⟨Nat.lt_of_lt_of_le hlt hgrown, hnot⟩
    · obtain ⟨rfl, hmore⟩ := hadded request hcarries
      exact ⟨by omega, hfresh⟩
  · rw [hworks]
    intro id other work twin request hfound htwin hcarries htwinCarries
    obtain hold | ⟨rfl, rfl⟩ := getElem?_concat hfound
    · obtain htwinOld | ⟨rfl, rfl⟩ := getElem?_concat htwin
      · exact haccounted.once id other work twin request hold htwinOld hcarries htwinCarries
      · have hlt := (haccounted.carried id work request hold hcarries).1
        have hnow := (hadded request htwinCarries).1
        omega
    · obtain htwinOld | ⟨rfl, -⟩ := getElem?_concat htwin
      · have hlt := (haccounted.carried other twin request htwinOld htwinCarries).1
        have hnow := (hadded request hcarries).1
        omega
      · rfl
  · rw [hrefused, hworks]
    intro request hrequest hadmitted
    by_cases hold : request < daemon.arrivals
    · obtain ⟨id, work, hfound, hcarries⟩ := haccounted.admitted request hold hadmitted
      have hbound := (List.getElem?_eq_some_iff.mp hfound).1
      exact ⟨id, work, by rw [List.getElem?_append_left hbound]; exact hfound, hcarries⟩
    · obtain ⟨-, hsame⟩ | ⟨hcarries, hmore⟩ := harrivals
      · omega
      · obtain rfl : request = daemon.arrivals := by omega
        exact ⟨daemon.works.length, added, by simp, hcarries⟩
  · rw [halive]
    exact haccounted.alive

/-- Everything else leaves the requests alone. -/
theorem of_eq (haccounted : Accounted daemon) {next : Daemon} (hworks : next.works = daemon.works)
    (harrivals : next.arrivals = daemon.arrivals) (hrefused : next.refused = daemon.refused)
    (halive : next.exited = daemon.exited) : Accounted next := by
  obtain ⟨hsane, hends, hknown, hcarried, honce, hadmitted, hrunning⟩ := haccounted
  exact ⟨hworks ▸ hsane, hworks ▸ hends, by rw [hrefused, harrivals]; exact hknown,
    by rw [hrefused, harrivals, hworks]; exact hcarried, by rw [hworks]; exact honce,
    by rw [hrefused, harrivals, hworks]; exact hadmitted, by rw [halive]; exact hrunning⟩

theorem refuse (haccounted : Accounted daemon) :
    Accounted { daemon with
      arrivals := daemon.arrivals + 1, refused := daemon.arrivals :: daemon.refused } := by
  obtain ⟨hsane, hends, hknown, hcarried, honce, hadmitted, hrunning⟩ := haccounted
  refine ⟨hsane, hends, ?_, ?_, honce, ?_, hrunning⟩
  · intro request hrequest
    obtain rfl | hold := List.mem_cons.mp hrequest
    · exact Nat.lt_succ_self _
    · exact Nat.lt_succ_of_lt (hknown request hold)
  · intro id work request hfound hcarries
    obtain ⟨hlt, hnot⟩ := hcarried id work request hfound hcarries
    refine ⟨Nat.lt_succ_of_lt hlt, ?_⟩
    intro hmem
    obtain rfl | hold := List.mem_cons.mp hmem
    · exact Nat.lt_irrefl _ hlt
    · exact hnot hold
  · intro request hrequest hnot
    obtain ⟨hne, hold⟩ := not_or.mp (hnot ∘ List.mem_cons.mpr)
    exact hadmitted request (Nat.lt_of_le_of_ne (Nat.le_of_lt_succ hrequest) hne) hold

theorem change {next : Daemon} (haccounted : Accounted daemon) (hchange : Change daemon next) :
    Accounted next := by
  cases hchange with
  | unchanged => exact haccounted
  | refused => exact haccounted.refuse
  | admitted body timed opened =>
      refine haccounted.appended ⟨rfl, ?_⟩ rfl rfl rfl rfl (Or.inr ⟨⟨body, rfl⟩, rfl⟩)
      rintro request other ⟨⟩
      exact timed
  | scheduled opened idle =>
      refine haccounted.appended ⟨rfl, ?_⟩ rfl rfl rfl rfl (Or.inl ⟨rfl, rfl⟩)
      rintro request other ⟨⟩
  | begun id work progress found waiting ready next =>
      refine haccounted.progressed found ?_ rfl rfl rfl rfl
      rintro error hrejected
      obtain rfl | rfl := next
      · cases hrejected
      · cases hrejected
        rfl
  | finished id work outcome found running next =>
      refine haccounted.progressed found ?_ rfl rfl rfl rfl
      rintro error hrejected
      obtain rfl | rfl := next
      all_goals cases hrejected
  | forgotten id settled => exact haccounted.of_eq rfl rfl rfl rfl
  | closed => exact haccounted.of_eq rfl rfl rfl rfl
  | stopping closed => exact haccounted.of_eq rfl rfl rfl rfl
  | signalled => exact haccounted.of_eq rfl rfl rfl rfl
  | advanced index work found settled => exact haccounted.of_eq rfl rfl rfl rfl
  | drained index works found settled => exact haccounted.of_eq rfl rfl rfl rfl
  | removed index found => exact haccounted.of_eq rfl rfl rfl rfl

end Accounted

/-! ## Whole runs -/

/-- The queue of the daemon is serial. -/
structure SerialQueue (daemon : Daemon) : Prop where
  oneAtATime : ∀ (id other : Nat) (work twin : Work), daemon.works[id]? = some work →
    daemon.works[other]? = some twin → work.progress = .running → twin.progress = .running →
    id = other
  inAdmissionOrder : daemon.started = List.range daemon.started.length
  startedOnce : ∀ (id : Nat) (work : Work), daemon.works[id]? = some work →
    (id ∈ daemon.started ↔ work.progress ≠ .waiting)
  neverBlocked : ∀ (id : Nat) (work : Work), daemon.works[id]? = some work →
    work.progress = .waiting → (∀ earlier < id, daemon.isSettled earlier = true) →
    ∀ files now, (step daemon (.start files id now)).isSome
  admittedOnce : ∀ request : Nat, request < daemon.arrivals → request ∉ daemon.refused →
    ∃! id : Nat, ∃ work : Work, daemon.works[id]? = some work ∧ work.Carries request
  rejectedExpired : ∀ work ∈ daemon.works, work.EndsWell
  refusedNever : ∀ request ∈ daemon.refused, ∀ work ∈ daemon.works, ¬ work.Carries request
  drained : daemon.socketRemoved = true → ∀ work ∈ daemon.works, work.progress.isSettled = true

/-- The three invariants of a run. -/
structure Inv (daemon : Daemon) : Prop where
  ordered : Ordered daemon
  remembered : Remembered daemon
  accounted : Accounted daemon

namespace Inv

theorem initial : Inv {} where
  ordered := by
    refine ⟨?_, rfl, rfl, Nat.le_refl _, ?_, ?_⟩
    all_goals
      rintro id work hfound
      cases hfound
  remembered := by
    refine ⟨?_, ?_, ?_, ?_⟩
    · rintro id work request body hfound
      cases hfound
    · rintro id work hfound
      cases hfound
    · rintro phase hphase
      cases hphase
    · rintro hremoved
      cases hremoved
  accounted := by
    refine ⟨?_, ?_, ?_, ?_, ?_, ?_, rfl⟩
    · rintro work hwork
      cases hwork
    · rintro work hwork
      cases hwork
    · rintro request hrequest
      cases hrequest
    · rintro id work request hfound
      cases hfound
    · rintro id other work twin request hfound
      cases hfound
    · rintro request hrequest
      cases hrequest

variable {daemon : Daemon}

theorem step {next : Daemon} {event : Event} (hinv : Inv daemon)
    (hbudget : Budgeted daemon event) (hstep : Service.step daemon event = some next) :
    Inv next := by
  have hchange := change_step hinv.accounted.sane hbudget hstep
  exact ⟨hinv.ordered.change hchange, hinv.remembered.change hchange,
    hinv.accounted.change hchange⟩

theorem run {last : Daemon} {events : List Event} (hinv : Inv daemon)
    (hrun : Run daemon events last) : Inv last := by
  induction hrun with
  | nil daemon => exact hinv
  | cons budgeted happens rest ih => exact ih (hinv.step budgeted happens)

/-- A work whose turn has come can be started, whatever became of the earlier ones. -/
theorem start_isSome (hinv : Inv daemon) {id : Nat} {work : Work}
    (hfound : daemon.works[id]? = some work) (hwaiting : work.progress = .waiting)
    (hearlier : ∀ earlier < id, daemon.isSettled earlier = true) (files : ServiceFiles)
    (now : Int) : (Service.step daemon (.start files id now)).isSome := by
  have hready : daemon.isReady work = true := by
    unfold Daemon.isReady
    rw [hinv.ordered.chained id work hfound]
    split
    · rfl
    · next hlater => exact hearlier (id - 1) (by omega)
  have henabled : ¬ (work.progress ≠ .waiting ∨ daemon.isReady work = false) := by
    simp [hwaiting, hready]
  simp only [Service.step, hinv.accounted.alive, Bool.false_eq_true, if_false, Daemon.startWork,
    hfound, if_neg henabled]
  cases work.job with
  | idleReconciliation => rfl
  | command request body =>
      cases hfresh : assertCommandFreshForDispatch files body now with
      | error error => simp only [hfresh, Option.isSome_some]
      | ok fresh => simp only [hfresh, Option.isSome_some]

theorem serialQueue (hinv : Inv daemon) : SerialQueue daemon where
  oneAtATime := by
    intro id other work twin hfound htwin hrunning htwinRunning
    have hstarted := (hinv.ordered.begun id work hfound).mpr (by simp [hrunning])
    have htwinStarted := (hinv.ordered.begun other twin htwin).mpr (by simp [htwinRunning])
    -- only the last work started can be running
    have hlast : ¬ id + 1 < daemon.started.length := by
      intro hlt
      have hsettled := hinv.ordered.earlier id work hfound hlt
      rw [hrunning] at hsettled
      cases hsettled
    have htwinLast : ¬ other + 1 < daemon.started.length := by
      intro hlt
      have hsettled := hinv.ordered.earlier other twin htwin hlt
      rw [htwinRunning] at hsettled
      cases hsettled
    omega
  inAdmissionOrder := hinv.ordered.inOrder
  startedOnce := by
    intro id work hfound
    rw [hinv.ordered.inOrder, List.mem_range]
    exact hinv.ordered.begun id work hfound
  neverBlocked := by
    intro id work hfound hwaiting hearlier files now
    exact hinv.start_isSome hfound hwaiting hearlier files now
  admittedOnce := by
    intro request hrequest hadmitted
    obtain ⟨id, work, hfound, hcarries⟩ := hinv.accounted.admitted request hrequest hadmitted
    refine ⟨id, ⟨work, hfound, hcarries⟩, ?_⟩
    rintro other ⟨twin, htwin, htwinCarries⟩
    exact hinv.accounted.once other id twin work request htwin hfound htwinCarries hcarries
  rejectedExpired := hinv.accounted.endsWell
  refusedNever := by
    intro request hrefused work hwork hcarries
    obtain ⟨id, hid, hfound⟩ := List.mem_iff_getElem.mp hwork
    have hfound : daemon.works[id]? = some work := List.getElem?_eq_some_iff.mpr ⟨hid, hfound⟩
    exact (hinv.accounted.carried id work request hfound hcarries).2 hrefused
  drained := fun hremoved => (hinv.remembered.removed hremoved).2

end Inv

/-! ## What a run keeps -/

/-- Refusals stay, and a closed admission admits nothing. -/
structure Since (before after : Daemon) : Prop where
  refused : ∀ request ∈ before.refused, request ∈ after.refused
  closed : before.shuttingDown = true →
    after.shuttingDown = true ∧ after.works.length = before.works.length

theorem Since.refl (daemon : Daemon) : Since daemon daemon :=
  ⟨fun _ hrefused => hrefused, fun hclosed => ⟨hclosed, rfl⟩⟩

theorem Since.trans {first second third : Daemon} (hfirst : Since first second)
    (hsecond : Since second third) : Since first third := by
  refine ⟨fun request hrefused => hsecond.refused request (hfirst.refused request hrefused), ?_⟩
  intro hclosed
  obtain ⟨hstill, hlength⟩ := hfirst.closed hclosed
  obtain ⟨hend, hsame⟩ := hsecond.closed hstill
  exact ⟨hend, hsame.trans hlength⟩

theorem Since.of_change {daemon next : Daemon} (hchange : Change daemon next) :
    Since daemon next := by
  have hopen : ∀ {claim : Prop}, daemon.shuttingDown = false → daemon.shuttingDown = true →
      claim := by
    intro claim hopened hclosed
    rw [hopened] at hclosed
    cases hclosed
  cases hchange with
  | refused =>
      exact ⟨fun request hrefused => List.mem_cons_of_mem _ hrefused,
        fun hclosed => ⟨hclosed, rfl⟩⟩
  | admitted body timed opened => exact ⟨fun _ hrefused => hrefused, hopen opened⟩
  | scheduled opened idle => exact ⟨fun _ hrefused => hrefused, hopen opened⟩
  | begun id work progress found waiting ready next =>
      exact ⟨fun _ hrefused => hrefused, fun hclosed => ⟨hclosed, List.length_set⟩⟩
  | finished id work outcome found running next =>
      exact ⟨fun _ hrefused => hrefused, fun hclosed => ⟨hclosed, List.length_set⟩⟩
  | closed => exact ⟨fun _ hrefused => hrefused, fun _ => ⟨rfl, rfl⟩⟩
  | signalled => exact ⟨fun _ hrefused => hrefused, fun _ => ⟨rfl, rfl⟩⟩
  | _ => exact ⟨fun _ hrefused => hrefused, fun hclosed => ⟨hclosed, rfl⟩⟩

theorem Since.of_run {daemon last : Daemon} {events : List Event} (hinv : Inv daemon)
    (hrun : Run daemon events last) : Since daemon last := by
  induction hrun with
  | nil daemon => exact .refl daemon
  | cons budgeted happens rest ih =>
      have hchange := change_step hinv.accounted.sane budgeted happens
      exact (Since.of_change hchange).trans (ih (hinv.step budgeted happens))

/-- In every run in which no budget raises, the queue is serial in every state reached, a
request once refused is carried by no work, and once admission has been closed only works
that were there before are started. -/
theorem commandQueue_serial {middle last : Daemon} {before after : List Event}
    (hbefore : Run {} before middle) (hafter : Run middle after last) :
    SerialQueue last ∧
    (∀ request ∈ middle.refused, ∀ work ∈ last.works, ¬ work.Carries request) ∧
    (middle.shuttingDown = true → ∀ id ∈ last.started, id < middle.works.length) := by
  have hmiddle : Inv middle := Inv.initial.run hbefore
  have hlast : Inv last := hmiddle.run hafter
  have hsince : Since middle last := .of_run hmiddle hafter
  refine ⟨hlast.serialQueue, ?_, ?_⟩
  · intro request hrefused
    exact hlast.serialQueue.refusedNever request (hsince.refused request hrefused)
  · intro hclosed id hstarted
    rw [hlast.ordered.inOrder, List.mem_range] at hstarted
    rw [← (hsince.closed hclosed).2]
    exact Nat.lt_of_lt_of_le hstarted hlast.ordered.bounded

/-- A host whose leases directory cannot be listed. -/
def unlistableFiles : ServiceFiles where
  hostConfig := .missing
  leases := .unreadable
  capacityTransactions := .missing
  projectFile := fun _ => .missing

/-- A command without timing fields. -/
def untimedBody : CommandBody where
  request := { group := .lease, command := .acquire }

/-- A command whose client names its execution budget. -/
def timedBody : CommandBody :=
  { untimedBody with clientCommandExecutionTimeoutMilliseconds := .integer 1000 }

theorem budgeted_timed (daemon : Daemon) (now : Int) :
    Budgeted daemon (.command unlistableFiles timedBody now) := by
  rintro - - ⟨⟩

/-- A timed command has been admitted and runs. -/
def busyDaemon : Daemon where
  works := [{ job := .command 0 timedBody, after := none, handled := true, progress := .running }]
  commandWorkerQueue := some 0
  activeCommandWorkers := [0]
  arrivals := 1
  started := [0]

theorem busyDaemon_run :
    Run {} [.command unlistableFiles timedBody 0, .start unlistableFiles 0 0] busyDaemon := by
  refine .cons (budgeted_timed _ _) rfl (.cons ?_ rfl (.nil _))
  rintro work request body hfound hjob startedAt queueTimeoutMs executionTimeoutMs hstarted
  cases hfound
  cases hjob
  cases hstarted

/-- A stop request comes while a command runs: the command ends, a later one is refused. -/
theorem commandQueue_serial_stop :
    ∃ stopped, Run busyDaemon [.stopRequest, .finish 0 true,
        .command unlistableFiles timedBody 0] stopped ∧
      stopped.refused = [1] ∧ stopped.started = [0] ∧ SerialQueue stopped := by
  have hstops : Run busyDaemon [.stopRequest, .finish 0 true,
      .command unlistableFiles timedBody 0] _ :=
    .cons (show Budgeted _ .stopRequest from trivial) rfl
      (.cons (show Budgeted _ (.finish 0 true) from trivial) rfl
        (.cons (budgeted_timed _ 0) rfl (.nil _)))
  exact ⟨_, hstops, rfl, rfl, (commandQueue_serial busyDaemon_run hstops).1⟩

/-- A command refused for want of a budget runs all the same, beside the next one. -/
theorem commandQueue_overlap :
    ∃ last, run {} [.command unlistableFiles untimedBody 0, .start unlistableFiles 0 0,
        .command unlistableFiles timedBody 0, .start unlistableFiles 1 0] = some last ∧
      ¬ SerialQueue last ∧ last.refused = [0] ∧
      ∃ work twin, last.works[0]? = some work ∧ last.works[1]? = some twin ∧
        work.Carries 0 ∧ twin.Carries 1 ∧ work.progress = .running ∧ twin.progress = .running := by
  refine ⟨_, rfl, ?_, rfl, _, _, rfl, rfl, ⟨_, rfl⟩, ⟨_, rfl⟩, rfl, rfl⟩
  intro hserial
  exact hserial.refusedNever 0 (List.mem_singleton.mpr rfl) _ (List.mem_cons_self) ⟨_, rfl⟩

end SimulatorBroker.Service
