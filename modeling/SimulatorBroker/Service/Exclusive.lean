import SimulatorBroker.Service.Endpoint

/-!
# One daemon at its path

A clean-up that falls after a successor's start takes the successor's files.  In every
run in which a daemon begins to listen only when nobody else has a clean-up left, there
is one serving daemon at a time and its files stay.
-/

namespace SimulatorBroker.Service

/-! ## What is asked -/

namespace BrokerDaemon

/-- The next step removes this file. -/
def Removes (daemon : BrokerDaemon) (file : EndpointFile) : Prop :=
  daemon.turn.head? = some (.remove file) ∨
  daemon.turn.head? = some .close ∧ daemon.listening = true ∧ file = .socket

/-- Listening, and not ended by an exception. -/
def Up (daemon : BrokerDaemon) : Prop :=
  daemon.listening = true ∧ daemon.stage ≠ .crashing

/-- Some removal is left to do. -/
def Cleans (daemon : BrokerDaemon) : Prop :=
  daemon.turn ≠ [] ∨ daemon.runs ≠ []

instance (daemon : BrokerDaemon) : Decidable daemon.Cleans :=
  inferInstanceAs (Decidable (_ ∨ _))

end BrokerDaemon

namespace ServiceSystem

/-- One daemon serves, it is reachable with its metadata in place, and nobody is about to
remove a file of it. -/
structure Exclusive (system : ServiceSystem) : Prop where
  one : ∀ first second, (system.daemons first).Serving → (system.daemons second).Serving →
    first = second
  reachable : ∀ daemon, (system.daemons daemon).Serving →
    system.answering = some daemon ∧ system.endpoint.files .metadata = some daemon
  spared : ∀ daemon file, (system.daemons daemon).Serving →
    system.endpoint.files file = some daemon →
      (∀ other, other ≠ daemon → ¬ (system.daemons other).Removes file) ∧
      ∀ client, (system.clients client).turn.head? ≠ some (.remove file)

/-! ## The condition -/

/-- A daemon begins to listen only when no other process has a removal left, and an
exception that nobody catches reaches a daemon that no longer listens only while no other
daemon is up. -/
def Orderly (system : ServiceSystem) : SystemEvent → Prop
  | .daemon self .listen =>
      (∀ other, other ≠ self → ¬ (system.daemons other).Cleans) ∧
      ∀ client, (system.clients client).turn = []
  | .daemon self .uncaughtException =>
      (system.daemons self).Up ∨ ∀ other, other ≠ self → ¬ (system.daemons other).Up
  | _ => True

inductive OrderlyRun : ServiceSystem → List SystemEvent → ServiceSystem → Prop where
  | nil (system : ServiceSystem) : OrderlyRun system [] system
  | cons {system middle last : ServiceSystem} {event : SystemEvent} {events : List SystemEvent}
      (orderly : system.Orderly event) (happens : system.step event = some middle)
      (rest : OrderlyRun middle events last) : OrderlyRun system (event :: events) last

end ServiceSystem

/-! ## One daemon -/

namespace BrokerDaemon

/-- The stages in which the startup lock is held. -/
def Starting (daemon : BrokerDaemon) : Prop :=
  daemon.stage = .probing ∨ daemon.stage = .preparing ∨ daemon.stage = .binding ∨
  daemon.stage = .publishing ∨ daemon.stage = .opened

/-- The probe has found nothing, and the daemon does not listen yet. -/
def Entering (daemon : BrokerDaemon) : Prop :=
  daemon.stage = .preparing ∨ daemon.stage = .binding

/-- The metadata file is written and not yet given up. -/
def Published (daemon : BrokerDaemon) : Prop :=
  daemon.stage = .opened ∨ daemon.Serving

/-- What the parts of a daemon say about each other. -/
structure Sound (daemon : BrokerDaemon) : Prop where
  listens : daemon.stage = .publishing ∨ daemon.Published → daemon.listening = true
  calm : daemon.stage = .publishing ∨ daemon.Published → daemon.turn = [] ∧ daemon.runs = []
  listened : daemon.listening = true → daemon.stage = .publishing ∨ daemon.stage = .opened ∨
    daemon.stage = .running ∨ daemon.stage = .crashing
  answered : 0 < daemon.answers →
    daemon.stage = .running ∧ daemon.listening = true ∧ daemon.stopping = true
  pending : daemon.runs ≠ [] → daemon.stage = .running
  closing : daemon.listening = true → (∃ run ∈ daemon.runs, run.closing = true) →
    .close ∈ daemon.turn
  socket : daemon.Up → .look .socket ∉ daemon.turn ∧ .remove .socket ∉ daemon.turn

/-- Nothing is left to remove, and no probe has just found nothing. -/
def Idle (daemon : BrokerDaemon) : Prop :=
  daemon.turn = [] ∧ daemon.runs = [] ∧ ¬ daemon.Entering

theorem Sound.up_of_published {daemon : BrokerDaemon} (hsound : daemon.Sound)
    (hpublished : daemon.Published) : daemon.Up := by
  refine ⟨hsound.listens (Or.inr hpublished), ?_⟩
  rcases hpublished with hopened | ⟨hrunning, -⟩
  · rw [hopened]
    decide
  · rw [hrunning]
    decide

/-- A daemon with nothing open. -/
theorem Sound.closed {daemon : BrokerDaemon} (hlistening : daemon.listening = false)
    (hstage : daemon.stage ≠ .publishing) (hpublished : ¬ daemon.Published)
    (hanswers : daemon.answers = 0) (hruns : daemon.runs ≠ [] → daemon.stage = .running) :
    daemon.Sound where
  listens := fun h => absurd h (not_or.mpr ⟨hstage, hpublished⟩)
  calm := fun h => absurd h (not_or.mpr ⟨hstage, hpublished⟩)
  listened := by
    rw [hlistening]
    rintro ⟨⟩
  answered := by
    rw [hanswers]
    rintro ⟨⟩
  pending := hruns
  closing := by
    rw [hlistening]
    rintro ⟨⟩
  socket := by
    rintro ⟨hup, -⟩
    rw [hlistening] at hup
    cases hup

/-- What a daemon keeps of itself and of the endpoint in one step. -/
structure Keeps (owner : DaemonId) (endpoint after : Endpoint) (next : BrokerDaemon) :
    Prop where
  sound : next.Sound
  locks : next.Starting → after.lock = some owner
  yields : ∀ other, other ≠ owner → endpoint.lock = some other → after.lock = some other
  socket : next.Up → after.files .socket = some owner
  metadata : next.Published → after.files .metadata = some owner

variable {self : DaemonId} {endpoint after : Endpoint} {daemon next : BrokerDaemon}

/-- A daemon that is not starting and has nothing open keeps everything. -/
theorem Keeps.of_closed (hlistening : next.listening = false) (hstarting : ¬ next.Starting)
    (hserving : ¬ next.Serving) (hanswers : next.answers = 0)
    (hruns : next.runs ≠ [] → next.stage = .running)
    (hyields : ∀ other, other ≠ self → endpoint.lock = some other → after.lock = some other) :
    Keeps self endpoint after next := by
  have hpublishing : next.stage ≠ .publishing := by
    intro hstage
    exact hstarting (by simp [Starting, hstage])
  have hpublished : ¬ next.Published := by
    rintro (hopened | hserves)
    · exact hstarting (by simp [Starting, hopened])
    · exact hserving hserves
  refine ⟨.closed hlistening hpublishing hpublished hanswers hruns, ?_, hyields, ?_, ?_⟩
  · exact fun h => absurd h hstarting
  · rintro ⟨hup, -⟩
    rw [hlistening] at hup
    cases hup
  · exact fun h => absurd h hpublished

theorem yields_release (endpoint : Endpoint) (self other : DaemonId) (hother : other ≠ self)
    (hlock : endpoint.lock = some other) : (endpoint.release self).lock = some other := by
  simp [Endpoint.release, hlock, hother]

theorem keeps_gone : Keeps self endpoint (endpoint.release self) gone := by
  refine .of_closed rfl ?_ ?_ rfl ?_ (yields_release endpoint self)
  · simp [Starting, gone]
  · simp [Serving, gone]
  · intro hruns
    exact absurd rfl hruns

/-- A daemon that runs and has begun to shut down. -/
theorem Keeps.of_stopping (hstage : next.stage = .running) (hstopping : next.stopping = true)
    (hanswers : 0 < next.answers → next.listening = true)
    (hclosing : next.listening = true → (∃ run ∈ next.runs, run.closing = true) →
      .close ∈ next.turn)
    (hturn : next.listening = true → .look .socket ∉ next.turn ∧ .remove .socket ∉ next.turn)
    (hyields : ∀ other, other ≠ self → endpoint.lock = some other → after.lock = some other)
    (hsocket : next.listening = true → after.files .socket = some self) :
    Keeps self endpoint after next := by
  have hpublished : ¬ (next.stage = .publishing ∨ next.Published) := by
    rintro (hpublishing | hopened | ⟨-, hserving⟩)
    · rw [hstage] at hpublishing
      cases hpublishing
    · rw [hstage] at hopened
      cases hopened
    · rw [hstopping] at hserving
      cases hserving
  constructor
  · constructor
    · exact fun h => absurd h hpublished
    · exact fun h => absurd h hpublished
    · exact fun _ => Or.inr (Or.inr (Or.inl hstage))
    · exact fun h => ⟨hstage, hanswers h, hstopping⟩
    · exact fun _ => hstage
    · exact hclosing
    · exact fun hup => hturn hup.1
  · rintro (h | h | h | h | h)
    all_goals
      rw [hstage] at h
      cases h
  · exact hyields
  · exact fun hup => hsocket hup.1
  · exact fun h => absurd (Or.inr h) hpublished

section Steps

variable (hsound : daemon.Sound) (hlocks : daemon.Starting → endpoint.lock = some self)
  (hsocket : daemon.Up → endpoint.files .socket = some self)
  (hmetadata : daemon.Published → endpoint.files .metadata = some self)

include hsound in
/-- A turn that has something left is not the turn of a serving daemon. -/
theorem not_published_of_turn {task : Task} {rest : List Task} (hturn : daemon.turn = task :: rest) :
    ¬ (daemon.stage = .publishing ∨ daemon.Published) := by
  intro hpublished
  have hcalm := (hsound.calm hpublished).1
  rw [hturn] at hcalm
  cases hcalm

include hsound hlocks hsocket in
/-- A daemon that changes nothing but its turn, while nothing of its own is removed. -/
theorem keeps_turn {turn : List Task} (hpublished : ¬ (daemon.stage = .publishing ∨ daemon.Published))
    (hclose : .close ∈ daemon.turn → .close ∈ turn)
    (hremoves : daemon.Up → .look .socket ∉ turn ∧ .remove .socket ∉ turn)
    (hlock : after.lock = endpoint.lock)
    (hfile : daemon.Up → after.files .socket = endpoint.files .socket) :
    Keeps self endpoint after { daemon with turn } := by
  constructor
  · constructor
    · exact fun h => absurd h hpublished
    · exact fun h => absurd h hpublished
    · exact hsound.listened
    · exact hsound.answered
    · exact hsound.pending
    · exact fun hlistening hrun => hclose (hsound.closing hlistening hrun)
    · exact hremoves
  · exact fun hstarting => hlock.trans (hlocks hstarting)
  · exact fun other _ hother => hlock.trans hother
  · exact fun hup => (hfile hup).trans (hsocket hup)
  · exact fun h => absurd (Or.inr h) hpublished

include hsound hlocks hsocket in
theorem keeps_perform (hnext : daemon.perform self endpoint = some (after, next)) :
    Keeps self endpoint after next := by
  unfold perform at hnext
  split at hnext
  · cases hnext
  · next file rest hturn =>
    cases hnext
    refine keeps_turn hsound hlocks hsocket (not_published_of_turn hsound hturn) ?_ ?_ rfl
      (fun _ => rfl)
    · rw [hturn]
      intro hclose
      have hrest : .close ∈ rest := by simpa using hclose
      split
      · exact hrest
      · exact List.mem_cons_of_mem _ hrest
    · intro hup
      have hfree := hsound.socket hup
      rw [hturn] at hfree
      simp only [List.mem_cons, not_or] at hfree
      split
      · exact ⟨hfree.1.2, hfree.2.2⟩
      · refine ⟨?_, ?_⟩
        · simpa using hfree.1.2
        · simp only [List.mem_cons, not_or, Task.remove.injEq]
          refine ⟨?_, hfree.2.2⟩
          rintro rfl
          exact hfree.1.1 rfl
  · next file rest hturn =>
    cases hnext
    refine keeps_turn hsound hlocks hsocket (not_published_of_turn hsound hturn) ?_ ?_ rfl ?_
    · rw [hturn]
      intro hclose
      simpa using hclose
    · intro hup
      have hfree := hsound.socket hup
      rw [hturn] at hfree
      simp only [List.mem_cons, not_or] at hfree
      exact ⟨hfree.1.2, hfree.2.2⟩
    · intro hup
      have hfree := hsound.socket hup
      rw [hturn] at hfree
      simp only [List.mem_cons, not_or, Task.remove.injEq] at hfree
      exact Endpoint.unlink_of_ne hfree.2.1
  · next rest hturn =>
    cases hnext
    have hpublished := not_published_of_turn hsound hturn
    have hlock : (if daemon.listening then endpoint.unlink .socket else endpoint).lock =
        endpoint.lock := by
      split
      · rfl
      · rfl
    constructor
    · refine .closed rfl (fun h => hpublished (Or.inl h)) (fun h => hpublished (Or.inr h)) rfl ?_
      exact hsound.pending
    · exact fun hstarting => hlock.trans (hlocks hstarting)
    · exact fun other _ hother => hlock.trans hother
    · rintro ⟨hup, -⟩
      cases hup
    · exact fun h => absurd (Or.inr h) hpublished
  · cases hnext
    exact keeps_gone

include hsound hsocket in
theorem keeps_signal (hnext : daemon.signal self endpoint = some (after, next)) :
    Keeps self endpoint after next := by
  unfold BrokerDaemon.signal at hnext
  split at hnext
  all_goals try
    cases hnext
    exact keeps_gone
  · next hstage =>
    split at hnext
    · next hturn =>
      split at hnext
      · next hstopping =>
        cases hnext
        refine .of_stopping hstage hstopping ?_ hsound.closing ?_ (fun _ _ h => h) ?_
        · exact fun h => (hsound.answered h).2.1
        · rw [hturn]
          simp
        · exact fun h => hsocket ⟨h, by simp [hstage]⟩
      · next hstopping =>
        cases hnext
        have hserving : daemon.Serving := ⟨hstage, by simpa using hstopping⟩
        have hruns := (hsound.calm (Or.inr (Or.inr hserving))).2
        refine .of_stopping hstage rfl ?_ ?_ ?_ (fun _ _ h => h) ?_
        · exact fun h => (hsound.answered h).2.1
        · rw [hruns]
          simp
        · rw [hturn]
          simp
        · exact fun h => hsocket ⟨h, by simp [hstage]⟩
    · cases hnext
  · cases hnext

include hsound hsocket in
theorem keeps_resume {run : Nat} (hstage : daemon.stage = .running) (hturn : daemon.turn = [])
    (hnext : daemon.resume run = some next) : Keeps self endpoint endpoint next := by
  unfold resume at hnext
  have hopen : daemon.listening = true → endpoint.files .socket = some self := fun h =>
    hsocket ⟨h, by simp [hstage]⟩
  split at hnext
  · cases hnext
  · next exitProcess hfound =>
    cases hnext
    have hruns : daemon.runs ≠ [] := by
      intro hnone
      rw [hnone] at hfound
      cases hfound
    have hstopping : daemon.stopping = true := by
      by_contra hserving
      have hcalm := (hsound.calm (Or.inr (Or.inr ⟨hstage, by simpa using hserving⟩))).2
      exact hruns hcalm
    refine .of_stopping hstage hstopping ?_ ?_ ?_ (fun _ _ h => h) hopen
    · exact fun h => (hsound.answered h).2.1
    · simp [removeIfExists]
    · simp [removeIfExists]
  · next exitProcess hfound =>
    cases hnext
    have hmem := List.mem_of_getElem? hfound
    have hstopping : daemon.stopping = true := by
      by_contra hserving
      have hcalm := (hsound.calm (Or.inr (Or.inr ⟨hstage, by simpa using hserving⟩))).2
      rw [hcalm] at hmem
      cases hmem
    -- the server was closed in the turn that made the run a closing one
    have hclosed : daemon.listening ≠ true := by
      intro hlistening
      have hclose := hsound.closing hlistening ⟨_, hmem, rfl⟩
      rw [hturn] at hclose
      cases hclose
    refine .of_stopping hstage hstopping ?_ ?_ ?_ (fun _ _ h => h) hopen
    · exact fun h => (hsound.answered h).2.1
    · exact fun h => absurd h hclosed
    · exact fun h => absurd h hclosed

include hsound hlocks hsocket hmetadata in
/-- One step of a daemon. -/
theorem keeps_next {connects : Bool} {action : DaemonAction}
    (hnext : daemon.next self endpoint connects action = some (after, next)) :
    Keeps self endpoint after next := by
  have hsame : ∀ other, other ≠ self → endpoint.lock = some other → endpoint.lock = some other :=
    fun _ _ h => h
  cases action with
  | spawn =>
      simp only [BrokerDaemon.next, Option.ite_none_right_eq_some, Option.some.injEq,
        Prod.mk.injEq] at hnext
      obtain ⟨-, rfl, rfl⟩ := hnext
      refine .of_closed rfl ?_ ?_ rfl ?_ hsame
      all_goals simp [Starting, Serving]
  | lock =>
      simp only [BrokerDaemon.next, Option.ite_none_right_eq_some, Option.some.injEq,
        Prod.mk.injEq] at hnext
      obtain ⟨⟨-, hfree⟩, rfl, rfl⟩ := hnext
      refine ⟨.closed rfl ?_ ?_ rfl ?_, fun _ => rfl, ?_, ?_, ?_⟩
      · simp
      · simp [Published, Serving]
      · simp
      · rintro other - hother
        rw [hfree] at hother
        cases hother
      · rintro ⟨⟨⟩, -⟩
      · simp [Published, Serving]
  | giveUp =>
      simp only [BrokerDaemon.next, Option.ite_none_right_eq_some, Option.some.injEq,
        Prod.mk.injEq] at hnext
      obtain ⟨-, rfl, rfl⟩ := hnext
      refine .of_closed rfl ?_ ?_ rfl ?_ hsame
      all_goals simp [Starting, Serving, gone]
  | probe =>
      simp only [BrokerDaemon.next, Option.ite_none_right_eq_some] at hnext
      obtain ⟨hstage, hnext⟩ := hnext
      split at hnext
      · cases hnext
        exact keeps_gone
      · cases hnext
        refine ⟨.closed rfl ?_ ?_ rfl ?_, fun _ => hlocks (Or.inl hstage), hsame, ?_, ?_⟩
        · simp
        · simp [Published, Serving]
        · simp
        · rintro ⟨⟨⟩, -⟩
        · simp [Published, Serving]
  | reconcile succeeds =>
      simp only [BrokerDaemon.next, Option.ite_none_right_eq_some] at hnext
      obtain ⟨⟨hstage, -⟩, hnext⟩ := hnext
      cases succeeds with
      | true =>
          cases hnext
          refine ⟨.closed rfl ?_ ?_ rfl ?_, fun _ => hlocks (Or.inr (Or.inl hstage)), hsame,
            ?_, ?_⟩
          · simp
          · simp [Published, Serving]
          · simp
          · rintro ⟨⟨⟩, -⟩
          · simp [Published, Serving]
      | false =>
          cases hnext
          refine .of_closed rfl ?_ ?_ rfl ?_ (yields_release endpoint self)
          all_goals simp [Starting, Serving]
  | listen =>
      simp only [BrokerDaemon.next, Option.ite_none_right_eq_some] at hnext
      obtain ⟨hstage, hnext⟩ := hnext
      split at hnext
      · cases hnext
        have hlocked : endpoint.lock = some self := hlocks (by simp [Starting, hstage])
        refine ⟨?_, fun _ => hlocked, hsame, fun _ => Endpoint.create_self _ _ _, ?_⟩
        · constructor
          all_goals simp [Published, Serving]
        · simp [Published, Serving]
      · cases hnext
        exact keeps_gone
  | publish =>
      simp only [BrokerDaemon.next, Option.ite_none_right_eq_some, Option.some.injEq,
        Prod.mk.injEq] at hnext
      obtain ⟨hstage, rfl, rfl⟩ := hnext
      have hlistening := hsound.listens (Or.inl hstage)
      obtain ⟨hturn, hruns⟩ := hsound.calm (Or.inl hstage)
      have hlocked : endpoint.lock = some self := hlocks (by simp [Starting, hstage])
      have hanswers : ¬ 0 < daemon.answers := by
        intro hpositive
        have hrunning := (hsound.answered hpositive).1
        rw [hstage] at hrunning
        cases hrunning
      refine ⟨?_, fun _ => hlocked, hsame, ?_, fun _ => Endpoint.create_self _ _ _⟩
      · constructor
        · exact fun _ => hlistening
        · exact fun _ => ⟨hturn, hruns⟩
        · exact fun _ => Or.inr (Or.inl rfl)
        · exact fun hpositive => absurd hpositive hanswers
        · exact fun hsome => absurd hruns hsome
        · simp [hruns]
        · simp [hturn]
      · intro hup
        exact hsocket ⟨hlistening, by simp [hstage]⟩
  | ready =>
      simp only [BrokerDaemon.next, Option.ite_none_right_eq_some, Option.some.injEq,
        Prod.mk.injEq] at hnext
      obtain ⟨hstage, rfl, rfl⟩ := hnext
      have hpublished : daemon.Published := Or.inl hstage
      have hlistening := hsound.listens (Or.inr hpublished)
      obtain ⟨hturn, hruns⟩ := hsound.calm (Or.inr hpublished)
      refine ⟨?_, ?_, yields_release endpoint self, ?_, fun _ => hmetadata hpublished⟩
      · constructor
        · exact fun _ => hlistening
        · exact fun _ => ⟨hturn, hruns⟩
        · exact fun _ => Or.inr (Or.inr (Or.inl rfl))
        · exact fun hpositive => ⟨rfl, (hsound.answered hpositive).2⟩
        · exact fun _ => rfl
        · simp [hruns]
        · simp [hturn]
      · simp [Starting]
      · exact fun _ => hsocket (hsound.up_of_published hpublished)
  | signal => exact keeps_signal hsound hsocket hnext
  | answered =>
      simp only [BrokerDaemon.next, Option.ite_none_right_eq_some, Option.some.injEq,
        Prod.mk.injEq] at hnext
      obtain ⟨⟨hstage, hturn, hpositive⟩, rfl, rfl⟩ := hnext
      obtain ⟨-, hlistening, hstopping⟩ := hsound.answered hpositive
      refine .of_stopping hstage hstopping (fun _ => hlistening) ?_ ?_ hsame ?_
      · intro _ hclosing
        refine hsound.closing hlistening ?_
        simpa using hclosing
      · simp [hturn]
      · exact fun h => hsocket ⟨h, by simp [hstage]⟩
  | lost =>
      simp only [BrokerDaemon.next, Option.ite_none_right_eq_some, Option.some.injEq,
        Prod.mk.injEq] at hnext
      obtain ⟨hpositive, rfl, rfl⟩ := hnext
      obtain ⟨hstage, hlistening, hstopping⟩ := hsound.answered hpositive
      refine .of_stopping hstage hstopping (fun _ => hlistening) hsound.closing ?_ hsame ?_
      · exact fun h => hsound.socket ⟨h, by simp [hstage]⟩
      · exact fun h => hsocket ⟨h, by simp [hstage]⟩
  | resume run =>
      simp only [BrokerDaemon.next, Option.ite_none_right_eq_some] at hnext
      obtain ⟨⟨hstage, hturn⟩, hnext⟩ := hnext
      obtain ⟨resumed, hresumed, hpair⟩ := Option.map_eq_some_iff.mp hnext
      cases hpair
      exact keeps_resume hsound hsocket hstage hturn hresumed
  | act => exact keeps_perform hsound hlocks hsocket hnext
  | uncaughtException =>
      simp only [BrokerDaemon.next, Option.ite_none_right_eq_some, Option.some.injEq,
        Prod.mk.injEq] at hnext
      obtain ⟨-, rfl, rfl⟩ := hnext
      refine ⟨?_, ?_, hsame, ?_, ?_⟩
      · constructor
        all_goals simp [Published, Serving, Up]
      · simp [Starting]
      · simp [Up]
      · simp [Published, Serving]
  | leave =>
      simp only [BrokerDaemon.next, Option.ite_none_right_eq_some, Option.some.injEq,
        Prod.mk.injEq] at hnext
      obtain ⟨-, rfl, rfl⟩ := hnext
      exact keeps_gone
  | kill =>
      simp only [BrokerDaemon.next] at hnext
      split at hnext
      · cases hnext
      · cases hnext
        exact keeps_gone

end Steps

/-! ## Beside another daemon -/

theorem idle_gone : gone.Idle := ⟨rfl, rfl, by simp [gone, Entering]⟩

/-- A daemon with nothing left to remove leaves the files of another one alone, as long as a
probe connects and no exception reaches it. -/
theorem idle_next (hsound : daemon.Sound) (hidle : daemon.Idle) (hdown : ¬ daemon.Up)
    (hstarting : daemon.stage ≠ .publishing ∧ daemon.stage ≠ .opened) {action : DaemonAction}
    (haction : action ≠ .uncaughtException)
    (hnext : daemon.next self endpoint true action = some (after, next)) :
    after.files = endpoint.files ∧ next.Idle := by
  obtain ⟨hturn, hruns, hentering⟩ := hidle
  have hserving : ¬ daemon.Serving := fun hserving =>
    hdown (hsound.up_of_published (Or.inr hserving))
  have hanswers : ¬ 0 < daemon.answers := by
    intro hpositive
    obtain ⟨hstage, hlistening, -⟩ := hsound.answered hpositive
    exact hdown ⟨hlistening, by simp [hstage]⟩
  cases action with
  | spawn =>
      simp only [BrokerDaemon.next, Option.ite_none_right_eq_some, Option.some.injEq,
        Prod.mk.injEq] at hnext
      obtain ⟨-, rfl, rfl⟩ := hnext
      exact ⟨rfl, rfl, rfl, by simp [Entering]⟩
  | lock =>
      simp only [BrokerDaemon.next, Option.ite_none_right_eq_some, Option.some.injEq,
        Prod.mk.injEq] at hnext
      obtain ⟨-, rfl, rfl⟩ := hnext
      exact ⟨rfl, rfl, rfl, by simp [Entering]⟩
  | giveUp =>
      simp only [BrokerDaemon.next, Option.ite_none_right_eq_some, Option.some.injEq,
        Prod.mk.injEq] at hnext
      obtain ⟨-, rfl, rfl⟩ := hnext
      exact ⟨rfl, idle_gone⟩
  | probe =>
      simp only [BrokerDaemon.next, Option.ite_none_right_eq_some, if_true, Option.some.injEq,
        Prod.mk.injEq] at hnext
      obtain ⟨-, rfl, rfl⟩ := hnext
      exact ⟨rfl, idle_gone⟩
  | reconcile succeeds =>
      simp only [BrokerDaemon.next, Option.ite_none_right_eq_some] at hnext
      exact absurd (Or.inl hnext.1.1) hentering
  | listen =>
      simp only [BrokerDaemon.next, Option.ite_none_right_eq_some] at hnext
      exact absurd (Or.inr hnext.1) hentering
  | publish =>
      simp only [BrokerDaemon.next, Option.ite_none_right_eq_some] at hnext
      exact absurd hnext.1 hstarting.1
  | ready =>
      simp only [BrokerDaemon.next, Option.ite_none_right_eq_some] at hnext
      exact absurd hnext.1 hstarting.2
  | signal =>
      simp only [BrokerDaemon.next, BrokerDaemon.signal] at hnext
      split at hnext
      all_goals try
        cases hnext
        exact ⟨rfl, idle_gone⟩
      · next hstage =>
        rw [if_pos hturn] at hnext
        split at hnext
        · cases hnext
          exact ⟨rfl, hturn, hruns, hentering⟩
        · next hstopping => exact absurd ⟨hstage, by simpa using hstopping⟩ hserving
      · cases hnext
  | answered =>
      simp only [BrokerDaemon.next, Option.ite_none_right_eq_some] at hnext
      exact absurd hnext.1.2.2 hanswers
  | lost =>
      simp only [BrokerDaemon.next, Option.ite_none_right_eq_some] at hnext
      exact absurd hnext.1 hanswers
  | resume run =>
      simp [BrokerDaemon.next, BrokerDaemon.resume, hruns] at hnext
  | act =>
      simp [BrokerDaemon.next, BrokerDaemon.perform, hturn] at hnext
  | uncaughtException => exact absurd rfl haction
  | leave =>
      simp only [BrokerDaemon.next, Option.ite_none_right_eq_some, Option.some.injEq,
        Prod.mk.injEq] at hnext
      obtain ⟨-, rfl, rfl⟩ := hnext
      exact ⟨rfl, idle_gone⟩
  | kill =>
      simp only [BrokerDaemon.next] at hnext
      split at hnext
      · cases hnext
      · cases hnext
        exact ⟨rfl, idle_gone⟩

theorem not_up_gone : ¬ gone.Up := by
  rintro ⟨⟨⟩, -⟩

theorem up_perform (hnext : daemon.perform self endpoint = some (after, next)) (hup : next.Up) :
    daemon.Up := by
  unfold perform at hnext
  split at hnext
  · cases hnext
  · cases hnext
    exact hup
  · cases hnext
    exact hup
  · cases hnext
    cases hup.1
  · cases hnext
    exact absurd hup not_up_gone

theorem up_resume {run : Nat} (hnext : daemon.resume run = some next) (hup : next.Up) :
    daemon.Up := by
  unfold resume at hnext
  split at hnext
  · cases hnext
  · cases hnext
    exact hup
  · cases hnext
    exact hup

theorem up_signal (hnext : daemon.signal self endpoint = some (after, next)) (hup : next.Up) :
    daemon.Up := by
  unfold BrokerDaemon.signal at hnext
  split at hnext
  all_goals try
    cases hnext
    exact absurd hup not_up_gone
  · split at hnext
    · split at hnext
      · cases hnext
        exact hup
      · cases hnext
        exact hup
    · cases hnext
  · cases hnext

/-- A daemon is up because it was, or because it has just begun to listen. -/
theorem up_next (hsound : daemon.Sound) {connects : Bool} {action : DaemonAction}
    (hnext : daemon.next self endpoint connects action = some (after, next)) (hup : next.Up) :
    daemon.Up ∨ action = .listen ∧ daemon.stage = .binding := by
  cases action with
  | spawn =>
      simp only [BrokerDaemon.next, Option.ite_none_right_eq_some, Option.some.injEq,
        Prod.mk.injEq] at hnext
      obtain ⟨-, rfl, rfl⟩ := hnext
      cases hup.1
  | lock =>
      simp only [BrokerDaemon.next, Option.ite_none_right_eq_some, Option.some.injEq,
        Prod.mk.injEq] at hnext
      obtain ⟨-, rfl, rfl⟩ := hnext
      cases hup.1
  | giveUp =>
      simp only [BrokerDaemon.next, Option.ite_none_right_eq_some, Option.some.injEq,
        Prod.mk.injEq] at hnext
      obtain ⟨-, rfl, rfl⟩ := hnext
      cases hup.1
  | probe =>
      simp only [BrokerDaemon.next, Option.ite_none_right_eq_some] at hnext
      obtain ⟨-, hnext⟩ := hnext
      split at hnext
      · cases hnext
        cases hup.1
      · cases hnext
        cases hup.1
  | reconcile succeeds =>
      simp only [BrokerDaemon.next, Option.ite_none_right_eq_some] at hnext
      obtain ⟨-, hnext⟩ := hnext
      cases succeeds with
      | true =>
          cases hnext
          cases hup.1
      | false =>
          cases hnext
          cases hup.1
  | listen =>
      simp only [BrokerDaemon.next, Option.ite_none_right_eq_some] at hnext
      exact Or.inr ⟨rfl, hnext.1⟩
  | publish =>
      simp only [BrokerDaemon.next, Option.ite_none_right_eq_some] at hnext
      exact Or.inl ⟨hsound.listens (Or.inl hnext.1), by simp [hnext.1]⟩
  | ready =>
      simp only [BrokerDaemon.next, Option.ite_none_right_eq_some] at hnext
      exact Or.inl (hsound.up_of_published (Or.inl hnext.1))
  | signal => exact Or.inl (up_signal hnext hup)
  | answered =>
      simp only [BrokerDaemon.next, Option.ite_none_right_eq_some, Option.some.injEq,
        Prod.mk.injEq] at hnext
      obtain ⟨-, rfl, rfl⟩ := hnext
      exact Or.inl hup
  | lost =>
      simp only [BrokerDaemon.next, Option.ite_none_right_eq_some, Option.some.injEq,
        Prod.mk.injEq] at hnext
      obtain ⟨-, rfl, rfl⟩ := hnext
      exact Or.inl hup
  | resume run =>
      simp only [BrokerDaemon.next, Option.ite_none_right_eq_some] at hnext
      obtain ⟨resumed, hresumed, hpair⟩ := Option.map_eq_some_iff.mp hnext.2
      cases hpair
      exact Or.inl (up_resume hresumed hup)
  | act => exact Or.inl (up_perform hnext hup)
  | uncaughtException =>
      simp only [BrokerDaemon.next, Option.ite_none_right_eq_some, Option.some.injEq,
        Prod.mk.injEq] at hnext
      obtain ⟨-, rfl, rfl⟩ := hnext
      exact absurd rfl hup.2
  | leave =>
      simp only [BrokerDaemon.next, Option.ite_none_right_eq_some, Option.some.injEq,
        Prod.mk.injEq] at hnext
      obtain ⟨-, rfl, rfl⟩ := hnext
      exact absurd hup not_up_gone
  | kill =>
      simp only [BrokerDaemon.next] at hnext
      split at hnext
      · cases hnext
      · cases hnext
        exact absurd hup not_up_gone

end BrokerDaemon

/-! ## Clients -/

namespace ServiceClient

variable {endpoint after : Endpoint} {client next : ServiceClient}

theorem lock_next {answering : Option DaemonId} {action : ClientAction}
    (hnext : client.next endpoint answering action = some (after, next)) :
    after.lock = endpoint.lock := by
  cases action with
  | act =>
      simp only [ServiceClient.next, perform] at hnext
      split at hnext
      all_goals
        cases hnext
        try rfl
  | _ =>
      simp only [ServiceClient.next] at hnext
      repeat' split at hnext
      all_goals
        cases hnext
        try rfl

/-- A client with nothing to remove leaves the files alone as long as a probe reaches a
daemon. -/
theorem calm_next {daemon : DaemonId} {action : ClientAction} (hturn : client.turn = [])
    (hnext : client.next endpoint (some daemon) action = some (after, next)) :
    after = endpoint ∧ next.turn = [] := by
  cases action with
  | act =>
      simp [ServiceClient.next, perform, hturn] at hnext
  | _ =>
      simp only [ServiceClient.next] at hnext
      repeat' split at hnext
      all_goals
        cases hnext
        try exact ⟨rfl, hturn⟩
        try exact ⟨rfl, rfl⟩

end ServiceClient

/-! ## The invariant -/

namespace ServiceSystem

structure Guarded (system : ServiceSystem) : Prop where
  sound : ∀ daemon, (system.daemons daemon).Sound
  locks : ∀ daemon, (system.daemons daemon).Starting → system.endpoint.lock = some daemon
  socket : ∀ daemon, (system.daemons daemon).Up → system.endpoint.files .socket = some daemon
  metadata : ∀ daemon, (system.daemons daemon).Published →
    system.endpoint.files .metadata = some daemon
  alone : ∀ daemon, (system.daemons daemon).Up →
    (∀ other, other ≠ daemon → (system.daemons other).Idle) ∧
    ∀ client, (system.clients client).turn = []

namespace Guarded

variable {system : ServiceSystem}

theorem initial : Guarded {} where
  sound := by
    intro daemon
    exact .closed rfl (by simp) (by simp [BrokerDaemon.Published, BrokerDaemon.Serving]) rfl
      (by simp)
  locks := by simp [BrokerDaemon.Starting]
  socket := by simp [BrokerDaemon.Up]
  metadata := by simp [BrokerDaemon.Published, BrokerDaemon.Serving]
  alone := by simp [BrokerDaemon.Up]

theorem answering (hguarded : Guarded system) {daemon : DaemonId}
    (hup : (system.daemons daemon).Up) : system.answering = some daemon := by
  simp [ServiceSystem.answering, hguarded.socket daemon hup, hup.1]

theorem up_unique (hguarded : Guarded system) {first second : DaemonId}
    (hfirst : (system.daemons first).Up) (hsecond : (system.daemons second).Up) :
    first = second := by
  have hsame := (hguarded.socket first hfirst).symm.trans (hguarded.socket second hsecond)
  exact Option.some.inj hsame

theorem setDaemon_cases (system : ServiceSystem) (self daemon : DaemonId) (endpoint : Endpoint)
    (acted : BrokerDaemon) :
    daemon = self ∧ (system.setDaemon self endpoint acted).daemons daemon = acted ∨
    daemon ≠ self ∧
      (system.setDaemon self endpoint acted).daemons daemon = system.daemons daemon := by
  by_cases hsame : daemon = self
  · subst hsame
    exact Or.inl ⟨rfl, system.setDaemon_self daemon endpoint acted⟩
  · exact Or.inr ⟨hsame, system.setDaemon_of_ne hsame endpoint acted⟩

theorem daemon {next : ServiceSystem} {self : DaemonId} {action : DaemonAction}
    (hguarded : Guarded system) (horderly : system.Orderly (.daemon self action))
    (hstep : system.step (.daemon self action) = some next) : Guarded next := by
  obtain ⟨⟨after, acted⟩, hnext, hpair⟩ := Option.map_eq_some_iff.mp hstep
  obtain rfl : system.setDaemon self after acted = next := hpair
  have hkeeps := BrokerDaemon.keeps_next (hguarded.sound self) (hguarded.locks self)
    (hguarded.socket self) (hguarded.metadata self) hnext
  -- while another daemon is up, this one does nothing to the files
  have hbeside : ∀ daemon, daemon ≠ self → (system.daemons daemon).Up →
      after.files = system.endpoint.files ∧ acted.Idle := by
    intro daemon hother hup
    have hanswers : system.answering.isSome = true := by
      rw [hguarded.answering hup]
      rfl
    rw [hanswers] at hnext
    have hdown : ¬ (system.daemons self).Up := fun hself => hother (hguarded.up_unique hup hself)
    refine BrokerDaemon.idle_next (hguarded.sound self)
      ((hguarded.alone daemon hup).1 self (Ne.symm hother)) hdown ?_ ?_ hnext
    · constructor
      · intro hstage
        exact hdown ⟨(hguarded.sound self).listens (Or.inl hstage), by simp [hstage]⟩
      · intro hstage
        exact hdown ((hguarded.sound self).up_of_published (Or.inl hstage))
    · rintro rfl
      rcases horderly with hup' | hnone
      · exact hdown hup'
      · exact hnone daemon hother hup
  constructor
  · intro daemon
    rcases setDaemon_cases system self daemon after acted with ⟨rfl, hdaemon⟩ | ⟨-, hdaemon⟩
    · rw [hdaemon]
      exact hkeeps.sound
    · rw [hdaemon]
      exact hguarded.sound daemon
  · intro daemon hstarting
    rcases setDaemon_cases system self daemon after acted with ⟨rfl, hdaemon⟩ | ⟨hother, hdaemon⟩
    · exact hkeeps.locks (hdaemon ▸ hstarting)
    · exact hkeeps.yields daemon hother (hguarded.locks daemon (hdaemon ▸ hstarting))
  · intro daemon hup
    rcases setDaemon_cases system self daemon after acted with ⟨rfl, hdaemon⟩ | ⟨hother, hdaemon⟩
    · exact hkeeps.socket (hdaemon ▸ hup)
    · rw [hdaemon] at hup
      exact (congrFun (hbeside daemon hother hup).1 .socket).trans (hguarded.socket daemon hup)
  · intro daemon hpublished
    rcases setDaemon_cases system self daemon after acted with ⟨rfl, hdaemon⟩ | ⟨hother, hdaemon⟩
    · exact hkeeps.metadata (hdaemon ▸ hpublished)
    · rw [hdaemon] at hpublished
      have hup := (hguarded.sound daemon).up_of_published hpublished
      exact (congrFun (hbeside daemon hother hup).1 .metadata).trans
        (hguarded.metadata daemon hpublished)
  · intro daemon hup
    rcases setDaemon_cases system self daemon after acted with ⟨rfl, hdaemon⟩ | ⟨hother, hdaemon⟩
    · rw [hdaemon] at hup
      rcases BrokerDaemon.up_next (hguarded.sound daemon) hnext hup with
        hwas | ⟨rfl, hbinding⟩
      · refine ⟨?_, (hguarded.alone daemon hwas).2⟩
        intro other hother
        rw [system.setDaemon_of_ne hother]
        exact (hguarded.alone daemon hwas).1 other hother
      · refine ⟨?_, horderly.2⟩
        intro other hother
        rw [system.setDaemon_of_ne hother]
        have hquiet := not_or.mp (horderly.1 other hother)
        refine ⟨not_not.mp hquiet.1, not_not.mp hquiet.2, ?_⟩
        intro hentering
        -- both would hold the startup lock
        have hmine := hguarded.locks daemon (by simp [BrokerDaemon.Starting, hbinding])
        have htheirs := hguarded.locks other (by
          rcases hentering with hstage | hstage
          · simp [BrokerDaemon.Starting, hstage]
          · simp [BrokerDaemon.Starting, hstage])
        exact hother (Option.some.inj (htheirs.symm.trans hmine))
    · rw [hdaemon] at hup
      refine ⟨?_, (hguarded.alone daemon hup).2⟩
      intro other hne
      rcases setDaemon_cases system self other after acted with ⟨rfl, hacted⟩ | ⟨-, hacted⟩
      · rw [hacted]
        exact (hbeside daemon hother hup).2
      · rw [hacted]
        exact (hguarded.alone daemon hup).1 other hne

theorem client {next : ServiceSystem} {self : ClientId} {action : ClientAction}
    (hguarded : Guarded system) (hstep : system.step (.client self action) = some next) :
    Guarded next := by
  obtain ⟨⟨after, acted⟩, hnext, hpair⟩ := Option.map_eq_some_iff.mp hstep
  obtain rfl : system.setClient self after acted = next := hpair
  have hlock := ServiceClient.lock_next hnext
  have hbeside : ∀ daemon, (system.daemons daemon).Up →
      after = system.endpoint ∧ acted.turn = [] := by
    intro daemon hup
    rw [hguarded.answering hup] at hnext
    exact ServiceClient.calm_next ((hguarded.alone daemon hup).2 self) hnext
  constructor
  · exact hguarded.sound
  · exact fun daemon hstarting => hlock.trans (hguarded.locks daemon hstarting)
  · intro daemon hup
    obtain ⟨rfl, -⟩ := hbeside daemon hup
    exact hguarded.socket daemon hup
  · intro daemon hpublished
    obtain ⟨rfl, -⟩ := hbeside daemon ((hguarded.sound daemon).up_of_published hpublished)
    exact hguarded.metadata daemon hpublished
  · intro daemon hup
    refine ⟨(hguarded.alone daemon hup).1, ?_⟩
    intro client
    by_cases hsame : client = self
    · subst hsame
      rw [setClient_self]
      exact (hbeside daemon hup).2
    · rw [system.setClient_of_ne hsame]
      exact (hguarded.alone daemon hup).2 client

/-- A daemon is replaced by one that claims no more, and the endpoint stays. -/
theorem replace (hguarded : Guarded system) {self : DaemonId} {daemon : BrokerDaemon}
    (hsound : daemon.Sound) (hstarting : daemon.Starting → (system.daemons self).Starting)
    (hup : daemon.Up → (system.daemons self).Up)
    (hpublished : daemon.Published → (system.daemons self).Published)
    (hidle : (system.daemons self).Idle → daemon.Idle) :
    Guarded (system.setDaemon self system.endpoint daemon) := by
  have hclaim : ∀ {claim : BrokerDaemon → Prop} (other : DaemonId),
      (claim daemon → claim (system.daemons self)) →
      claim ((system.setDaemon self system.endpoint daemon).daemons other) →
        claim (system.daemons other) := by
    intro claim other himp hholds
    rcases setDaemon_cases system self other system.endpoint daemon with
      ⟨rfl, hdaemon⟩ | ⟨-, hdaemon⟩
    · rw [hdaemon] at hholds
      exact himp hholds
    · rw [hdaemon] at hholds
      exact hholds
  constructor
  · intro other
    rcases setDaemon_cases system self other system.endpoint daemon with
      ⟨rfl, hdaemon⟩ | ⟨-, hdaemon⟩
    · rw [hdaemon]
      exact hsound
    · rw [hdaemon]
      exact hguarded.sound other
  · exact fun other hother => hguarded.locks other (hclaim other hstarting hother)
  · exact fun other hother => hguarded.socket other (hclaim other hup hother)
  · exact fun other hother => hguarded.metadata other (hclaim other hpublished hother)
  · intro other hother
    obtain ⟨hidles, hcalm⟩ := hguarded.alone other (hclaim other hup hother)
    refine ⟨?_, hcalm⟩
    intro third hthird
    rcases setDaemon_cases system self third system.endpoint daemon with
      ⟨rfl, hdaemon⟩ | ⟨-, hdaemon⟩
    · rw [hdaemon]
      exact hidle (hidles third hthird)
    · rw [hdaemon]
      exact hidles third hthird

/-- A client that goes to another stage. -/
theorem setStage (hguarded : Guarded system) (self : ClientId) (stage : ClientStage) :
    Guarded (system.setClient self system.endpoint { system.clients self with stage }) := by
  refine ⟨hguarded.sound, hguarded.locks, hguarded.socket, hguarded.metadata, ?_⟩
  intro daemon hup
  refine ⟨(hguarded.alone daemon hup).1, ?_⟩
  intro client
  by_cases hsame : client = self
  · subst hsame
    rw [setClient_self]
    exact (hguarded.alone daemon hup).2 client
  · rw [system.setClient_of_ne hsame]
    exact (hguarded.alone daemon hup).2 client

theorem requestStop {next : ServiceSystem} {self : ClientId} (hguarded : Guarded system)
    (hstep : system.requestStop self = some next) : Guarded next := by
  unfold ServiceSystem.requestStop at hstep
  dsimp only at hstep
  split at hstep
  · next expected found hstage hanswering =>
    split at hstep
    · next hready =>
      obtain ⟨hrunning, hturn⟩ := hready
      have hlistening : (system.daemons found).listening = true := by
        simp only [ServiceSystem.answering, Option.filter_eq_some_iff] at hanswering
        exact hanswering.2
      have hsound := hguarded.sound found
      split at hstep
      · cases hstep
        refine (hguarded.setStage self .waiting).replace ?_ ?_ id ?_ id
        · constructor
          · simp [BrokerDaemon.Published, BrokerDaemon.Serving, hrunning]
          · simp [BrokerDaemon.Published, BrokerDaemon.Serving, hrunning]
          · exact hsound.listened
          · exact fun _ => ⟨hrunning, hlistening, rfl⟩
          · exact hsound.pending
          · exact hsound.closing
          · exact hsound.socket
        · exact id
        · simp [BrokerDaemon.Published, BrokerDaemon.Serving, hrunning]
      · cases hstep
        exact hguarded.setStage self .ended
    · cases hstep
  · cases hstep

theorem spawnFrom {next : ServiceSystem} {self : ClientId} {daemon : DaemonId}
    (hguarded : Guarded system) (hstep : system.spawnFrom self daemon = some next) :
    Guarded next := by
  simp only [ServiceSystem.spawnFrom, Option.ite_none_right_eq_some, Option.some.injEq] at hstep
  obtain ⟨-, rfl⟩ := hstep
  refine (hguarded.setStage self .ended).replace ?_ ?_ ?_ ?_ ?_
  · exact .closed rfl (by simp) (by simp [BrokerDaemon.Published, BrokerDaemon.Serving]) rfl
      (by simp)
  · simp [BrokerDaemon.Starting]
  · simp [BrokerDaemon.Up]
  · simp [BrokerDaemon.Published, BrokerDaemon.Serving]
  · exact fun _ => ⟨rfl, rfl, by simp [BrokerDaemon.Entering]⟩

theorem step {next : ServiceSystem} {event : SystemEvent} (hguarded : Guarded system)
    (horderly : system.Orderly event) (hstep : system.step event = some next) : Guarded next := by
  cases event with
  | daemon self action => exact hguarded.daemon horderly hstep
  | client self action => exact hguarded.client hstep
  | requestStop self => exact hguarded.requestStop hstep
  | spawnFrom self daemon => exact hguarded.spawnFrom hstep

theorem run {last : ServiceSystem} {events : List SystemEvent} (hguarded : Guarded system)
    (hrun : OrderlyRun system events last) : Guarded last := by
  induction hrun with
  | nil system => exact hguarded
  | cons orderly happens rest ih => exact ih (hguarded.step orderly happens)

theorem exclusive (hguarded : Guarded system) : Exclusive system where
  one := by
    intro first second hfirst hsecond
    exact hguarded.up_unique ((hguarded.sound first).up_of_published (Or.inr hfirst))
      ((hguarded.sound second).up_of_published (Or.inr hsecond))
  reachable := by
    intro daemon hserving
    exact ⟨hguarded.answering ((hguarded.sound daemon).up_of_published (Or.inr hserving)),
      hguarded.metadata daemon (Or.inr hserving)⟩
  spared := by
    intro daemon file hserving hfile
    obtain ⟨hidle, hcalm⟩ := hguarded.alone daemon ((hguarded.sound daemon).up_of_published (Or.inr hserving))
    constructor
    · intro other hother hremoves
      have hturn := (hidle other hother).1
      rcases hremoves with hremove | ⟨hclose, -⟩
      · rw [hturn] at hremove
        cases hremove
      · rw [hturn] at hclose
        cases hclose
    · intro client hremove
      rw [hcalm client] at hremove
      cases hremove

end Guarded

/-- In every run in which a daemon begins to listen only when no other process has a removal
left, and exceptions come at the right time, one daemon serves and keeps its files. -/
theorem exclusive_of_orderlyRun {system : ServiceSystem} {events : List SystemEvent}
    (hrun : OrderlyRun {} events system) : Exclusive system :=
  (Guarded.initial.run hrun).exclusive

/-- A daemon comes up. -/
def startEvents (self : DaemonId) : List SystemEvent :=
  [.daemon self .spawn, .daemon self .lock, .daemon self .probe, .daemon self .act,
    .daemon self (.reconcile true), .daemon self .listen, .daemon self .publish,
    .daemon self .ready]

/-- A serving daemon is signalled, and shuts down before it ends. -/
def stopEvents (self : DaemonId) : List SystemEvent :=
  [.daemon self .signal, .daemon self (.resume 0), .daemon self .act, .daemon self .act,
    .daemon self .act, .daemon self (.resume 0), .daemon self .act, .daemon self .act]

/-- Nobody but the daemon has a removal left. -/
structure Alone (daemon : DaemonId) (system : ServiceSystem) : Prop where
  daemons : ∀ other, other ≠ daemon → ¬ (system.daemons other).Cleans
  clients : ∀ client, (system.clients client).turn = []

theorem Alone.step {self : DaemonId} {system next : ServiceSystem} {action : DaemonAction}
    (halone : Alone self system) (hstep : system.step (.daemon self action) = some next) :
    Alone self next := by
  obtain ⟨⟨endpoint, daemon⟩, -, rfl⟩ := Option.map_eq_some_iff.mp hstep
  refine ⟨fun other hother => ?_, halone.clients⟩
  rw [setDaemon_of_ne system hother]
  exact halone.daemons other hother

/-- What a daemon does alone is orderly, unless it crashes. -/
theorem Alone.orderlyRun {self : DaemonId} {system last : ServiceSystem}
    (halone : Alone self system) (actions : List DaemonAction)
    (hcaught : .uncaughtException ∉ actions)
    (hrun : system.run (actions.map (.daemon self)) = some last) :
    OrderlyRun system (actions.map (.daemon self)) last ∧ Alone self last := by
  induction actions generalizing system with
  | nil =>
      cases hrun
      exact ⟨.nil _, halone⟩
  | cons action actions ih =>
      obtain ⟨middle, hstep, hrest⟩ := Option.bind_eq_some_iff.mp hrun
      simp only [List.mem_cons, not_or] at hcaught
      have horderly : system.Orderly (.daemon self action) := by
        cases action with
        | listen => exact ⟨halone.daemons, halone.clients⟩
        | uncaughtException => exact absurd rfl hcaught.1
        | _ => trivial
      obtain ⟨hafter, hlast⟩ := ih (halone.step hstep) hcaught.2 hrest
      exact ⟨.cons horderly hstep hafter, hlast⟩

theorem Alone.other {self other : DaemonId} {system : ServiceSystem} (halone : Alone self system)
    (hdone : ¬ (system.daemons self).Cleans) : Alone other system where
  daemons daemon _ := by
    by_cases hself : daemon = self
    · rwa [hself]
    · exact halone.daemons daemon hself
  clients := halone.clients

theorem OrderlyRun.append {first middle last : ServiceSystem} {before after : List SystemEvent}
    (hbefore : OrderlyRun first before middle) (hafter : OrderlyRun middle after last) :
    OrderlyRun first (before ++ after) last := by
  induction hbefore with
  | nil => exact hafter
  | cons orderly happens _ ih => exact .cons orderly happens (ih hafter)

/-- A daemon serves on an empty state directory and shuts down, and another one serves after it. -/
theorem exclusive_of_orderlyRun_handOver :
    ∃ system, OrderlyRun {} (startEvents 0 ++ (stopEvents 0 ++ startEvents 1)) system ∧
      (system.daemons 0).stage = .ended ∧ (system.daemons 1).Serving ∧ Exclusive system := by
  have hempty : Alone 0 {} := ⟨by simp [BrokerDaemon.Cleans], fun _ => rfl⟩
  obtain ⟨hstarts, hserving⟩ := hempty.orderlyRun
    [.spawn, .lock, .probe, .act, .reconcile true, .listen, .publish, .ready] (by decide) rfl
  obtain ⟨hstops, hstopped⟩ := hserving.orderlyRun
    [.signal, .resume 0, .act, .act, .act, .resume 0, .act, .act] (by decide) rfl
  have hgone : Alone 1 _ := hstopped.other (by decide)
  obtain ⟨hfollows, -⟩ := hgone.orderlyRun
    [.spawn, .lock, .probe, .act, .reconcile true, .listen, .publish, .ready] (by decide) rfl
  have hrun := hstarts.append (hstops.append hfollows)
  exact ⟨_, hrun, by decide, by decide, exclusive_of_orderlyRun hrun⟩

/-- The first daemon closes its server, a second one starts, and the first one goes on: it is
about to remove the second one's socket file, and a third daemon can serve beside it. -/
theorem exclusive_fails :
    ∃ system, run {} (startEvents 0 ++ [.daemon 0 .signal, .daemon 0 (.resume 0), .daemon 0 .act,
        .daemon 0 .act, .daemon 0 .act] ++ startEvents 1 ++ [.daemon 0 (.resume 0),
        .daemon 0 .act]) = some system ∧
      (system.daemons 1).Serving ∧ system.endpoint.files .socket = some 1 ∧
      (system.daemons 0).Removes .socket ∧ ¬ Exclusive system ∧
    ∃ later, run system (.daemon 0 .act :: startEvents 2) = some later ∧
      (later.daemons 1).Serving ∧ (later.daemons 2).Serving ∧ ¬ Exclusive later := by
  refine ⟨_, rfl, by decide, by decide, Or.inl (by decide), ?_, _, rfl, by decide, by decide, ?_⟩
  · intro hexclusive
    exact (hexclusive.spared 1 .socket (by decide) (by decide)).1 0 (by decide)
      (Or.inl (by decide))
  · intro hexclusive
    cases hexclusive.one 1 2 (by decide) (by decide)

end ServiceSystem

end SimulatorBroker.Service
