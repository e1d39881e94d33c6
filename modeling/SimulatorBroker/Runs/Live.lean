import SimulatorBroker.Runs.System

/-!
# A lease whose owner lives

No command ends a lease whose owner process is alive, unless it is told to, or it judges the owner
by a clock it read before the owner registered.
-/

namespace SimulatorBroker.Runs

open SimulatorBroker.Effects
open SimulatorBroker.State
open SimulatorBroker.Broker
open SimulatorBroker.Safety

/-! ## What is asked -/

/-- The operation takes the lease for a stale one: it removes its file, signals its processes, or
records that it was reclaimed or contained. -/
def Ends (leaseId : LeaseId) : BrokerOp → Prop
  | .unlinkLease other _ => other = leaseId
  | .containLeaseProcesses record _ => record.leaseId = leaseId
  | .appendEvent event =>
      (event.type = .leaseReclaimed ∨ event.type = .leaseContained) ∧ event.leaseId = some leaseId
  | _ => False

/-- A release, a contain or a forced repair of that very lease. -/
def Targets (leaseId : LeaseId) (world : World) : Command → Prop
  | .contain reference _ | .release reference => LeaseReference.Names reference world leaseId
  | .lifecycle action options => ForcesRepair action options leaseId
  | _ => False

/-- A command that observes leases by a clock it read before it waited for the lock read it when
the owner had registered. -/
def ReadsInTime (leaseId : LeaseId) (world : World) (timestamp : Timestamp) (command : Command) :
    Prop :=
  command.readsClockBeforeLock = true →
    ∀ lease ∈ world.store.leases, lease.leaseId = leaseId → lease.ownerSince ≤ timestamp

/-- The command is about another lease, and observes this one in time. -/
structure Spares (leaseId : LeaseId) (world : World) (timestamp : Timestamp) (command : Command) :
    Prop where
  untargeted : ¬ Targets leaseId world command
  inTime : ReadsInTime leaseId world timestamp command

/-- The command does nothing to end the lease, and its file stays, wherever the command stops. -/
structure LeftAlone (paths : BrokerPaths) (surroundings : Surroundings) (leaseId : LeaseId)
    (world : World) (timestamp : Timestamp) (command : Command) : Prop where
  untouched : ∀ op middle,
    Performs (brokerHandler surroundings) (command.body paths timestamp) world op middle →
      ¬ Ends leaseId op
  kept : ∀ (rest : Broker command.Reply) after,
    Steps (brokerHandler surroundings) (command.body paths timestamp) world rest after →
      ∃ lease ∈ after.store.leases, lease.leaseId = leaseId

/-! ## One command -/

section Command

variable {paths : BrokerPaths} {surroundings : Surroundings} {leaseId : LeaseId} {world : World}

/-- The lease stands among consistent files. -/
structure Stands (paths : BrokerPaths) (leaseId : LeaseId) (world : World) : Prop where
  consistent : Consistent paths world
  granted : ∃ lease, lease.leaseId = leaseId ∧ Granted world lease

/-- When the command observes the leases. -/
def observedAt (world : World) (timestamp : Timestamp) (command : Command) : Timestamp :=
  if command.readsClockBeforeLock = true then timestamp else world.outside.clock

/-- The clock read before the lock is not used by the other commands. -/
theorem body_observedAt (paths : BrokerPaths) (world : World) (command : Command)
    (timestamp : Timestamp) :
    command.body paths (observedAt world timestamp command) = command.body paths timestamp := by
  cases command <;> rfl

theorem observedAt_le {timestamp : Timestamp} (hpast : timestamp ≤ world.outside.clock)
    (command : Command) :
    observedAt world timestamp command ≤ world.outside.clock := by
  unfold observedAt
  split
  · exact hpast
  · exact le_rfl

theorem ownerSince_le_observedAt {timestamp : Timestamp} {command : Command}
    (hconsistent : Consistent paths world) (hinTime : ReadsInTime leaseId world timestamp command)
    {lease : Lease} (hlease : lease ∈ world.store.leases) (hid : lease.leaseId = leaseId) :
    lease.ownerSince ≤ observedAt world timestamp command := by
  unfold observedAt
  split
  · next hreads => exact hinTime hreads lease hlease hid
  · exact hconsistent.ownerSince lease hlease

/-- The context of a command that must leave the lease alone. -/
def sparingContext (paths : BrokerPaths) (surroundings : Surroundings) (leaseId : LeaseId)
    (command : Command) (timestamp : Timestamp) : Context :=
  { Command.context command paths surroundings timestamp {} with
    spared := fun other => other = leaseId, drawnFrom := 0 }

theorem Stands.moment {command : Command} {observed : Timestamp}
    (hstands : Stands paths leaseId world) (halive : surroundings.ownerAlive leaseId)
    (hsince : ∀ lease ∈ world.store.leases, lease.leaseId = leaseId → lease.ownerSince ≤ observed) :
    Moment (sparingContext paths surroundings leaseId command observed) world where
  toConsistent := hstands.consistent
  spared other hother := by
    obtain rfl : other = leaseId := hother
    obtain ⟨lease, rfl, hgranted⟩ := hstands.granted
    exact ⟨lease, rfl, hgranted, halive, hsince lease hgranted.onDisk rfl⟩
  rolledBack other hother := hother.elim
  assumed := trivial

theorem stands_of_invariant {command : Command} {observed : Timestamp}
    (hinvariant : Invariant (sparingContext paths surroundings leaseId command observed) world) :
    Stands paths leaseId world := by
  obtain ⟨lease, hid, hspared⟩ := hinvariant.spared leaseId rfl
  exact ⟨hinvariant.toConsistent, lease, hid, hspared.toGranted⟩

theorem commandOk_of_untargeted {command : Command} {observed : Timestamp}
    (huntargeted : ¬ Targets leaseId world command) :
    CommandOk (sparingContext paths surroundings leaseId command observed) observed world
      command := by
  cases command with
  | register options => exact ⟨le_rfl, fun _ _ _ => id⟩
  | contain reference reason =>
      refine fun lease _ hnames => ⟨id, fun hid => huntargeted ?_⟩
      obtain rfl : lease.leaseId = leaseId := hid
      exact hnames
  | release reference =>
      refine fun lease _ hnames => ⟨id, fun hid => huntargeted ?_⟩
      obtain rfl : lease.leaseId = leaseId := hid
      exact hnames
  | lifecycle action options =>
      refine ⟨rfl, fun other hforces hid => huntargeted ?_⟩
      obtain rfl : other = leaseId := hid
      exact hforces
  | repairPurpose options => rfl
  | deleteSimulator name => rfl
  | applyIdleCleanup actor confirmPlanId persistNoChanges => exact fun _ _ => id
  | _ => trivial

theorem not_ends_of_stepOk {command : Command} {observed : Timestamp} {op : BrokerOp}
    (hok : StepOk (sparingContext paths surroundings leaseId command observed) op world) :
    ¬ Ends leaseId op := by
  intro hends
  cases op with
  | unlinkLease other site => exact hok hends
  | containLeaseProcesses record reason => exact hok hends
  | appendEvent event => exact hok hends.1 leaseId hends.2 rfl
  | _ => exact hends

/-- Every operation of the command leaves the lease alone, and it stands throughout. -/
theorem Stands.command {command : Command} {timestamp : Timestamp}
    (hstands : Stands paths leaseId world) (halive : surroundings.ownerAlive leaseId)
    (hspares : Spares leaseId world timestamp command) (hpast : timestamp ≤ world.outside.clock) :
    wp (brokerHandler surroundings) (fun op after => ¬ Ends leaseId op ∧ Stands paths leaseId after)
      (command.body paths timestamp) (fun _ => Stands paths leaseId)
      (fun _ => Stands paths leaseId) world := by
  have hsince : ∀ lease ∈ world.store.leases, lease.leaseId = leaseId →
      lease.ownerSince ≤ observedAt world timestamp command :=
    fun lease hlease hid => ownerSince_le_observedAt hstands.consistent hspares.inTime hlease hid
  have hobserved := observedAt_le hpast command
  have hbody := body_observedAt paths world command timestamp
  generalize observedAt world timestamp command = observed at hsince hobserved hbody
  have hsound := sound_command (sparingContext paths surroundings leaseId command observed)
    command rfl (hstands.moment halive hsince) (fun _ => trivial) (Nat.le_refl observed) hobserved
    (Nat.zero_le _) (commandOk_of_untargeted hspares.untargeted)
  rw [← hbody]
  exact hsound.mono (fun _ _ h => ⟨not_ends_of_stepOk h.1, stands_of_invariant h.2⟩)
    (fun _ _ h => stands_of_invariant h) fun _ _ h => stands_of_invariant h

theorem Stands.leftAlone {command : Command} {timestamp : Timestamp}
    (hstands : Stands paths leaseId world) (halive : surroundings.ownerAlive leaseId)
    (hspares : Spares leaseId world timestamp command) (hpast : timestamp ≤ world.outside.clock) :
    LeftAlone paths surroundings leaseId world timestamp command := by
  have hcommand := hstands.command halive hspares hpast
  constructor
  · intro op middle hperforms
    exact (hcommand.guarded hperforms).1
  · intro rest after hsteps
    have hafter : Stands paths leaseId after :=
      (hcommand.mono (fun _ _ h => h.2) (fun _ _ h => h) fun _ _ h => h).stopped hsteps
    obtain ⟨lease, hid, hgranted⟩ := hafter.granted
    exact ⟨lease, hgranted.onDisk, hid⟩

end Command

/-! ## Runs with a living owner -/

/-- A record that shows the owner. -/
def showsOwner (record : ProcessRecord) (lease : Lease) (clock : Timestamp) : Bool :=
  !processLooksDefunct record
    && (positive? lease.runtime.ownerPgid).all (fun registered => record.pgid == some registered)
    && !isProcessSamplerCommand record.command
    && (parseElapsedMilliseconds record.elapsed).any fun elapsed =>
      decide (clock ≤ lease.ownerSince + elapsed + commandPidIdentityToleranceMs)

theorem shows_of_showsOwner {record : ProcessRecord} {lease : Lease} {clock : Timestamp}
    (hshows : showsOwner record lease clock = true) : record.ShowsOwner lease clock := by
  simp only [showsOwner, Bool.and_eq_true, Bool.not_eq_true', Option.all_eq_true, beq_iff_eq,
    Option.any_eq_true, decide_eq_true_eq] at hshows
  obtain ⟨⟨⟨hdefunct, hpgid⟩, hsampler⟩, elapsed, helapsed, hlifetime⟩ := hshows
  exact ⟨hdefunct, hpgid, hsampler, elapsed, helapsed, hlifetime⟩

/-- A sample that shows the owner of the lease. -/
def ownerSampled (lease : Lease) (clock : Timestamp) (records : List ProcessRecord) : Bool :=
  decide (0 < lease.runtime.ownerPid.getD lease.ownerPid)
    && records.any (fun record => decide (record.pid = lease.runtime.ownerPid.getD lease.ownerPid))
    && records.all fun record =>
      decide (record.pid ≠ lease.runtime.ownerPid.getD lease.ownerPid)
        || showsOwner record lease clock

theorem sampled_of_ownerSampled {lease : Lease} {clock : Timestamp} {records : List ProcessRecord}
    (hsampled : ownerSampled lease clock records = true) : OwnerSampled lease clock records := by
  simp only [ownerSampled, Bool.and_eq_true, decide_eq_true_eq, List.any_eq_true,
    List.all_eq_true, Bool.or_eq_true] at hsampled
  obtain ⟨⟨hpositive, hpresent⟩, hshows⟩ := hsampled
  refine ⟨hpositive, hpresent, fun record hrecord hpid => ?_⟩
  exact shows_of_showsOwner ((hshows record hrecord).resolve_left fun hne => hne hpid)

/-- The answers about processes show the owners of those leases. -/
def livingAnswer (alive : LeaseId → Bool) (op : BrokerOp) (world : World)
    (answer : Except BrokerError op.Ret) : Bool :=
  match op, answer with
  | .processExists pid, .ok value =>
      world.store.leases.all fun lease =>
        !alive lease.leaseId || decide (lease.ownerPid ≠ pid) || value
  | .sampleProcesses, .ok records =>
      world.store.leases.all fun lease =>
        !alive lease.leaseId || ownerSampled lease world.outside.clock records
  | _, _ => true

/-- Anything may happen, but the owners of those leases live. -/
def Surroundings.living (alive : LeaseId → Bool) : Surroundings :=
  { Surroundings.arbitrary with ownerAlive := fun leaseId => alive leaseId = true }

theorem answered_living {alive : LeaseId → Bool} {op : BrokerOp} {world : World} {value : op.Ret}
    (hanswer : livingAnswer alive op world (.ok value) = true)
    (hanswered : Answered .arbitrary op world value) :
    Answered (Surroundings.living alive) op world value := by
  cases op with
  | processExists pid =>
      intro lease hlease halive hpid
      have hlease := List.all_eq_true.mp hanswer lease hlease
      have halive : alive lease.leaseId = true := halive
      simpa [halive, hpid] using hlease
  | sampleProcesses =>
      intro lease hlease halive
      have hlease := List.all_eq_true.mp hanswer lease hlease
      have halive : alive lease.leaseId = true := halive
      rw [halive] at hlease
      exact sampled_of_ownerSampled hlease
  | _ => exact hanswered

/-- A scripted run whose answers show the owners alive. -/
theorem steps_living {α : Type} (alive : LeaseId → Bool) (script : Script) (body : Broker α)
    (world : World)
    (hanswers : body.answersIn script.respond (livingAnswer alive) 0 world = true) :
    Steps (brokerHandler (Surroundings.living alive)) body world
      (.ofOutcome (body.run script.respond 0 world).1) (body.run script.respond 0 world).2 := by
  refine script.sound_respond.run_steps_of_answersIn ?_ body 0 world hanswers
  intro op before answer after hallowed hstep
  cases hstep with
  | ok hanswered hsettles =>
      exact .ok (answered_living hallowed hanswered)
        ⟨hsettles.store, hsettles.ledger, hsettles.drift⟩
  | error hmay herror hsettles =>
      exact .error hmay herror ⟨hsettles.store, hsettles.ledger, hsettles.drift⟩
  | late hmay herror hlate hsettles =>
      exact .late hmay herror hlate ⟨hsettles.store, hsettles.ledger, hsettles.drift⟩

/-- The lease stands in the files. -/
def grantedIn (world : World) (lease : Lease) : Bool :=
  !(world.store.registry.any fun registry => isLeftoverAcquireRollbackLease lease registry)
    && (world.store.entry lease.aliasName).all fun entry =>
      decide (entry.health ≠ .repairing) || decide (entry.activeLeaseId = some lease.leaseId)

theorem granted_of_any {world : World} {leaseId : LeaseId}
    (hany : (world.store.leases.any fun lease =>
      decide (lease.leaseId = leaseId) && grantedIn world lease) = true) :
    ∃ lease, lease.leaseId = leaseId ∧ Granted world lease := by
  obtain ⟨lease, hdisk, hlease⟩ := List.any_eq_true.mp hany
  simp only [grantedIn, Bool.and_eq_true, decide_eq_true_eq, Bool.not_eq_true',
    Option.any_eq_false, Option.all_eq_true, Bool.or_eq_true] at hlease
  obtain ⟨hid, hnot, hadopted⟩ := hlease
  refine ⟨lease, hid, hdisk, ?_, ?_⟩
  · rintro ⟨registry, hregistry, hleftover⟩
    exact absurd hleftover (by simpa using hnot registry hregistry)
  · intro entry hentry hrepairing
    exact (hadopted entry hentry).resolve_left fun hne => hne hrepairing

/-! ## Runs -/

variable {paths : BrokerPaths} {surroundings : Surroundings} {leaseId : LeaseId}
  {first world : World}

theorem Stands.runFrom (hstands : Stands paths leaseId first)
    (halive : surroundings.ownerAlive leaseId)
    (hrun : RunFrom paths surroundings (Spares leaseId) first world) :
    Stands paths leaseId world := by
  induction hrun with
  | refl => exact hstands
  | command _ hadmitted hpast hsteps ih =>
      exact ((ih.command halive hadmitted hpast).mono (fun _ _ h => h.2) (fun _ _ h => h)
        fun _ _ h => h).stopped hsteps
  | time _ hsettles ih =>
      have hkept := Settles.kept hsettles
      obtain ⟨lease, hid, hgranted⟩ := ih.granted
      exact ⟨hkept.consistent ih.consistent, lease, hid, hkept.granted.mpr hgranted⟩

/-! ## A command that waited -/

/-- The owner of the lease, a minute old. -/
def holderScript : Script where
  project := buildProject
  samples := [{ pid := 100, pgid := some 100, elapsed := some "01:00", command := "node" }]

/-- A host on which some time has passed. -/
def laterHost : World :=
  { singleHost with outside := { singleHost.outside with clock := 10 } }

theorem fresh_laterHost : Fresh laterHost where
  registry := rfl
  leases := rfl
  pins := rfl
  ledger := rfl
  devicesDrawn := fresh_singleHost.devicesDrawn
  boundDrawn := fresh_singleHost.boundDrawn

/-- The alias is leased at time 10. -/
abbrev holding : Command := .acquire { purposeId := "tests", ownerPid := 100 }

def heldWorld : World :=
  ((holding.body {} 10).run holderScript.respond 0 laterHost).2

theorem run_heldWorld : Run {} (Surroundings.living fun leaseId => leaseId = 0) heldWorld :=
  .command (.fresh fresh_laterHost) (Nat.le_refl 10)
    (steps_living _ holderScript (holding.body {} 10) laterHost (by decide +kernel))

theorem granted_heldWorld : ∃ lease, lease.leaseId = 0 ∧ Granted heldWorld lease :=
  granted_of_any (by decide +kernel)

/-! ## Every command -/

/-- In every run of commands that observe the lease in time, none of them ends it. -/
theorem leftAlone_of_run {command : Command} {timestamp : Timestamp}
    (hfirst : Run paths surroundings first)
    (hgranted : ∃ lease, lease.leaseId = leaseId ∧ Granted first lease)
    (halive : surroundings.ownerAlive leaseId)
    (hrun : RunFrom paths surroundings (Spares leaseId) first world)
    (hspares : Spares leaseId world timestamp command) (hpast : timestamp ≤ world.outside.clock) :
    LeftAlone paths surroundings leaseId world timestamp command :=
  (Stands.runFrom ⟨hfirst.consistent, hgranted⟩ halive hrun).leftAlone halive hspares hpast

theorem leftAlone_hostStatus :
    LeftAlone {} (Surroundings.living fun leaseId => leaseId = 0) 0 heldWorld 0 .hostStatus :=
  leftAlone_of_run run_heldWorld granted_heldWorld rfl .refl ⟨id, nofun⟩ (Nat.zero_le _)

/-- A pin command that read the clock before the owner registered ends the lease. -/
theorem not_leftAlone_clearPin : ¬ ∀ (first : World) (leaseId : LeaseId) (timestamp : Timestamp)
    (command : Command), Run {} (Surroundings.living fun other => other = leaseId) first →
    (∃ lease, lease.leaseId = leaseId ∧ Granted first lease) → ¬ Targets leaseId first command →
    timestamp ≤ first.outside.clock →
    LeftAlone {} (Surroundings.living fun other => other = leaseId) leaseId first timestamp
      command := by
  intro hleft
  have hkept := (hleft heldWorld 0 0 (.clearPin "build-1") run_heldWorld granted_heldWorld id
    (Nat.zero_le _)).kept
  have hsteps := steps_living (fun leaseId => leaseId = 0) holderScript
    ((Command.clearPin "build-1").body {} 0) heldWorld (by decide +kernel)
  obtain ⟨lease, hlease, -⟩ := hkept _ _ hsteps
  have hgone : (((Command.clearPin "build-1").body {} 0).run holderScript.respond 0
      heldWorld).2.store.leases = [] := by decide +kernel
  rw [hgone] at hlease
  cases hlease

end SimulatorBroker.Runs
