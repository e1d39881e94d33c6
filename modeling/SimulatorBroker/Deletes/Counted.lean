import SimulatorBroker.Broker.Delete

/-!
# The aliases behind the counts of a purpose delete

A purpose delete reports how many aliases it deleted, failed to delete and left to their
holders.  The same loop, with the aliases themselves written down beside the counts.
-/

namespace SimulatorBroker.Deletes

open SimulatorBroker.Effects
open SimulatorBroker.State
open SimulatorBroker.Broker

/-- The aliases that were counted. -/
structure CountedAliases where
  deleted : List AliasName := []
  failed : List AliasName := []
  held : List AliasName := []

namespace CountedAliases

def counts (counted : CountedAliases) : PurposeCounts where
  done := counted.deleted.length
  failed := counted.failed.length
  held := counted.held.length

/-- The alias goes to the count that its turn raised. -/
def raised (counted : CountedAliases) (name : AliasName) (before after : PurposeCounts) :
    CountedAliases where
  deleted := if before.done < after.done then name :: counted.deleted else counted.deleted
  failed := if before.failed < after.failed then name :: counted.failed else counted.failed
  held := if before.held < after.held then name :: counted.held else counted.held

variable {counted : CountedAliases} {name : AliasName} {counts : PurposeCounts}

theorem raised_same : counted.raised name counts counts = counted := by
  simp [raised]

theorem raised_done : counted.raised name counts { counts with done := counts.done + 1 } =
    { counted with deleted := name :: counted.deleted } := by
  simp [raised]

theorem raised_failed : counted.raised name counts { counts with failed := counts.failed + 1 } =
    { counted with failed := name :: counted.failed } := by
  simp [raised]

theorem raised_held : counted.raised name counts { counts with held := counts.held + 1 } =
    { counted with held := name :: counted.held } := by
  simp [raised]

end CountedAliases

/-- What a turn passes on, and the aliases counted so far. -/
structure CountedTurn where
  progress : DeleteProgress
  counted : CountedAliases := {}

def countedCandidate (timestamp : Timestamp) (turn : CountedTurn) (candidate : Candidate) :
    Broker CountedTurn := do
  let progress ← deleteCandidate timestamp turn.progress candidate
  return {
    progress
    counted := turn.counted.raised candidate.hostAlias.aliasName turn.progress.counts
      progress.counts }

/-- The state that was loaded, and the aliases that were counted. -/
structure DeleteReport where
  loaded : BrokerState
  counted : CountedAliases

def countedDelete (paths : BrokerPaths) (purposeId : PurposeId) : Broker DeleteReport := do
  let timestamp ← perform .now
  let state ← loadBrokerState paths { timestamp }
  let project ← perform .readProject
  let purpose ← getPurpose project purposeId
  let turn ← (structuralCandidates paths.locale state purpose project).foldlM
    (countedCandidate timestamp) { progress := { state } }
  return { loaded := state, counted := turn.counted }

def countedDeleteBroker (paths : BrokerPaths) (purposeId : PurposeId) : Broker DeleteReport :=
  withLock .capacity (withLock .lease (countedDelete paths purposeId))

/-- The end of a purpose delete, from its counts. -/
def replyOf (counts : PurposeCounts) : Broker PurposeCounts :=
  if 0 < counts.failed then throw (.broker .purposeDeleteFailed)
  else if counts.done = 0 ∧ 0 < counts.held then throw (.broker .humanOverrideRequired)
  else return counts

/-! ## It is the purpose delete -/

section Programs

variable {α β γ : Type}

theorem bind_congr {body : Broker α} {left right : α → Broker β}
    (hsame : ∀ value, left value = right value) : body >>= left = body >>= right :=
  congrArg (body >>= ·) (funext hsame)

/-- What only returns or throws may follow the clean-up. -/
theorem ensuring_bind (body : Broker α) (cleanup : Broker Unit) {reply : α → Broker β}
    (hreply : ∀ value, ∃ outcome, reply value = Program.ofOutcome outcome) :
    (body >>= reply).ensuring cleanup = body.ensuring cleanup >>= reply := by
  unfold Program.ensuring
  induction body with
  | done value =>
      obtain ⟨outcome, houtcome⟩ := hreply value
      change (reply value).attempt >>= _ = (cleanup >>= fun _ => Program.done value) >>= reply
      rw [Program.bind_assoc, houtcome]
      cases outcome with
      | ok result =>
          change (cleanup >>= fun _ => Program.done result) = _
          exact bind_congr fun _ => houtcome.symm
      | error error =>
          change (cleanup >>= fun _ => Program.fail error) = _
          exact bind_congr fun _ => houtcome.symm
  | fail error =>
      change (cleanup >>= fun _ => Program.fail error) =
        (cleanup >>= fun _ => Program.fail error) >>= reply
      rw [Program.bind_assoc]
      rfl
  | perform op next ih => exact congrArg (Program.perform op) (funext fun answer => ih answer)

theorem withLock_bind (name : LockName) (body : Broker α) {reply : α → Broker β}
    (hreply : ∀ value, ∃ outcome, reply value = Program.ofOutcome outcome) :
    withLock name (body >>= reply) = withLock name body >>= reply := by
  unfold withLock
  rw [Program.bind_assoc]
  refine bind_congr fun _ => ?_
  rw [Program.bind_assoc]
  exact bind_congr fun _ => ensuring_bind body _ hreply

end Programs

theorem replyOf_outcome (counts : PurposeCounts) :
    ∃ outcome, replyOf counts = Program.ofOutcome outcome := by
  unfold replyOf
  split
  · exact ⟨.error _, rfl⟩
  · split
    · exact ⟨.error _, rfl⟩
    · exact ⟨.ok counts, rfl⟩

/-- One turn counts the alias as it raises the counts. -/
theorem countedCandidate_bind {β : Type} {timestamp : Timestamp} {turn : CountedTurn}
    (hcounts : turn.progress.counts = turn.counted.counts) (candidate : Candidate)
    {left : DeleteProgress → Broker β} {right : CountedTurn → Broker β}
    (hsame : ∀ next : CountedTurn, next.progress.counts = next.counted.counts →
      left next.progress = right next) :
    deleteCandidate timestamp turn.progress candidate >>= left =
      countedCandidate timestamp turn candidate >>= right := by
  unfold countedCandidate
  rw [Program.bind_assoc]
  unfold deleteCandidate
  dsimp only
  split
  · split
    · refine hsame ⟨_, _⟩ ?_
      rw [CountedAliases.raised_held, hcounts]
      rfl
    · rw [Program.bind_assoc, Program.bind_assoc]
      refine bind_congr fun outcome => ?_
      refine hsame ⟨_, _⟩ ?_
      cases outcome.result with
      | ok deleted =>
          simp only
          rw [CountedAliases.raised_done, hcounts]
          rfl
      | error error =>
          simp only
          rw [CountedAliases.raised_failed, hcounts]
          rfl
  · change left turn.progress = right ⟨turn.progress, turn.counted.raised _ _ _⟩
    rw [CountedAliases.raised_same]
    exact hsame turn hcounts

theorem countedCandidates_bind {timestamp : Timestamp} (candidates : List Candidate)
    (turn : CountedTurn) (hcounts : turn.progress.counts = turn.counted.counts) :
    (candidates.foldlM (deleteCandidate timestamp) turn.progress >>= fun progress =>
        replyOf progress.counts) =
      candidates.foldlM (countedCandidate timestamp) turn >>= fun turn =>
        replyOf turn.counted.counts := by
  induction candidates generalizing turn with
  | nil => exact congrArg replyOf hcounts
  | cons candidate rest ih =>
      rw [List.foldlM_cons, List.foldlM_cons, Program.bind_assoc, Program.bind_assoc]
      exact countedCandidate_bind hcounts candidate fun next hnext => ih next hnext

/-- The purpose delete replies from the counts of the aliases that were counted. -/
theorem deletePurposeSimulatorsBroker_eq (paths : BrokerPaths) (purposeId : PurposeId) :
    deletePurposeSimulatorsBroker paths purposeId =
      countedDeleteBroker paths purposeId >>= fun report => replyOf report.counted.counts := by
  have hloop : deletePurposeSimulators paths purposeId =
      countedDelete paths purposeId >>= fun report => replyOf report.counted.counts := by
    unfold deletePurposeSimulators countedDelete
    rw [Program.bind_assoc]
    refine bind_congr fun timestamp => ?_
    rw [Program.bind_assoc]
    refine bind_congr fun state => ?_
    rw [Program.bind_assoc]
    refine bind_congr fun project => ?_
    rw [Program.bind_assoc]
    refine bind_congr fun purpose => ?_
    rw [Program.bind_assoc]
    exact countedCandidates_bind _ { progress := { state } } rfl
  have hreply : ∀ report : DeleteReport,
      ∃ outcome, replyOf report.counted.counts = Program.ofOutcome outcome :=
    fun report => replyOf_outcome report.counted.counts
  unfold deletePurposeSimulatorsBroker countedDeleteBroker
  rw [hloop, withLock_bind .lease _ hreply, withLock_bind .capacity _ hreply]

end SimulatorBroker.Deletes
