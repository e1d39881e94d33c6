import SimulatorBroker.Deletes.Counted
import SimulatorBroker.Effects.Frame
import SimulatorBroker.State.Surroundings

/-!
# The records of a delete

A deletion is recorded in three files: the host config without the alias, the registry
without it, and an event.  The rules for the writers of these files, in calls in which the
record of a deletion that has begun is completed.
-/

namespace SimulatorBroker.Deletes

open SimulatorBroker.Effects
open SimulatorBroker.State
open SimulatorBroker.Broker

/-! ## The three files -/

structure Records where
  hostConfig : Option HostConfig
  registry : Option Registry
  events : List Event

def recordsOf (world : World) : Records where
  hostConfig := world.store.hostConfig
  registry := world.store.registry
  events := world.store.events

namespace Records

def configuredAliases (records : Records) : List AliasName :=
  (records.hostConfig.map (·.aliasNames)).getD []

def hostAlias (records : Records) (name : AliasName) : Option HostAlias :=
  records.hostConfig.bind fun config => config.find name

def entry (records : Records) (name : AliasName) : Option RegistryEntry :=
  records.registry.bind fun registry => registry.aliases name

/-- What was appended since. -/
def eventsSince (first records : Records) : List Event :=
  records.events.drop first.events.length

end Records

/-- An event about the deletion of the alias. -/
def eventOf (type : EventType) (name : AliasName) (event : Event) : Bool :=
  decide (event.type = type ∧ event.aliasName = some name)

/-- The alias has left the host config since, and no event says so. -/
def Unreported (first records : Records) (name : AliasName) : Prop :=
  name ∈ first.configuredAliases ∧ name ∉ records.configuredAliases ∧
    ∀ event ∈ first.eventsSince records, eventOf .simulatorDeleted name event = false

/-! ## Calls that complete what they have begun -/

/-- One alias at a time leaves the host config, and from there to its event nothing fails. -/
structure InTime {α : Type} (first : Records) (answer : Except BrokerError α) (after : Records) :
    Prop where
  single : ∀ left right, Unreported first after left → Unreported first after right → left = right
  failure : ∀ error, answer = .error error → ∀ name, ¬ Unreported first after name

/-- The project file holds this project. -/
def ReadsProject (project : ProjectConfig) : (op : BrokerOp) → Except BrokerError op.Ret → Prop
  | .readProject, .ok value => value = project
  | _, _ => True

/-- Calls made with the project; everything may fail. -/
def projectHandler (project : ProjectConfig) : Handler brokerSignature BrokerError World where
  step op world answer after :=
    Answers .arbitrary op world answer after ∧ ReadsProject project op answer

def completingHandler (project : ProjectConfig) (first : Records) :
    Handler brokerSignature BrokerError World where
  step op world answer after :=
    (projectHandler project).step op world answer after ∧ InTime first answer (recordsOf after)

theorem completing_refines (project : ProjectConfig) (first : Records) :
    (completingHandler project first).Refines (brokerHandler .arbitrary) :=
  fun _ _ _ _ hstep => hstep.1.1

/-! ## Rules -/

section Rules

variable {α : Type} {project : ProjectConfig} {first : Records} {guard : BrokerOp → World → Prop}
  {world after : World}

/-- None of the three files is written. -/
def keepsRecords : BrokerOp → Bool
  | .rename (.hostConfig _) | .rename (.registry _ _) | .appendEvent _ => false
  | _ => true

theorem recordsOf_effect {op : BrokerOp} (hop : keepsRecords op = true) (world : World) :
    recordsOf (op.effect world) = recordsOf world := by
  cases op with
  | rename file =>
      cases file with
      | hostConfig config => cases hop
      | registry content note => cases hop
      | _ => rfl
  | appendEvent event => cases hop
  | _ => rfl

theorem recordsOf_settles {before : World} {surroundings : Surroundings}
    (hsettles : Settles surroundings before after) : recordsOf after = recordsOf before := by
  simp only [recordsOf, hsettles.store]

theorem recordsOf_answers {op : BrokerOp} {answer : Except BrokerError op.Ret}
    (hop : keepsRecords op = true) (hanswers : Answers .arbitrary op world answer after) :
    recordsOf after = recordsOf world := by
  cases hanswers with
  | ok _ hsettles => exact (recordsOf_settles hsettles).trans (recordsOf_effect hop world)
  | error _ _ hsettles => exact recordsOf_settles hsettles
  | late _ _ _ hsettles => exact (recordsOf_settles hsettles).trans (recordsOf_effect hop world)

theorem settles_of_ok {op : BrokerOp} {value : op.Ret}
    (hanswers : Answers .arbitrary op world (.ok value) after) :
    Settles .arbitrary (op.effect world) after := by
  cases hanswers with
  | ok _ hsettles => exact hsettles

theorem answered_of_ok {op : BrokerOp} {value : op.Ret}
    (hanswers : Answers .arbitrary op world (.ok value) after) :
    Answered .arbitrary op world value := by
  cases hanswers with
  | ok hanswered _ => exact hanswered

theorem settles_of_error {op : BrokerOp} {error : BrokerError}
    (hanswers : Answers .arbitrary op world (.error error : Except BrokerError op.Ret) after) :
    Settles .arbitrary world after ∨
      op.mayFailLate = true ∧ Settles .arbitrary (op.effect world) after := by
  cases hanswers with
  | error _ _ hsettles => exact .inl hsettles
  | late _ _ hlate hsettles => exact .inr ⟨hlate, hsettles⟩

/-- A call on the way: the files are as they were, and nothing was left unreported if it
failed. -/
theorem wp_keep {op : BrokerOp} (hop : keepsRecords op = true) (hguard : guard op world) :
    wp (completingHandler project first) guard (perform op)
      (fun _ after => recordsOf after = recordsOf world)
      (fun _ after => recordsOf after = recordsOf world ∧
        ∀ name, ¬ Unreported first (recordsOf world) name) world := by
  refine wp_request.mpr ⟨hguard, ?_, ?_⟩
  · rintro value after ⟨⟨hanswers, -⟩, -⟩
    exact recordsOf_answers hop hanswers
  · rintro error after ⟨⟨hanswers, -⟩, hinTime⟩
    have hsame := recordsOf_answers hop hanswers
    exact ⟨hsame, hsame ▸ hinTime.failure error rfl⟩

/-- A part that writes none of the three files. -/
theorem wp_keeping {p : BrokerOp → Prop} {body : Broker α} (hbody : body.All p)
    (hkeeps : ∀ op, p op → keepsRecords op = true)
    (hguard : ∀ op middle, p op → recordsOf middle = recordsOf world → guard op middle) :
    wp (completingHandler project first) guard body
      (fun _ after => recordsOf after = recordsOf world)
      (fun _ after => recordsOf after = recordsOf world) world := by
  refine wp_of_all (R := fun before after => recordsOf after = recordsOf before) hbody rfl
    (fun _ _ hfirst hlast => hlast.trans hfirst) hguard ?_
  rintro op middle answer last hop ⟨⟨hanswers, -⟩, -⟩
  exact recordsOf_answers (hkeeps op hop) hanswers

/-- The operations on the files have no guard of their own. -/
def Unguarded (guard : BrokerOp → World → Prop) : Prop :=
  ∀ op world, (match op with
    | .fs _ | .rename _ | .appendEvent _ => True
    | _ => False) → guard op world

/-- An atomic replacement: it has happened, or nothing has happened and nothing is left
unreported, or it has happened and still nothing is left unreported. -/
theorem wp_replace {file : FileWrite} {W : Records} (hunguarded : Unguarded guard)
    (heffect : ∀ middle, recordsOf middle = recordsOf world →
      recordsOf ((BrokerOp.rename file).effect middle) = W) :
    wp (completingHandler project first) guard (writeJsonAtomicRestricted file)
      (fun _ after => recordsOf after = W ∧
        ∀ left right, Unreported first W left → Unreported first W right → left = right)
      (fun _ after => recordsOf after = recordsOf world ∧
          (∀ name, ¬ Unreported first (recordsOf world) name) ∨
        recordsOf after = W ∧ ∀ name, ¬ Unreported first W name) world := by
  unfold writeJsonAtomicRestricted
  refine (wp_keep rfl (hunguarded _ _ trivial)).seq (fun _ _ h => .inl h)
    fun _ ensured hensured => ?_
  refine (wp_keep rfl (hunguarded _ _ trivial)).seq ?_ fun _ temporary htemporary => ?_
  · exact fun _ after h => .inl (hensured ▸ h)
  refine (wp_keep rfl (hunguarded _ _ trivial)).seq ?_ fun _ restricted hrestricted => ?_
  · exact fun _ after h => .inl (hensured ▸ htemporary ▸ h)
  have hsame : recordsOf restricted = recordsOf world :=
    hrestricted.trans (htemporary.trans hensured)
  refine wp.seq (M := fun _ after => recordsOf after = W ∧
      ∀ left right, Unreported first W left → Unreported first W right → left = right)
    (wp_request.mpr ⟨hunguarded _ _ trivial, ?_, ?_⟩) (fun _ _ h => h) fun _ renamed hrenamed => ?_
  · rintro value after ⟨⟨hanswers, -⟩, hinTime⟩
    have hafter := (recordsOf_settles (settles_of_ok hanswers)).trans (heffect restricted hsame)
    exact ⟨hafter, hafter ▸ hinTime.single⟩
  · rintro error after ⟨⟨hanswers, -⟩, hinTime⟩
    rcases settles_of_error hanswers with hsettles | ⟨hlate, -⟩
    · have hafter := (recordsOf_settles hsettles).trans hsame
      exact .inl ⟨hafter, hafter ▸ hinTime.failure error rfl⟩
    · cases hlate
  · refine (wp_keep rfl (hunguarded _ _ trivial)).weaken (fun _ after h => ?_) fun _ after h => ?_
    · exact ⟨h.trans hrenamed.1, hrenamed.2⟩
    · exact .inr ⟨h.1.trans hrenamed.1, hrenamed.1 ▸ h.2⟩

/-- The registry without the alias, once the host config is without it. -/
theorem wp_writeRegistry {registry : Registry} {note : RegistryNote}
    (hunguarded : Unguarded guard) :
    wp (completingHandler project first) guard (writeRegistry registry note)
      (fun _ after => recordsOf after = { recordsOf world with registry := some registry })
      (fun _ after => (recordsOf after = recordsOf world ∨
          recordsOf after = { recordsOf world with registry := some registry }) ∧
        ∀ name, ¬ Unreported first (recordsOf world) name) world := by
  refine (wp_replace (W := { recordsOf world with registry := some registry }) hunguarded
    ?_).weaken (fun _ _ h => h.1) ?_
  · rintro middle hmiddle
    rw [← hmiddle]
    rfl
  · rintro error after (⟨hsame, hnone⟩ | ⟨hsame, hnone⟩)
    · exact ⟨.inl hsame, hnone⟩
    · exact ⟨.inr hsame, hnone⟩

/-- The event is appended, unless nothing waits for it. -/
theorem wp_appendEventRecord {event : Event} (hunguarded : Unguarded guard) :
    wp (completingHandler project first) guard (appendEventRecord event)
      (fun _ after =>
        recordsOf after =
            { recordsOf world with events := (recordsOf world).events ++ [event] } ∨
          recordsOf after = recordsOf world ∧ ∀ name, ¬ Unreported first (recordsOf world) name)
      (fun _ _ => False) world := by
  unfold appendEventRecord
  refine (wp_tryCatch _ _).mpr ?_
  refine wp.seq (M := fun _ after => recordsOf after =
      { recordsOf world with events := (recordsOf world).events ++ [event] })
    (E := fun _ after => recordsOf after =
        { recordsOf world with events := (recordsOf world).events ++ [event] } ∨
      recordsOf after = recordsOf world ∧ ∀ name, ¬ Unreported first (recordsOf world) name)
    (wp_request.mpr ⟨hunguarded _ _ trivial, ?_, ?_⟩) ?_ fun _ appended happended => .inl happended
  · rintro value after ⟨⟨hanswers, -⟩, -⟩
    exact recordsOf_settles (settles_of_ok hanswers)
  · rintro error after ⟨⟨hanswers, -⟩, hinTime⟩
    rcases settles_of_error hanswers with hsettles | ⟨-, hsettles⟩
    · have hafter := recordsOf_settles hsettles
      exact .inr ⟨hafter, hafter ▸ hinTime.failure error rfl⟩
    · exact .inl (recordsOf_settles hsettles)
  · intro error failed hfailed
    unfold recordAuditAppendFailure ignoringErrors
    refine wp.seq (M := fun _ after => recordsOf after = recordsOf failed)
      (E := fun _ _ => False) ((wp_tryCatch _ _).mpr ?_) (fun _ _ h => h)
      fun _ recorded hrecorded => ?_
    · exact (wp_keep rfl (hunguarded _ _ trivial)).weaken (fun _ _ h => h) fun _ _ h => h.1
    · change recordsOf recorded = _ ∨ recordsOf recorded = _ ∧ _
      rw [hrecorded]
      exact hfailed

end Rules

end SimulatorBroker.Deletes
