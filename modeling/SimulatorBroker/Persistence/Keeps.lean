import SimulatorBroker.Broker.Commands
import SimulatorBroker.Effects.Frame
import SimulatorBroker.Persistence.Stored
import SimulatorBroker.State.Surroundings

/-!
# Programs that write readable registries

The guard on registry writes, and the rules for programs that keep to it.  What the reader makes
of a registry depends on the alias names of the host config, so a program is judged by the names on
disk before and after it.
-/

namespace SimulatorBroker.Persistence

open SimulatorBroker.Effects
open SimulatorBroker.State
open SimulatorBroker.Broker

/-- The alias names of the host config on disk, if there is one. -/
abbrev DiskNames := Option (List AliasName)

def diskNames (world : World) : DiskNames :=
  world.store.hostConfig.map (·.aliasNames)

/-- A registry that comes back from the file as it is. -/
structure Accepts (names : DiskNames) (registry : Registry) : Prop where
  labelled : Labelled registry
  covers : ∀ aliasNames ∈ names, Covers registry aliasNames

/-- The guard: a registry is written only as the reader accepts it. -/
def WriteOk : BrokerOp → World → Prop
  | .rename (.registry content _), world => Accepts (diskNames world) content
  | _, _ => True

/-- Neither the host config nor the registry is replaced. -/
def silent : BrokerOp → Bool
  | .rename (.hostConfig _) | .rename (.registry _ _) => false
  | _ => true

abbrev Silent {α : Type} (body : Broker α) : Prop :=
  body.All fun op => silent op = true

/-- No registry is written. -/
def writesNoRegistry : BrokerOp → Bool
  | .rename (.registry _ _) => false
  | _ => true

abbrev Registryless {α : Type} (body : Broker α) : Prop :=
  body.All fun op => writesNoRegistry op = true

theorem Silent.registryless {α : Type} {body : Broker α} (hsilent : Silent body) :
    Registryless body := by
  refine hsilent.mono fun op hop => ?_
  cases op with
  | rename file => cases file <;> first | rfl | exact hop
  | _ => rfl

section Judgements

variable (surroundings : Surroundings)

/-- From the names on disk, every registry write keeps to the guard, and the names afterwards are
as stated. -/
def Holds {α : Type} (names : DiskNames) (body : Broker α) (post : α → DiskNames → Prop)
    (fail : DiskNames → Prop) : Prop :=
  ∀ world, diskNames world = names →
    wp (brokerHandler surroundings) WriteOk body (fun value after => post value (diskNames after))
      (fun _ after => fail (diskNames after)) world

/-- The names on disk stay as they are. -/
def Keeps {α : Type} (names : DiskNames) (body : Broker α) (post : α → Prop) : Prop :=
  Holds surroundings names body (fun value after => after = names ∧ post value)
    fun after => after = names

/-- Whatever is on disk, before and after. -/
def Free {α : Type} (body : Broker α) : Prop :=
  ∀ names, Holds surroundings names body (fun _ _ => True) fun _ => True

end Judgements

variable {surroundings : Surroundings} {names : DiskNames} {α β ι : Type}

/-! ## The names on disk -/

theorem silent_effect {op : BrokerOp} (hop : silent op = true) (world : World) :
    diskNames (op.effect world) = diskNames world := by
  cases op with
  | rename file => cases file <;> first | rfl | cases hop
  | _ => rfl

theorem registry_effect (content : Registry) (note : RegistryNote) (world : World) :
    diskNames (BrokerOp.effect (.rename (.registry content note)) world) = diskNames world := rfl

theorem Settles.diskNames {before after : World} (hsettles : Settles surroundings before after) :
    diskNames after = diskNames before := by
  unfold Persistence.diskNames
  rw [hsettles.store]

/-- Where the effect of an operation leaves the names, its answer does. -/
theorem diskNames_answers {op : BrokerOp} {answer : Except BrokerError op.Ret}
    {world after : World} (heffect : diskNames (op.effect world) = diskNames world)
    (hstep : Answers surroundings op world answer after) : diskNames after = diskNames world := by
  obtain ⟨-, hsettles⟩ | ⟨-, -, hsettles⟩ | ⟨-, -, -, hsettles⟩ := hstep
  · exact (Settles.diskNames hsettles).trans heffect
  · exact Settles.diskNames hsettles
  · exact (Settles.diskNames hsettles).trans heffect

/-! ## Rules -/

namespace Holds

variable {post : α → DiskNames → Prop} {fail : DiskNames → Prop}

theorem weaken {body : Broker α} {post' : α → DiskNames → Prop} {fail' : DiskNames → Prop}
    (hbody : Holds surroundings names body post fail)
    (hpost : ∀ value after, post value after → post' value after)
    (hfail : ∀ after, fail after → fail' after) :
    Holds surroundings names body post' fail' :=
  fun world hworld => (hbody world hworld).weaken (fun value after => hpost value (diskNames after))
    fun _ after => hfail (diskNames after)

theorem pure {value : α} (hpost : post value names) :
    Holds surroundings names (Pure.pure value) post fail := by
  rintro world rfl
  exact hpost

theorem throw {error : BrokerError} (hfail : fail names) :
    Holds surroundings names (MonadExcept.throw error : Broker α) post fail := by
  rintro world rfl
  exact hfail

theorem seq {post : β → DiskNames → Prop} {body : Broker α} {rest : α → Broker β}
    {M : α → DiskNames → Prop} {E : DiskNames → Prop}
    (hbody : Holds surroundings names body M E)
    (hfail : ∀ after, E after → fail after)
    (hrest : ∀ value after, M value after → Holds surroundings after (rest value) post fail) :
    Holds surroundings names (body >>= rest) post fail := by
  intro world hworld
  exact wp.seq (hbody world hworld) (fun _ after => hfail (diskNames after))
    fun value after hmiddle => hrest value _ hmiddle after rfl

theorem tryCatch {body : Broker α} {handler : BrokerError → Broker α} {E : DiskNames → Prop}
    (hbody : Holds surroundings names body post E)
    (hhandler : ∀ error after, E after → Holds surroundings after (handler error) post fail) :
    Holds surroundings names (MonadExcept.tryCatch body handler) post fail := by
  intro world hworld
  refine (wp_tryCatch body handler).mpr ((hbody world hworld).weaken (fun _ _ h => h) ?_)
  exact fun error after hE => hhandler error _ hE after rfl

theorem attempt {body : Broker α} {post : Except BrokerError α → DiskNames → Prop}
    {E : DiskNames → Prop}
    (hbody : Holds surroundings names body (fun value after => post (.ok value) after) E)
    (herror : ∀ error after, E after → post (.error error) after) :
    Holds surroundings names body.attempt post fail := by
  intro world hworld
  refine (wp_attempt body).mpr ((hbody world hworld).weaken (fun _ _ h => h) ?_)
  exact fun error after hE => herror error _ hE

/-- A loop, with an invariant of its value and the names. -/
theorem foldlM {body : β → ι → Broker β} {I : β → DiskNames → Prop} (items : List ι)
    (hstep : ∀ state item before, I state before →
      Holds surroundings before (body state item) I fail) {state : β}
    (hstate : I state names) :
    Holds surroundings names (items.foldlM body state) I fail := by
  induction items generalizing state names with
  | nil => exact pure hstate
  | cons item rest ih =>
      rw [List.foldlM_cons]
      exact (hstep state item names hstate).seq (fun _ h => h) fun next after hnext => ih hnext

end Holds

/-- A program that replaces neither file is within the guard and leaves the names. -/
theorem wp_silent {body : Broker α} (hsilent : Silent body) (world : World) :
    wp (brokerHandler surroundings) WriteOk body
      (fun _ after => diskNames after = diskNames world)
      (fun _ after => diskNames after = diskNames world) world := by
  refine wp_of_all (R := fun before after => diskNames after = diskNames before) hsilent rfl
    (fun _ _ hfirst hlast => hlast.trans hfirst) ?_ ?_
  · intro op middle hop _
    cases op with
    | rename file => cases file <;> first | exact trivial | cases hop
    | _ => exact trivial
  · exact fun op middle answer last hop hstep =>
      diskNames_answers (silent_effect hop middle) hstep

namespace Keeps

variable {post : α → Prop}

theorem weaken {body : Broker α} {post' : α → Prop} (hbody : Keeps surroundings names body post)
    (hpost : ∀ value, post value → post' value) : Keeps surroundings names body post' :=
  Holds.weaken hbody (fun value _ h => ⟨h.1, hpost value h.2⟩) fun _ h => h

theorem pure {value : α} (hpost : post value) :
    Keeps surroundings names (Pure.pure value) post :=
  Holds.pure ⟨rfl, hpost⟩

theorem throw {error : BrokerError} :
    Keeps surroundings names (MonadExcept.throw error : Broker α) post :=
  Holds.throw rfl

theorem seq {post : β → Prop} {body : Broker α} {rest : α → Broker β} {M : α → Prop}
    (hbody : Keeps surroundings names body M)
    (hrest : ∀ value, M value → Keeps surroundings names (rest value) post) :
    Keeps surroundings names (body >>= rest) post := by
  refine Holds.seq hbody (fun _ h => h) ?_
  rintro value _ ⟨rfl, hM⟩
  exact hrest value hM

theorem tryCatch {body : Broker α} {handler : BrokerError → Broker α}
    (hbody : Keeps surroundings names body post)
    (hhandler : ∀ error, Keeps surroundings names (handler error) post) :
    Keeps surroundings names (MonadExcept.tryCatch body handler) post := by
  refine Holds.tryCatch hbody ?_
  rintro error _ rfl
  exact hhandler error

theorem attempt {body : Broker α} {M : α → Prop} {P : Except BrokerError α → Prop}
    (hbody : Keeps surroundings names body M) (hok : ∀ value, M value → P (.ok value))
    (herror : ∀ error, P (.error error)) :
    Keeps surroundings names body.attempt P := by
  refine Holds.attempt (Holds.weaken hbody ?_ fun _ h => h) ?_
  · exact fun value _ h => ⟨h.1, hok value h.2⟩
  · rintro error _ rfl
    exact ⟨rfl, herror error⟩

theorem foldlM {body : β → ι → Broker β} {I : β → Prop} (items : List ι)
    (hstep : ∀ state item, I state → Keeps surroundings names (body state item) I)
    {state : β} (hstate : I state) :
    Keeps surroundings names (items.foldlM body state) I := by
  refine Holds.foldlM items ?_ ⟨rfl, hstate⟩
  rintro state item _ ⟨rfl, hstate⟩
  exact hstep state item hstate

theorem silent {body : Broker α} (hsilent : Silent body) :
    Keeps surroundings names body fun _ => True := by
  rintro world rfl
  exact (wp_silent hsilent world).weaken (fun _ _ h => ⟨h, trivial⟩) fun _ _ h => h

theorem ensuring {body : Broker α} {cleanup : Broker Unit}
    (hbody : Keeps surroundings names body post) (hcleanup : Silent cleanup) :
    Keeps surroundings names (body.ensuring cleanup) post := by
  refine seq (attempt (P := fun outcome => ∀ value, outcome = .ok value → post value) hbody
    (fun value hpost other heq => Except.ok.inj heq ▸ hpost) fun error value heq => by cases heq)
    fun outcome houtcome => seq (silent hcleanup) fun _ _ => ?_
  cases outcome with
  | ok value => exact pure (houtcome value rfl)
  | error error => exact throw

theorem ignoringErrors {body : Broker Unit} (hbody : Keeps surroundings names body fun _ => True) :
    Keeps surroundings names (Broker.ignoringErrors body) fun _ => True :=
  tryCatch hbody fun _ => pure trivial

theorem withLock {name : LockName} {work : Broker α} (hwork : Keeps surroundings names work post) :
    Keeps surroundings names (Broker.withLock name work) post :=
  seq (silent (.request rfl)) fun _ _ => seq (silent (.request rfl)) fun _ _ =>
    ensuring hwork (.request rfl)

/-- The registry is written as the reader accepts it. -/
theorem writeRegistry {content : Registry} {note : RegistryNote} (hok : Accepts names content) :
    Keeps surroundings names (Broker.writeRegistry content note) fun _ => True := by
  refine seq (silent (.request rfl)) fun _ _ => seq (silent (.request rfl)) fun _ _ =>
    seq (silent (.request rfl)) fun _ _ => seq (M := fun _ => True) ?_ fun _ _ =>
      silent (.request rfl)
  rintro world rfl
  have heffect := registry_effect content note world
  refine wp_perform hok ?_ ?_
  · exact fun _ after _ hsettles => ⟨(Settles.diskNames hsettles).trans heffect, trivial⟩
  · rintro error after - - (hsettles | ⟨-, hsettles⟩)
    · exact Settles.diskNames hsettles
    · exact (Settles.diskNames hsettles).trans heffect

end Keeps

namespace Free

theorem of_keeps {body : Broker α} {P : DiskNames → α → Prop}
    (hbody : ∀ names, Keeps surroundings names body (P names)) : Free surroundings body :=
  fun names => Holds.weaken (hbody names) (fun _ _ _ => trivial) fun _ _ => trivial

theorem pure {value : α} : Free surroundings (Pure.pure value : Broker α) :=
  fun _ => Holds.pure trivial

theorem throw {error : BrokerError} : Free surroundings (MonadExcept.throw error : Broker α) :=
  fun _ => Holds.throw trivial

theorem seq {body : Broker α} {rest : α → Broker β} (hbody : Free surroundings body)
    (hrest : ∀ value, Free surroundings (rest value)) : Free surroundings (body >>= rest) :=
  fun names => (hbody names).seq (fun _ h => h) fun value after _ => hrest value after

theorem tryCatch {body : Broker α} {handler : BrokerError → Broker α}
    (hbody : Free surroundings body) (hhandler : ∀ error, Free surroundings (handler error)) :
    Free surroundings (MonadExcept.tryCatch body handler) :=
  fun names => (hbody names).tryCatch fun error after _ => hhandler error after

theorem attempt {body : Broker α} (hbody : Free surroundings body) :
    Free surroundings body.attempt :=
  fun names => (hbody names).attempt fun _ _ _ => trivial

theorem registryless {body : Broker α} (hbody : Registryless body) : Free surroundings body := by
  intro names world _
  refine wp_of_all (R := fun _ _ => True) hbody trivial (fun _ _ _ _ => trivial) ?_
    fun _ _ _ _ _ _ => trivial
  intro op middle hop _
  cases op with
  | rename file => cases file <;> first | exact trivial | cases hop
  | _ => exact trivial

theorem ensuring {body : Broker α} {cleanup : Broker Unit} (hbody : Free surroundings body)
    (hcleanup : Free surroundings cleanup) : Free surroundings (body.ensuring cleanup) :=
  seq (attempt hbody) fun outcome => seq hcleanup fun _ => by
    cases outcome with
    | ok value => exact pure
    | error error => exact throw

theorem withLock {name : LockName} {work : Broker α} (hwork : Free surroundings work) :
    Free surroundings (Broker.withLock name work) :=
  seq (registryless (.request rfl)) fun _ => seq (registryless (.request rfl)) fun _ =>
    ensuring hwork (registryless (.request rfl))

end Free

end SimulatorBroker.Persistence
