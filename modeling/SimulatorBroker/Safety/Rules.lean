import SimulatorBroker.Effects.Frame
import SimulatorBroker.Safety.Steps

/-!
# Safe programs

`Safe context body post raise world`: started in `world`, every operation of
`body` is within its guard, and the invariant may be assumed wherever it is
needed, with what the context assumes.  The rules follow the constructs of a
program; the last section has one rule for each kind of operation.
-/

namespace SimulatorBroker.Safety

open SimulatorBroker.Effects
open SimulatorBroker.State
open SimulatorBroker.Broker

def Safe {α : Type} (context : Context) (body : Broker α) (post : α → World → Prop)
    (raise : BrokerError → World → Prop) (world : World) : Prop :=
  Moment context world →
    wp ((brokerHandler context.surroundings).within (Moment context)) (StepOk context) body
      post raise world

variable {α β ι : Type} {context : Context} {world : World} {post : α → World → Prop}
  {raise : BrokerError → World → Prop}

/-! ## What safety gives -/

/-- A safe program performs every operation within its guard and keeps the
invariant, whatever the surroundings answer that is assumed of them. -/
theorem Safe.sound {body : Broker α} (hsafe : Safe context body post raise world)
    (hmoment : Moment context world) :
    wp ((brokerHandler context.surroundings).within context.assumed)
      (fun op after => StepOk context op after ∧ Invariant context after) body
      (fun value after => post value after ∧ Invariant context after)
      (fun error after => raise error after ∧ Invariant context after) world := by
  have hsplit : wp (((brokerHandler context.surroundings).within context.assumed).within
      (Invariant context)) (StepOk context) body post raise world := by
    refine wp.refine ?_ (hsafe hmoment)
    exact fun _ _ _ _ hstep => ⟨hstep.1.1, hstep.2, hstep.1.2⟩
  exact hsplit.invariant (fun _ _ _ _ hfirst hok hstep => hfirst.step hok hstep.1)
    hmoment.toInvariant

/-! ## Constructs -/

theorem Safe.assume {body : Broker α}
    (hbody : Invariant context world → Safe context body post raise world) :
    Safe context body post raise world :=
  fun hmoment => hbody hmoment.toInvariant hmoment

theorem Safe.pure {value : α} (hpost : post value world) :
    Safe context (Pure.pure value) post raise world :=
  fun _ => hpost

theorem Safe.throw {error : BrokerError} {E : BrokerError → World → Prop}
    (hraise : E error world) :
    Safe context (MonadExcept.throw error : Broker α) post E world :=
  fun _ => hraise

theorem Safe.weaken {body : Broker α} {P : α → World → Prop}
    {E : BrokerError → World → Prop} (hbody : Safe context body P E world)
    (hpost : ∀ value after, Invariant context after → P value after → post value after)
    (hraise : ∀ error after, Invariant context after → E error after → raise error after) :
    Safe context body post raise world :=
  fun hmoment => ((hbody hmoment).reached hmoment).weaken
    (fun value after h => hpost value after h.2.toInvariant h.1)
    (fun error after h => hraise error after h.2.toInvariant h.1)

theorem Safe.seq {post : β → World → Prop} {body : Broker α} {rest : α → Broker β}
    {M : α → World → Prop} {E : BrokerError → World → Prop}
    (hbody : Safe context body M E world)
    (hraise : ∀ error after, Invariant context after → E error after → raise error after)
    (hrest : ∀ value after, M value after → Safe context (rest value) post raise after) :
    Safe context (body >>= rest) post raise world :=
  fun hmoment => wp.seq ((hbody hmoment).reached hmoment)
    (fun error after h => hraise error after h.2.toInvariant h.1)
    (fun value after h => hrest value after h.1 h.2)

theorem Safe.catch {body : Broker α} {handler : BrokerError → Broker α}
    {E : BrokerError → World → Prop} (hbody : Safe context body post E world)
    (hhandler : ∀ error after, E error after →
      Safe context (handler error) post raise after) :
    Safe context (MonadExcept.tryCatch body handler) post raise world :=
  fun hmoment => (wp_tryCatch body handler).mpr
    (((hbody hmoment).reached hmoment).weaken (fun _ _ h => h.1)
      (fun error after h => hhandler error after h.1 h.2))

theorem Safe.attempt {body : Broker α} {post : Except BrokerError α → World → Prop}
    (hbody : Safe context body (fun value after => post (.ok value) after)
      (fun error after => post (.error error) after) world) :
    Safe context body.attempt post raise world :=
  fun hmoment => (wp_attempt body).mpr (hbody hmoment)

theorem Safe.ensuring {body : Broker α} {cleanup : Broker Unit} {M : α → World → Prop}
    {E : BrokerError → World → Prop} (hbody : Safe context body M E world)
    (hvalue : ∀ value after, M value after →
      Safe context cleanup (fun _ => post value) raise after)
    (herror : ∀ error after, E error after →
      Safe context cleanup (fun _ => raise error) raise after) :
    Safe context (body.ensuring cleanup) post raise world :=
  fun hmoment => (wp_ensuring body cleanup).mpr
    (((hbody hmoment).reached hmoment).weaken
      (fun value after h => hvalue value after h.1 h.2)
      (fun error after h => herror error after h.1 h.2))

/-- The loop rule. -/
theorem Safe.foldlM {body : β → ι → Broker β} {P : β → World → Prop}
    (loop : List ι → β → World → Prop)
    (hstep : ∀ item rest state before, loop (item :: rest) state before →
      Safe context (body state item) (fun state' after => loop rest state' after) raise before)
    (hexit : ∀ state after, Invariant context after → loop [] state after → P state after)
    (items : List ι) (state : β) (hinit : loop items state world) :
    Safe context (items.foldlM body state) P raise world := by
  intro hmoment
  exact wp_foldlM (fun rest state after => loop rest state after ∧ Moment context after) body
    (fun item rest state before h => ((hstep item rest state before h.1 h.2).reached h.2).weaken
      (fun _ _ h => h) (fun _ _ h => h.1))
    (fun state after h => hexit state after h.2.toInvariant h.1) items state ⟨hinit, hmoment⟩

/-- Time has passed meanwhile. -/
theorem Safe.later {body : Broker α} (hbody : Safe context body post raise world) :
    Safe context body (fun value after => post value after ∧ world.outside.Later after.outside)
      (fun error after => raise error after ∧ world.outside.Later after.outside) world := by
  intro hmoment
  have hlater : wp ((brokerHandler context.surroundings).within (Moment context))
      (fun _ _ => True) body (fun _ after => world.outside.Later after.outside)
      (fun _ after => world.outside.Later after.outside) world := by
    refine wp_of_all (R := fun (before after : World) => before.outside.Later after.outside)
      (Program.All.any body) (.refl _) (fun _ _ => .trans) (fun _ _ _ _ => trivial) ?_
    rintro op middle answer last - ⟨hstep, -⟩
    obtain ⟨-, hsettles⟩ | ⟨-, -, hsettles⟩ | ⟨-, -, -, hsettles⟩ := hstep
    · exact (later_effect op middle).trans (Settles.kept hsettles).later
    · exact (Settles.kept hsettles).later
    · exact (later_effect op middle).trans (Settles.kept hsettles).later
  exact ((hbody hmoment).and hlater).mono (fun _ _ h => h.1) (fun _ _ h => h) fun _ _ h => h

/-! ## Single operations -/

/-- Beside what `Kept` says, the artifacts are as they were. -/
structure Still (before after : World) : Prop extends Kept before after where
  artifacts : after.store.artifacts = before.store.artifacts

theorem Still.refl (world : World) : Still world world :=
  ⟨.refl world, rfl⟩

theorem Still.trans {first middle last : World} (hfirst : Still first middle)
    (hlast : Still middle last) : Still first last :=
  ⟨hfirst.toKept.trans hlast.toKept, hlast.artifacts.trans hfirst.artifacts⟩

theorem Settles.still {surroundings : Surroundings} {before after : World}
    (hsettles : Settles surroundings before after) : Still before after :=
  ⟨Settles.kept hsettles, by rw [hsettles.store]⟩

/-- One operation within its guard. -/
theorem Safe.op {op : BrokerOp} {post : op.Ret → World → Prop}
    (hok : StepOk context op world)
    (hvalue : ∀ value after, Answered context.surroundings op world value →
      Still (op.effect world) after → post value after)
    (herror : ∀ error after, context.surroundings.mayFail op world → ErrorOf op world error →
      (Still world after ∨ op.mayFailLate = true ∧ Still (op.effect world) after) →
      raise error after) :
    Safe context (perform op) post raise world := by
  intro _
  refine wp_request.mpr ⟨hok, ?_, ?_⟩
  · rintro value after ⟨⟨hanswered, hsettles⟩ | _ | _, -⟩
    exact hvalue value after hanswered (Settles.still hsettles)
  · rintro error after ⟨_ | ⟨hmayFail, hof, hsettles⟩ | ⟨hmayFail, hof, hlate, hsettles⟩, -⟩
    · exact herror error after hmayFail hof (.inl (Settles.still hsettles))
    · exact herror error after hmayFail hof (.inr ⟨hlate, Settles.still hsettles⟩)

/-- The operations that also leave the artifacts as they are. -/
def keepsFiles : BrokerOp → Bool
  | .rename (.artifact _ _) | .linkArtifact _ _ | .unlinkArtifact _ => false
  | op => keepsHolders op

theorem still_effect (op : BrokerOp) (hkeeps : keepsFiles op = true) (world : World) :
    Still world (op.effect world) := by
  refine ⟨kept_effect op ?_ world, ?_⟩ <;>
    cases op with
    | rename file =>
        cases file <;> first | rfl | simp [keepsFiles, keepsHolders] at hkeeps
    | _ => first | rfl | simp [keepsFiles, keepsHolders] at hkeeps

/-- One operation that changes no file the invariant or a reference is about. -/
theorem Safe.opStill {op : BrokerOp} {post : op.Ret → World → Prop}
    (hkeeps : keepsFiles op = true) (hok : StepOk context op world)
    (hvalue : ∀ value after, Answered context.surroundings op world value → Still world after →
      post value after)
    (herror : ∀ error after, context.surroundings.mayFail op world → ErrorOf op world error →
      Still world after → raise error after) :
    Safe context (perform op) post raise world := by
  have heffect := still_effect op hkeeps world
  refine Safe.op hok ?_ ?_
  · exact fun value after hanswered hstill => hvalue value after hanswered (heffect.trans hstill)
  · rintro error after hmayFail hof (hstill | ⟨-, hstill⟩)
    · exact herror error after hmayFail hof hstill
    · exact herror error after hmayFail hof (heffect.trans hstill)

/-- Operations with no guard that change no file the invariant is about. -/
def quiet : BrokerOp → Bool
  | .shutdownDevice _ _ | .eraseDevice _ _ | .deleteDevice _ _ | .containLeaseProcesses _ _
  | .appendEvent _ => false
  | op => keepsFiles op

theorem quiet_keepsFiles {op : BrokerOp} (hquiet : quiet op = true) : keepsFiles op = true := by
  cases op <;> first | exact hquiet | simp [quiet] at hquiet

theorem quiet_stepOk {op : BrokerOp} (hquiet : quiet op = true) : StepOk context op world := by
  cases op with
  | rename file => cases file <;> first | exact trivial | simp [quiet, keepsFiles, keepsHolders] at hquiet
  | _ => first | exact trivial | simp [quiet, keepsFiles, keepsHolders] at hquiet

/-- A program of quiet operations changes nothing. -/
theorem Safe.quiet {body : Broker α} (hquiet : body.All fun op => quiet op = true) :
    Safe context body (fun _ after => Still world after) (fun _ after => Still world after)
      world := by
  intro _
  refine wp_of_all hquiet (.refl world) (fun _ _ => Still.trans) (fun op middle hop _ =>
    quiet_stepOk hop) ?_
  rintro op middle answer last hop ⟨hstep, -⟩
  have heffect := still_effect op (quiet_keepsFiles hop) middle
  obtain ⟨-, hsettles⟩ | ⟨-, -, hsettles⟩ | ⟨-, -, -, hsettles⟩ := hstep
  · exact heffect.trans (Settles.still hsettles)
  · exact Settles.still hsettles
  · exact heffect.trans (Settles.still hsettles)

/-! ## Guards at a later moment -/

theorem Still.registryWriteOk {after : World} (hstill : Still world after) {content : Registry}
    {note : RegistryNote} (hok : RegistryWriteOk context world content note) :
    RegistryWriteOk context after content note where
  latched name hname hlatched := hok.latched name (hstill.configuredAliases ▸ hname)
    (hstill.ledger ▸ hlatched)
  cause name entry code hentry hcode := by
    rw [hstill.ledger]
    exact hok.cause name entry code hentry hcode
  spared lease hspared hlease := hok.spared lease hspared
    ⟨hstill.granted.mp hlease.toGranted, hlease.alive, hlease.since⟩
  inactive := hok.inactive
  leftover lease hlease := hok.leftover lease (hstill.leases ▸ hlease)

theorem Kept.places {paths : BrokerPaths} {before after : World} (hkept : Kept before after)
    {record : Lease} (hplaces : Places paths before record) : Places paths after record where
  free := hkept.leases ▸ hplaces.free
  configured := hkept.configuredAliases ▸ hplaces.configured
  drawn := hplaces.drawn.trans_le hkept.later.nextId
  healthy := hkept.ledger ▸ hplaces.healthy
  apart := hkept.leases ▸ hplaces.apart
  compatible := hkept.pins ▸ hplaces.compatible

theorem Still.leaseWriteOk {after : World} (hstill : Still world after) {record : Lease}
    (hok : LeaseWriteOk context world record) : LeaseWriteOk context after record where
  since := hok.since.trans hstill.later.clock
  owned := hok.owned
  artifact := hok.artifact
  rolledBack := hok.rolledBack
  spared := hok.spared
  placed := by
    obtain hold | hplaces := hok.placed
    · rw [hstill.leases]
      exact .inl hold
    · exact .inr (hstill.toKept.places hplaces)

theorem Kept.inactive {before after : World} (hkept : Kept before after) {alive : LeaseId → Prop}
    {name : AliasName} (hinactive : Inactive alive before name) : Inactive alive after name := by
  intro lease hlease halias
  rw [hkept.leases] at hlease
  exact (hinactive lease hlease halias).imp_left hkept.leftover.mpr

theorem Kept.unpinned {before after : World} (hkept : Kept before after) {name : AliasName}
    (hunpinned : Unpinned before name) : Unpinned after name :=
  fun pin hpin => hunpinned pin (hkept.pins ▸ hpin)

theorem Still.names {after : World} (hstill : Still world after) {reference : LeaseReference}
    {leaseId : LeaseId} (hnames : LeaseReference.Names reference world leaseId) :
    LeaseReference.Names reference after leaseId := by
  obtain hid | ⟨hnone, path, record, hfile, hartifact, hrecord⟩ := hnames
  · exact .inl hid
  · exact .inr ⟨hnone, path, record, hfile, hstill.artifacts ▸ hartifact, hrecord⟩

theorem Still.permitted {after : World} (hstill : Still world after) {hostAlias : HostAlias}
    {site : DeviceSite} (hpermitted : Permitted context world hostAlias site) :
    Permitted context after hostAlias site := by
  cases site with
  | slotReclaim => exact ⟨hstill.inactive hpermitted.1, hstill.unpinned hpermitted.2⟩
  | idle => exact ⟨hstill.inactive hpermitted.1, hstill.unpinned hpermitted.2⟩
  | delete =>
      refine ⟨hstill.inactive hpermitted.1, hstill.unpinned hpermitted.2.1, fun hcause => ?_⟩
      rw [hstill.ledger]
      exact hpermitted.2.2 hcause
  | resetOnAcquire =>
      obtain ⟨lease, hlease, hown⟩ := hpermitted
      exact ⟨lease, hstill.leases ▸ hlease, hown⟩
  | lifecycle =>
      obtain hinactive | ⟨lease, hlease, halias, hnames⟩ := hpermitted
      · exact .inl (hstill.inactive hinactive)
      · exact .inr ⟨lease, hstill.leases ▸ hlease, halias, hstill.names hnames⟩
  | rollback => exact hstill.inactive hpermitted
  | replacement => exact hpermitted
  | retirement => exact hpermitted
  | capacity => exact trivial

theorem Still.destructiveOk {after : World} (hstill : Still world after)
    {simulatorId : SimulatorId} {site : DeviceSite}
    (hok : DestructiveOk context world simulatorId site) :
    DestructiveOk context after simulatorId site :=
  fun config hconfig hostAlias hmem hbound =>
    hstill.permitted (hok config (hstill.hostConfig ▸ hconfig) hostAlias hmem hbound)

theorem Kept.hostWriteOk {after : World} {config : HostConfig} (hkept : Kept world after)
    (hok : HostWriteOk context world config) : HostWriteOk context after config where
  drawn simulatorId hmem := (hok.drawn simulatorId hmem).trans_le hkept.later.nextDevice
  leases := hkept.leases ▸ hok.leases
  pins := hkept.pins ▸ hok.pins
  caused := by
    rw [hkept.configuredAliases, hkept.ledger]
    exact hok.caused

/-- Guards are about files, the ledger and the counters only. -/
theorem Still.stepOk {after : World} (hstill : Still world after) {op : BrokerOp}
    (hok : StepOk context op world) : StepOk context op after := by
  cases op with
  | rename file =>
      cases file with
      | registry content note => exact hstill.registryWriteOk hok
      | hostConfig config =>
          have hok : HostWriteOk context world config := hok
          exact hstill.toKept.hostWriteOk hok
      | lease record => exact hstill.leaseWriteOk hok
      | pin record =>
          exact ⟨hstill.toKept.unpinned hok.unpinned, hstill.configuredAliases ▸ hok.configured,
            hstill.leases ▸ hok.compatible⟩
      | _ => exact trivial
  | shutdownDevice simulatorId site => exact hstill.destructiveOk hok
  | eraseDevice simulatorId site => exact hstill.destructiveOk hok
  | deleteDevice simulatorId site => exact hstill.destructiveOk hok
  | unlinkLease leaseId site => exact hok
  | containLeaseProcesses record reason => exact hok
  | appendEvent event => exact hok
  | _ => exact trivial

end SimulatorBroker.Safety
