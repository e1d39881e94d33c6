import SimulatorBroker.Safety.Load

/-!
# Locks and slot reclaim

Work under a lock, and the reclaim of free slots: it erases only slots that are
neither leased nor pinned and records every erase.
-/

namespace SimulatorBroker.Safety

open SimulatorBroker.Effects
open SimulatorBroker.State
open SimulatorBroker.Broker

variable {α : Type} {context : Context} {first world after : World} {timestamp : Timestamp}

/-! ## Locks -/

/-- What does not depend on moments that change nothing. -/
def Stable (P : World → Prop) : Prop :=
  ∀ {before after : World}, Still before after → P before → P after

/-- Taking the lock and giving it back change nothing and may fail. -/
theorem safe_withLock {name : LockName} {work : Broker α} {P : α → World → Prop}
    {E : World → Prop} (hpost : ∀ value, Stable (P value)) (hraise : Stable E)
    (hfails : ∀ value after, P value after → E after) (hworld : E world)
    (hwork : ∀ locked, Still world locked →
      Safe context work P (fun _ after => E after) locked) :
    Safe context (withLock name work) P (fun _ after => E after) world := by
  have hcall : ∀ op, quiet op = true → ∀ {Q : World → Prop}, Stable Q → (∀ w, Q w → E w) →
      ∀ before, Q before → Safe context (perform op) (fun _ after => Q after)
        (fun _ after => E after) before := by
    intro op hquiet Q hQ himplies before hbefore
    exact .opStill (quiet_keepsFiles hquiet) (quiet_stepOk hquiet)
      (fun _ _ _ hstill => hQ hstill hbefore)
      fun _ _ _ _ hstill => himplies _ (hQ hstill hbefore)
  unfold withLock
  refine .seq safe_ensureStatePaths (fun _ _ _ h => hraise h.1 hworld)
    fun _ ensured hensured => ?_
  refine .seq (M := fun _ after => Still world after)
    (.opStill rfl trivial (fun _ _ _ hstill => hensured.trans hstill)
      fun _ _ _ _ hstill => hraise (hensured.trans hstill) hworld)
    (fun _ _ _ h => h) fun _ locked hlocked => ?_
  refine .ensuring (hwork locked hlocked) (fun value done hdone => ?_) fun error failed hfailed => ?_
  · exact hcall _ rfl (hpost value) (hfails value) done hdone
  · exact hcall _ rfl hraise (fun _ h => h) failed hfailed

/-! ## Entries -/

theorem blocked_of_latched {entry : RegistryEntry} (hlatched : entry.health.latched = true) :
    slotReclaimBlockedByRepair entry = true := by
  cases hhealth : entry.health <;> simp_all [Health.latched, slotReclaimBlockedByRepair]

theorem reclaimedEntry_health (timestamp : Timestamp) {entry : RegistryEntry}
    (hlatched : entry.health.latched = true) :
    (reclaimedEntry timestamp entry).health = entry.health := by
  simp [reclaimedEntry, blocked_of_latched hlatched, resetLeasesSinceErase]

theorem latched_of_reclaimedEntry {timestamp : Timestamp} {entry : RegistryEntry}
    (hlatched : (reclaimedEntry timestamp entry).health.latched = true) :
    entry.health.latched = true := by
  simp only [reclaimedEntry, resetLeasesSinceErase] at hlatched
  split at hlatched
  · exact hlatched
  · simp [Health.latched] at hlatched

theorem reclaimedEntry_change {note : RegistryNote} {name : AliasName} (timestamp : Timestamp)
    {entry : RegistryEntry}
    (hcause : ∀ code, entry.driftCauseCode = some code → entry.health.latched = true) :
    EntryChange note { note with erased := name :: note.erased } name entry
      (reclaimedEntry timestamp entry) where
  active := by simp only [reclaimedEntry, resetLeasesSinceErase]; split <;> rfl
  latched hlatched := .inr (by rw [reclaimedEntry_health timestamp hlatched]; exact hlatched)
  cause code hcode := by
    have hsame : (reclaimedEntry timestamp entry).driftCauseCode = entry.driftCauseCode := by
      simp only [reclaimedEntry, resetLeasesSinceErase]
      split <;> rfl
    rw [hsame] at hcode
    have hlatched := hcause code hcode
    exact ⟨by rw [reclaimedEntry_health timestamp hlatched]; exact hlatched, .inr hcode⟩
  counted := .inl ⟨by simp [reclaimedEntry, resetLeasesSinceErase], by simp⟩
  released := by simp only [reclaimedEntry, resetLeasesSinceErase]; split <;> rfl

/-- An entry that only becomes unhealthy. -/
theorem EntryChange.unhealthy {note : RegistryNote} {name : AliasName} {entry changed : RegistryEntry}
    (hactive : changed.activeLeaseId = entry.activeLeaseId)
    (hhealth : changed.health.latched = true)
    (hcause : changed.driftCauseCode = entry.driftCauseCode)
    (hcounted : changed.leasesSinceErase = entry.leasesSinceErase)
    (hreleased : changed.lastLeaseReleasedAt = entry.lastLeaseReleasedAt) :
    EntryChange note note name entry changed :=
  ⟨hactive, fun _ => .inr hhealth, fun _ hcode => ⟨hhealth, .inr (hcause ▸ hcode)⟩,
    .inr ⟨hcounted, id⟩, hreleased⟩

theorem noteGrows_erased (note : RegistryNote) (name : AliasName) :
    NoteGrows note { note with erased := name :: note.erased } name :=
  ⟨fun _ h => h, fun _ h => h, fun h => List.mem_cons_of_mem _ h,
    fun other hne => by simp [hne]⟩

/-! ## The loop -/

/-- What holds between two turns: nothing but the registry in memory changes. -/
structure Reclaiming (context : Context) (state : BrokerState) (first : World) (scan : ReclaimScan)
    (world : World) : Prop where
  still : Still first world
  tracks : Tracks context world scan.registry { erased := scan.erased }
  unchanged : scan.reclaimedCount = 0 → scan.failureCount = 0 →
    scan.registry = state.registry ∧ scan.erased = []
  healthy : scan.failureCount = 0 → ∀ name entry, scan.registry.aliases name = some entry →
    entry.health.latched = true →
    ∃ old, state.registry.aliases name = some old ∧ old.health.latched = true

theorem Reclaiming.kept {state : BrokerState} {scan : ReclaimScan} (hstill : Still world after)
    (hreclaiming : Reclaiming context state first scan world) :
    Reclaiming context state first scan after :=
  ⟨hreclaiming.still.trans hstill, hreclaiming.tracks.kept hstill.toKept, hreclaiming.unchanged,
    hreclaiming.healthy⟩

/-- Only a slot without lease and pin is erased. -/
theorem safe_eraseSlot {hostAlias : HostAlias} {held : Bool} {config : HostConfig}
    (hconfig : ReadConfig world config) (hmem : hostAlias ∈ config.aliases)
    (hfree : held = false → (∀ lease ∈ world.store.leases, lease.aliasName ≠ hostAlias.aliasName) ∧
      Unpinned world hostAlias.aliasName) :
    Safe context (eraseSlot hostAlias held) (fun _ after => Still world after)
      (fun _ after => Still world after) world := by
  unfold eraseSlot
  refine safe_withLock (P := fun _ after => Still world after) (E := Still world)
    (fun _ _ _ hstill h => h.trans hstill) (fun hstill h => h.trans hstill) (fun _ _ h => h)
    (.refl world) fun locked hlocked => ?_
  cases held with
  | true => exact .throw hlocked
  | false =>
      obtain ⟨hleases, hpins⟩ := hfree rfl
      have hok : DestructiveOk context world hostAlias.simulatorId .slotReclaim :=
        hconfig.destructiveOk hmem ⟨inactive_of_free hleases, hpins⟩
      refine .seq (M := fun _ after => Still world after) (.opStill rfl (hlocked.destructiveOk hok)
        (fun _ _ _ hstill => hlocked.trans hstill) fun _ _ _ _ hstill => hlocked.trans hstill)
        (fun _ _ _ h => h) fun _ shut hshut => ?_
      exact .opStill rfl (hshut.destructiveOk hok) (fun _ _ _ hstill => hshut.trans hstill)
        fun _ _ _ _ hstill => hshut.trans hstill

/-- The erase of one slot and its entry. -/
theorem safe_reclaimSlot {state : BrokerState} {hostAlias : HostAlias} {held : Bool}
    {scan : ReclaimScan} (hcurrent : Current context state first)
    (hmem : hostAlias ∈ state.hostConfig.aliases)
    (hfree : held = false → state.leasesByAlias hostAlias.aliasName = none ∧
      state.pinsByAlias hostAlias.aliasName = none)
    (hreclaiming : Reclaiming context state first scan world) :
    Safe context (reclaimSlot hostAlias held timestamp scan)
      (fun scan' after => Reclaiming context state first scan' after) (fun _ _ => False) world := by
  have hnow := hcurrent.kept hreclaiming.still.toKept
  have herase : Safe context (eraseSlot hostAlias held) (fun _ after => Still world after)
      (fun _ after => Still world after) world :=
    safe_eraseSlot hnow.config hmem fun hheld =>
      ⟨hnow.free (hfree hheld).1, hnow.unpinned (hfree hheld).2⟩
  unfold reclaimSlot
  refine .seq (M := fun _ after => Still world after) (E := fun _ _ => False)
    (.attempt herase) (fun _ _ _ h => h) fun outcome erased herased => ?_
  replace hreclaiming := hreclaiming.kept herased
  cases outcome with
  | ok value =>
      refine .seq (safe_appendEventRecord (.refl erased) (eventOk_of_ne (by simp) (by simp)))
        (fun _ _ _ h => h) fun _ appended happended => ?_
      replace hreclaiming := hreclaiming.kept happended
      refine .pure ⟨hreclaiming.still, ?_, ?_, ?_⟩
      · exact hreclaiming.tracks.modify (noteGrows_erased { erased := scan.erased } _)
          fun entry _ hcause => reclaimedEntry_change timestamp hcause
      · intro hcount
        simp at hcount
      · intro hfailures name entry hentry hlatched
        obtain ⟨-, hold⟩ | ⟨rfl, old, hold, rfl⟩ := modify_cases hentry
        · exact hreclaiming.healthy hfailures name entry hold hlatched
        · exact hreclaiming.healthy hfailures _ old hold (latched_of_reclaimedEntry hlatched)
  | error error =>
      dsimp only
      split
      · exact .pure ⟨hreclaiming.still, hreclaiming.tracks, hreclaiming.unchanged,
          hreclaiming.healthy⟩
      · refine .seq (safe_appendEventRecord (.refl erased) (eventOk_of_ne (by simp) (by simp)))
          (fun _ _ _ h => h) fun _ appended happended => ?_
        replace hreclaiming := hreclaiming.kept happended
        refine .pure ⟨hreclaiming.still, ?_, ?_, ?_⟩
        · exact hreclaiming.tracks.modify (.refl _ _) fun entry _ _ =>
            .unhealthy rfl rfl rfl rfl rfl
        · intro _ hfailures
          simp at hfailures
        · intro hfailures
          simp at hfailures

theorem safe_sharedDeviceListing {listed : Bool} :
    Safe context (sharedDeviceListing listed) (fun _ after => Still world after) (fun _ _ => False)
      world := by
  unfold sharedDeviceListing
  split
  · exact .pure (.refl world)
  · refine safe_ignoringErrors ?_
    refine .seq (M := fun _ after => Still world after) (E := fun _ after => Still world after)
      ((safe_read rfl (by simp)).weaken (fun _ _ _ h => h.2) fun _ _ _ h => h.1)
      (fun _ _ _ h => h) fun _ _ h => .pure h

theorem safe_measureAliasDiskBytes {simulatorId : SimulatorId} :
    Safe context (measureAliasDiskBytes simulatorId) (fun _ after => Still world after)
      (fun _ _ => False) world :=
  .catch (E := fun _ after => Still world after)
    ((safe_read rfl (by simp)).weaken (fun _ _ _ h => h.2) fun _ _ _ h => h.1)
    fun _ _ h => .pure h

theorem held_of_not {acquiring : Bool} {lease : Option Lease} {pin : Option Pin}
    {entry : RegistryEntry} (hheld : isSlotHeldForReclaim acquiring lease pin entry = false) :
    lease = none ∧ pin = none := by
  simp only [isSlotHeldForReclaim, Bool.or_eq_false_iff, Option.isSome_eq_false_iff,
    Option.isNone_iff_eq_none] at hheld
  exact ⟨hheld.1.1.2, hheld.2⟩

/-- One turn of the loop. -/
theorem safe_reclaimAlias {state : BrokerState} {policy : SlotReclaimPolicy}
    {acquiringAlias : Option AliasName} {hostAlias : HostAlias} {scan : ReclaimScan}
    (hcurrent : Current context state first) (hmem : hostAlias ∈ state.hostConfig.aliases)
    (hreclaiming : Reclaiming context state first scan world) :
    Safe context (reclaimAlias state policy acquiringAlias timestamp scan hostAlias)
      (fun scan' after => Reclaiming context state first scan' after) (fun _ _ => False) world := by
  unfold reclaimAlias
  cases hentry : scan.registry.aliases hostAlias.aliasName with
  | none => exact .pure hreclaiming
  | some entry =>
      dsimp only
      split
      · exact .pure ⟨hreclaiming.still, hreclaiming.tracks, hreclaiming.unchanged,
          hreclaiming.healthy⟩
      · split
        · exact .pure hreclaiming
        · split
          · refine .seq safe_sharedDeviceListing (fun _ _ _ h => h) fun _ listed hlisted => ?_
            refine .seq safe_measureAliasDiskBytes (fun _ _ _ h => h)
              fun diskBytes measured hmeasured => ?_
            replace hreclaiming := hreclaiming.kept (hlisted.trans hmeasured)
            cases evaluateSlotReclaim (classifyReclaimSlot hostAlias) diskBytes entry timestamp
                policy with
            | none =>
                exact .pure ⟨hreclaiming.still, hreclaiming.tracks, hreclaiming.unchanged,
                  hreclaiming.healthy⟩
            | some reason =>
                refine safe_reclaimSlot hcurrent hmem held_of_not ?_
                exact ⟨hreclaiming.still, hreclaiming.tracks, hreclaiming.unchanged,
                  hreclaiming.healthy⟩
          · exact .pure hreclaiming

/-! ## The reclaim -/

/-- Everything but the registry is as it was. -/
structure KeptButRegistry (before after : World) : Prop where
  hostConfig : after.store.hostConfig = before.store.hostConfig
  leases : after.store.leases = before.store.leases
  pins : after.store.pins = before.store.pins
  later : before.outside.Later after.outside

theorem Kept.butRegistry (hkept : Kept world after) : KeptButRegistry world after :=
  ⟨hkept.hostConfig, hkept.leases, hkept.pins, hkept.later⟩

theorem RegistryWritten.butRegistry {registry : Registry} {note : RegistryNote}
    (hwritten : RegistryWritten registry note world after) : KeptButRegistry world after :=
  ⟨hwritten.hostConfig, hwritten.leases, hwritten.pins, hwritten.later⟩

theorem KeptButRegistry.trans {first middle last : World} (hfirst : KeptButRegistry first middle)
    (hlast : KeptButRegistry middle last) : KeptButRegistry first last :=
  ⟨hlast.hostConfig.trans hfirst.hostConfig, hlast.leases.trans hfirst.leases,
    hlast.pins.trans hfirst.pins, hfirst.later.trans hlast.later⟩

theorem KeptButRegistry.holder (hkept : KeptButRegistry world after) :
    holder after = holder world := by
  funext name
  simp [Safety.holder, hkept.leases]

/-- The state is current again with the registry that was written. -/
theorem Current.withRegistry {state : BrokerState} (hcurrent : Current context state world)
    (hkept : KeptButRegistry world after) {registry : Registry}
    (htracks : Tracks context after registry {}) :
    Current context (state.withRegistry registry) after where
  config := hcurrent.config.of_hostConfig hkept.hostConfig
  tracks := htracks
  byAlias := hkept.holder ▸ hcurrent.byAlias
  pins := hkept.pins ▸ hcurrent.pins
  byPin := hcurrent.byPin

/-- The reclaim returns a current state and makes no alias unhealthy without
counting a failure. -/
structure Reclaimed (context : Context) (state : BrokerState) (first : World)
    (result : BrokerState × ReclaimResult) (after : World) : Prop where
  kept : KeptButRegistry first after
  withRegistry : ∃ registry, result.1 = state.withRegistry registry
  current : Current context result.1 after
  agree : Agree after
  counted : Counted context after
  healthy : result.2.failureCount = 0 → ∀ name entry, result.1.registry.aliases name = some entry →
    entry.health.latched = true →
    ∃ old, state.registry.aliases name = some old ∧ old.health.latched = true

theorem safe_reclaimAliases {state : BrokerState} {options : ReclaimOptions}
    (hcurrent : Current context state world) :
    Safe context (reclaimAliases state timestamp options)
      (fun scan after => Reclaiming context state world scan after) (fun _ _ => False) world := by
  have hstart : Reclaiming context state world { registry := state.registry } world :=
    ⟨.refl world, hcurrent.tracks, fun _ _ => ⟨rfl, rfl⟩,
      fun _ name entry hentry hlatched => ⟨entry, hentry, hlatched⟩⟩
  unfold reclaimAliases
  dsimp only
  split
  · refine .foldlM (fun rest scan after => (∀ hostAlias ∈ rest,
      hostAlias ∈ state.hostConfig.aliases) ∧ Reclaiming context state world scan after) ?_
      (fun _ _ _ h => h.2) _ _ ⟨?_, hstart⟩
    · rintro hostAlias rest scan before ⟨hmem, hreclaiming⟩
      refine (safe_reclaimAlias hcurrent (hmem hostAlias (by simp)) hreclaiming).weaken
        (fun _ _ _ h => ⟨fun other hother => hmem other (List.mem_cons_of_mem _ hother), h⟩)
        fun _ _ _ h => h
    · intro hostAlias hmem
      obtain ⟨name, -, hfind⟩ := List.mem_filterMap.mp hmem
      exact List.mem_of_find?_eq_some hfind
  · exact .pure hstart

theorem safe_performSlotReclaim {state : BrokerState} {options : ReclaimOptions}
    (hcurrent : Current context state world) (hagree : Agree world)
    (hcounted : Counted context world) :
    Safe context (performSlotReclaim state timestamp options)
      (Reclaimed context state world) (fun _ after => KeptButRegistry world after ∧
        Counted context after) world := by
  unfold performSlotReclaim
  refine .seq (safe_reclaimAliases hcurrent) (fun _ _ _ h => h.elim)
    fun scan reclaimed hreclaiming => ?_
  have hkept := hreclaiming.still.toKept.butRegistry
  dsimp only
  split
  · rename_i hchanged
    have htracks : Tracks context reclaimed
        { scan.registry with
          lastReclaimResult := some (scan.result timestamp options.source)
          updatedAt := timestamp } { erased := scan.erased } :=
      ⟨hreclaiming.tracks.latched, hreclaiming.tracks.cause, hreclaiming.tracks.present,
        hreclaiming.tracks.active, hreclaiming.tracks.gone, hreclaiming.tracks.tallied⟩
    refine .seq (safe_writeTracked htracks) ?_ fun _ written hwritten => ?_
    · rintro error failed - ⟨hfails, hnone | hwritten⟩
      · exact ⟨hkept.trans hnone.butRegistry, fun hrecords => absurd hrecords hfails⟩
      · exact ⟨hkept.trans hwritten.butRegistry, fun hrecords => absurd hrecords hfails⟩
    · have hlast := hkept.trans hwritten.butRegistry
      exact .pure ⟨hlast, ⟨_, rfl⟩, hcurrent.withRegistry hlast (htracks.written hwritten),
        htracks.agree hwritten, htracks.counted hwritten, hreclaiming.healthy⟩
  · rename_i hunchanged
    simp only [not_or, Nat.not_lt, Nat.le_zero] at hunchanged
    obtain ⟨hregistry, herased⟩ := hreclaiming.unchanged hunchanged.1 hunchanged.2.1
    have htracks := hreclaiming.tracks
    rw [herased] at htracks
    exact .pure ⟨hkept, ⟨_, rfl⟩, hcurrent.withRegistry hkept htracks,
      hreclaiming.still.toKept.agree hagree, hreclaiming.still.toKept.counted hcounted,
      hreclaiming.healthy⟩

end SimulatorBroker.Safety
