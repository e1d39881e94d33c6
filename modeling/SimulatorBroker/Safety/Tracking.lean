import SimulatorBroker.Safety.Writers

/-!
# The registry in memory

A command loads the registry, changes it in memory and writes it.  `Tracks` is
what the registry in memory keeps meanwhile, relative to the files and the
ledger; it allows the next write, and after that write the files agree.
-/

namespace SimulatorBroker.Safety

open SimulatorBroker.Effects
open SimulatorBroker.State
open SimulatorBroker.Broker

variable {context : Context} {world after : World} {registry : Registry} {note : RegistryNote}

/-! ## The lease of an alias -/

/-- The lease file that names the alias. -/
def holder (world : World) (name : AliasName) : Option Lease :=
  world.store.leases.find? fun lease => lease.aliasName = name

theorem holder_eq_none {name : AliasName} :
    holder world name = none ↔ ∀ lease ∈ world.store.leases, lease.aliasName ≠ name := by
  simp [holder, List.find?_eq_none]

theorem holder_eq_some {paths : BrokerPaths} (hconsistent : Consistent paths world)
    {name : AliasName} {lease : Lease} :
    holder world name = some lease ↔ lease ∈ world.store.leases ∧ lease.aliasName = name := by
  constructor
  · intro hfind
    exact ⟨List.mem_of_find?_eq_some hfind, by simpa using List.find?_some hfind⟩
  · rintro ⟨hlease, halias⟩
    cases hfind : holder world name with
    | none => exact absurd halias (holder_eq_none.mp hfind lease hlease)
    | some other =>
        have hother := List.mem_of_find?_eq_some hfind
        have hotherAlias : other.aliasName = name := by simpa using List.find?_some hfind
        rw [eq_of_nodup_map hconsistent.leaseAliases hother hlease (hotherAlias.trans halias.symm)]

theorem Kept.holder {before after : World} (hkept : Kept before after) :
    holder after = holder before := by
  funext name
  simp [Safety.holder, hkept.leases]

/-- The index of the kept leases finds the lease file. -/
theorem indexLeases_perm {paths : BrokerPaths} (hconsistent : Consistent paths world)
    {leases : List Lease} (hperm : leases.Perm world.store.leases) (name : AliasName) :
    indexLeases leases name = holder world name := by
  cases hindex : indexLeases leases name with
  | none =>
      refine (holder_eq_none.mpr fun lease hlease => ?_).symm
      have habsent := List.find?_eq_none.mp hindex lease
        (List.mem_reverse.mpr (hperm.mem_iff.mpr hlease))
      simpa using habsent
  | some lease =>
      refine ((holder_eq_some hconsistent).mpr ⟨?_, ?_⟩).symm
      · exact hperm.mem_iff.mp (List.mem_reverse.mp (List.mem_of_find?_eq_some hindex))
      · simpa using List.find?_some hindex

/-- For every alias of the host config the registry on disk names the lease file
on it, or none if there is none. -/
def Agree (world : World) : Prop :=
  ∀ name ∈ world.store.configuredAliases, ∃ entry, world.store.entry name = some entry ∧
    entry.activeLeaseId = (holder world name).map (·.leaseId)

theorem Kept.agree {before after : World} (hkept : Kept before after) (hagree : Agree before) :
    Agree after := by
  intro name hname
  rw [hkept.configuredAliases] at hname
  rw [hkept.entry, hkept.holder]
  exact hagree name hname

/-! ## Tracking -/

/-- The registry in memory counts the ends of leases as the ledger does, up to
the erases that are still to be noted. -/
def Tallied (world : World) (registry : Registry) (note : RegistryNote) : Prop :=
  ∀ name entry, registry.aliases name = some entry →
    (entry.leasesSinceErase =
        if name ∈ note.erased then 0 else world.ledger.endedSinceErase name) ∧
      entry.lastLeaseReleasedAt = world.ledger.lastReleasedAt name

/-- The registry has been written. -/
abbrev RegistryWritten (registry : Registry) (note : RegistryNote) (before after : World) : Prop :=
  Kept ((BrokerOp.rename (.registry registry note)).effect before) after

theorem RegistryWritten.entry (hwritten : RegistryWritten registry note world after)
    (name : AliasName) : after.store.entry name = registry.aliases name := by
  rw [Kept.entry hwritten]
  rfl

theorem RegistryWritten.configuredAliases (hwritten : RegistryWritten registry note world after) :
    after.store.configuredAliases = world.store.configuredAliases :=
  (Kept.configuredAliases hwritten).trans rfl

theorem Tallied.written (htallied : Tallied world registry note)
    (hwritten : RegistryWritten registry note world after) : Tallied after registry {} := by
  intro name entry hentry
  obtain ⟨hcount, hlast⟩ := htallied name entry hentry
  rw [hwritten.ledger]
  simp [BrokerOp.effect, Ledger.registryWritten, hentry, hcount, hlast]

/-- What is written of a registry that counts as the ledger does is exact. -/
theorem Tallied.exact (htallied : Tallied world registry note)
    (hwritten : RegistryWritten registry note world after) : Exact after where
  counted name entry hentry := by
    rw [hwritten.entry] at hentry
    simpa using htallied.written hwritten name entry hentry
  absent name hentry := by
    rw [hwritten.entry] at hentry
    rw [hwritten.ledger]
    simp [BrokerOp.effect, Ledger.registryWritten, hentry]
  written := by
    rw [hwritten.ledger]
    rfl

structure Tracks (context : Context) (world : World) (registry : Registry) (note : RegistryNote) :
    Prop where
  latched : ∀ name ∈ world.store.configuredAliases, world.ledger.latched name = true →
    note.repaired = some name ∨
      ∃ entry, registry.aliases name = some entry ∧ entry.health.latched = true
  cause : ∀ name entry code, registry.aliases name = some entry →
    entry.driftCauseCode = some code →
    entry.health.latched = true ∧ (name ∈ note.failed ∨ world.ledger.cause name = some code)
  present : ∀ name ∈ world.store.configuredAliases, ∃ entry, registry.aliases name = some entry
  active : ∀ name entry, registry.aliases name = some entry →
    entry.activeLeaseId = (holder world name).map (·.leaseId)
  gone : ∀ lease ∈ world.store.leases, ¬ context.rolledBack lease.leaseId
  tallied : RecordsEnds context.surroundings → Tallied world registry note

theorem Tracks.kept (hkept : Kept world after) (htracks : Tracks context world registry note) :
    Tracks context after registry note where
  latched := by
    rw [hkept.configuredAliases, hkept.ledger]
    exact htracks.latched
  cause := by
    rw [hkept.ledger]
    exact htracks.cause
  present := by
    rw [hkept.configuredAliases]
    exact htracks.present
  active := by
    rw [hkept.holder]
    exact htracks.active
  gone := by
    rw [hkept.leases]
    exact htracks.gone
  tallied := by
    unfold Tallied
    rw [hkept.ledger]
    exact htracks.tallied

/-- What tracks the files may be written. -/
theorem Tracks.writeOk (hinvariant : Invariant context world)
    (htracks : Tracks context world registry note) :
    RegistryWriteOk context world registry note where
  latched := htracks.latched
  cause := htracks.cause
  spared lease _ hlease := by
    have hholder := (holder_eq_some hinvariant.toConsistent).mpr ⟨hlease.onDisk, rfl⟩
    have hactive : ∀ entry, registry.aliases lease.aliasName = some entry →
        entry.activeLeaseId = some lease.leaseId := by
      intro entry hentry
      rw [htracks.active _ entry hentry, hholder]
      rfl
    refine ⟨?_, fun entry hentry _ => hactive entry hentry⟩
    unfold isLeftoverAcquireRollbackLease
    cases hentry : registry.aliases lease.aliasName with
    | none => rfl
    | some entry => simp [hactive entry hentry]
  inactive leaseId hrolledBack name entry hentry hactive := by
    rw [htracks.active name entry hentry] at hactive
    obtain ⟨lease, hholder, rfl⟩ := Option.map_eq_some_iff.mp hactive
    exact htracks.gone lease (List.mem_of_find?_eq_some hholder) hrolledBack
  leftover lease hlease hrolledBack := absurd hrolledBack (htracks.gone lease hlease)

/-- After the write the same registry tracks the files with nothing left to note. -/
theorem Tracks.written (htracks : Tracks context world registry note)
    (hwritten : RegistryWritten registry note world after) :
    Tracks context after registry {} where
  latched name hname hlatched := by
    rw [hwritten.ledger] at hlatched
    simp only [BrokerOp.effect, Ledger.registryWritten, Bool.and_eq_true, Bool.or_eq_true,
      decide_eq_true_eq, Option.any_eq_true] at hlatched
    obtain ⟨hconfigured, ⟨entry, hentry, hhealth⟩ | ⟨hlatched, hrepaired⟩⟩ := hlatched
    · exact .inr ⟨entry, hentry, hhealth⟩
    · obtain hnote | hentry := htracks.latched name hconfigured hlatched
      · exact absurd hnote hrepaired
      · exact .inr hentry
  cause name entry code hentry hcode := by
    obtain ⟨hhealth, hcause⟩ := htracks.cause name entry code hentry hcode
    refine ⟨hhealth, .inr ?_⟩
    rw [hwritten.ledger]
    simp only [BrokerOp.effect, Ledger.registryWritten]
    by_cases hfailed : name ∈ note.failed
    · simp [hfailed, hentry, hcode]
    · obtain hnote | hcause := hcause
      · exact absurd hnote hfailed
      · simp [hfailed, hentry, hhealth, hcause]
  present name hname := htracks.present name (hwritten.configuredAliases ▸ hname)
  active name entry hentry := by
    rw [hwritten.holder]
    exact htracks.active name entry hentry
  gone lease hlease := htracks.gone lease (hwritten.leases ▸ hlease)
  tallied hrecords := (htracks.tallied hrecords).written hwritten

theorem Tracks.agree (htracks : Tracks context world registry note)
    (hwritten : RegistryWritten registry note world after) : Agree after := by
  intro name hname
  obtain ⟨entry, hentry⟩ := htracks.present name (hwritten.configuredAliases ▸ hname)
  refine ⟨entry, ?_, ?_⟩
  · rw [hwritten.entry]
    exact hentry
  · rw [hwritten.holder]
    exact htracks.active name entry hentry

/-- A registry write that tracks the files makes the counts exact. -/
theorem Tracks.counted (htracks : Tracks context world registry note)
    (hwritten : RegistryWritten registry note world after) : Counted context after :=
  fun hrecords => (htracks.tallied hrecords).exact hwritten

/-- The write of a registry that tracks the files. -/
theorem safe_writeTracked (htracks : Tracks context world registry note) :
    Safe context (writeRegistry registry note)
      (fun _ after => RegistryWritten registry note world after)
      (fun _ after => ¬ RecordsEnds context.surroundings ∧
        (Kept world after ∨ RegistryWritten registry note world after)) world := by
  refine .assume fun hinvariant => ?_
  refine (safe_writeRegistry (htracks.writeOk hinvariant)).weaken (fun _ _ _ h => h.toKept) ?_
  exact fun _ _ _ h => ⟨h.1, h.2.imp (·.toKept) (·.toKept)⟩

theorem Tracks.touch (htracks : Tracks context world registry note) (timestamp : Timestamp) :
    Tracks context world (registry.touch timestamp) note :=
  ⟨htracks.latched, htracks.cause, htracks.present, htracks.active, htracks.gone, htracks.tallied⟩

/-- What is noted for one alias grows, for the others it stays. -/
structure NoteGrows (before after : RegistryNote) (name : AliasName) : Prop where
  repaired : ∀ other, before.repaired = some other → after.repaired = some other
  failed : ∀ other ∈ before.failed, other ∈ after.failed
  erased : name ∈ before.erased → name ∈ after.erased
  others : ∀ other, other ≠ name → (other ∈ after.erased ↔ other ∈ before.erased)

theorem NoteGrows.refl (note : RegistryNote) (name : AliasName) : NoteGrows note note name :=
  ⟨fun _ h => h, fun _ h => h, fun h => h, fun _ _ => Iff.rfl⟩

/-- A change of an entry that keeps its lease, keeps it unhealthy unless a repair
is noted, gives it no cause without noting the failure, and counts ends of leases
from the erase on that is noted. -/
structure EntryChange (before after : RegistryNote) (name : AliasName)
    (entry changed : RegistryEntry) : Prop where
  active : changed.activeLeaseId = entry.activeLeaseId
  latched : entry.health.latched = true →
    after.repaired = some name ∨ changed.health.latched = true
  cause : ∀ code, changed.driftCauseCode = some code → changed.health.latched = true ∧
    (name ∈ after.failed ∨ entry.driftCauseCode = some code)
  counted : changed.leasesSinceErase = 0 ∧ name ∈ after.erased ∨
    changed.leasesSinceErase = entry.leasesSinceErase ∧
      (name ∈ after.erased → name ∈ before.erased)
  released : changed.lastLeaseReleasedAt = entry.lastLeaseReleasedAt

/-- An entry of the modified registry is the entry before or the changed one. -/
theorem modify_cases {name other : AliasName} {mutate : RegistryEntry → RegistryEntry}
    {entry : RegistryEntry} (hentry : (registry.modify name mutate).aliases other = some entry) :
    other ≠ name ∧ registry.aliases other = some entry ∨
      other = name ∧ ∃ old, registry.aliases other = some old ∧ entry = mutate old := by
  by_cases hname : other = name
  · subst hname
    rw [Registry.modify_aliases_self] at hentry
    obtain ⟨old, hold, rfl⟩ := Option.map_eq_some_iff.mp hentry
    exact .inr ⟨rfl, old, hold, rfl⟩
  · rw [Registry.modify_aliases_of_ne registry mutate hname] at hentry
    exact .inl ⟨hname, hentry⟩

/-- One entry changes. -/
theorem Tracks.modify {note' : RegistryNote} (htracks : Tracks context world registry note)
    {name : AliasName} {mutate : RegistryEntry → RegistryEntry} (hgrows : NoteGrows note note' name)
    (hchange : ∀ entry, registry.aliases name = some entry →
      (∀ code, entry.driftCauseCode = some code → entry.health.latched = true) →
      EntryChange note note' name entry (mutate entry)) :
    Tracks context world (registry.modify name mutate) note' := by
  replace hchange : ∀ entry, registry.aliases name = some entry →
      EntryChange note note' name entry (mutate entry) := fun entry hentry =>
    hchange entry hentry fun code hcode => (htracks.cause name entry code hentry hcode).1
  refine ⟨?_, ?_, ?_, ?_, htracks.gone, ?_⟩
  · intro other hconfigured hledger
    obtain hnote | ⟨entry, hentry, hhealth⟩ := htracks.latched other hconfigured hledger
    · exact .inl (hgrows.repaired other hnote)
    · by_cases hsame : other = name
      · subst hsame
        obtain hnote | hhealth := (hchange entry hentry).latched hhealth
        · exact .inl hnote
        · exact .inr ⟨mutate entry, by simp [hentry], hhealth⟩
      · exact .inr ⟨entry, by rw [Registry.modify_aliases_of_ne registry mutate hsame, hentry],
          hhealth⟩
  · intro other entry code hentry hcode
    obtain ⟨hne, hold⟩ | ⟨rfl, old, hold, rfl⟩ := modify_cases hentry
    · obtain ⟨hhealth, hnote⟩ := htracks.cause other entry code hold hcode
      exact ⟨hhealth, hnote.imp_left (hgrows.failed other)⟩
    · obtain ⟨hhealth, hnote | holdCode⟩ := (hchange old hold).cause code hcode
      · exact ⟨hhealth, .inl hnote⟩
      · exact ⟨hhealth, (htracks.cause other old code hold holdCode).2.imp_left
          (hgrows.failed other)⟩
  · intro other hconfigured
    obtain ⟨entry, hentry⟩ := htracks.present other hconfigured
    by_cases hsame : other = name
    · subst hsame
      exact ⟨mutate entry, by simp [hentry]⟩
    · exact ⟨entry, by rw [Registry.modify_aliases_of_ne registry mutate hsame, hentry]⟩
  · intro other entry hentry
    obtain ⟨hne, hold⟩ | ⟨rfl, old, hold, rfl⟩ := modify_cases hentry
    · exact htracks.active other entry hold
    · rw [(hchange old hold).active]
      exact htracks.active other old hold
  · intro hrecords other entry hentry
    obtain ⟨hne, hold⟩ | ⟨rfl, old, hold, rfl⟩ := modify_cases hentry
    · obtain ⟨hcount, hlast⟩ := htracks.tallied hrecords other entry hold
      refine ⟨?_, hlast⟩
      simp only [hgrows.others other hne]
      exact hcount
    · obtain ⟨hcount, hlast⟩ := htracks.tallied hrecords other old hold
      refine ⟨?_, (hchange old hold).released.trans hlast⟩
      obtain ⟨hzero, herased⟩ | ⟨hsame, herased⟩ := (hchange old hold).counted
      · rw [hzero, if_pos herased]
      · rw [hsame, hcount]
        by_cases hbefore : other ∈ note.erased
        · rw [if_pos hbefore, if_pos (hgrows.erased hbefore)]
        · rw [if_neg hbefore, if_neg (fun h => hbefore (herased h))]

end SimulatorBroker.Safety
