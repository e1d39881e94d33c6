import Mathlib.Data.List.Nodup
import SimulatorBroker.Hosting.Provision

/-!
# Repairing an alias

A repair binds the alias to another simulator in one write and drops what it has
retired in a second one.
-/

namespace SimulatorBroker.Hosting

open SimulatorBroker.Effects
open SimulatorBroker.State
open SimulatorBroker.Broker
open SimulatorBroker.Safety (ReadConfig)

variable {surroundings : Surroundings} {distinct : Prop} {world first after : World}
  {config next : HostConfig} {hostAlias : HostAlias}

/-! ## Rebinding -/

section Rebinding

variable {name : AliasName} {simulatorId : SimulatorId} {iosVersion : String}

@[simp] theorem rebindAlias_aliasNames :
    (rebindAlias config name simulatorId iosVersion).aliasNames = config.aliasNames := by
  simp only [HostConfig.aliasNames, rebindAlias, List.map_map]
  refine List.map_congr_left fun hostAlias _ => ?_
  simp only [Function.comp_apply]
  split
  · rfl
  · rfl

theorem rebindAlias_simulatorIds :
    (rebindAlias config name simulatorId iosVersion).simulatorIds =
      config.aliases.map fun hostAlias =>
        if hostAlias.aliasName = name then simulatorId else hostAlias.simulatorId := by
  simp only [HostConfig.simulatorIds, rebindAlias, List.map_map]
  refine List.map_congr_left fun hostAlias _ => ?_
  simp only [Function.comp_apply]
  split
  · rfl
  · rfl

theorem mem_rebindAlias_simulatorIds (hmem : hostAlias ∈ config.aliases)
    (hname : hostAlias.aliasName ≠ name) :
    hostAlias.simulatorId ∈ (rebindAlias config name simulatorId iosVersion).simulatorIds := by
  rw [rebindAlias_simulatorIds]
  exact List.mem_map.mpr ⟨hostAlias, hmem, if_neg hname⟩

theorem rebound_mem_simulatorIds (hmem : hostAlias ∈ config.aliases) :
    simulatorId ∈
      (rebindAlias config hostAlias.aliasName simulatorId iosVersion).simulatorIds := by
  rw [rebindAlias_simulatorIds]
  exact List.mem_map.mpr ⟨hostAlias, hmem, if_pos rfl⟩

/-- Bound to a simulator that no other alias has, the config stays valid. -/
theorem rebindAlias_valid (hvalid : config.Valid)
    (hother : ∀ other ∈ config.aliases, other.simulatorId = simulatorId → other.aliasName = name)
    (hversion : isHostSchemaIosVersion iosVersion = true) :
    (rebindAlias config name simulatorId iosVersion).Valid := by
  have hnames := hvalid.names
  have haliases : config.aliases.Nodup := .of_map _ hnames
  have hsimulators := hvalid.simulators
  obtain ⟨-, -, hschema, hhost, hpolicy⟩ := hvalid
  refine ⟨by rwa [rebindAlias_aliasNames], ?_, ?_, hhost, hpolicy⟩
  · rw [rebindAlias_simulatorIds, List.nodup_map_iff_inj_on haliases]
    intro left hleft right hright hsame
    have hinjective := List.inj_on_of_nodup_map hnames hleft hright
    split at hsame <;> split at hsame
    · next hleftName hrightName => exact hinjective (hleftName.trans hrightName.symm)
    · next hleftName _ =>
        exact hinjective (hleftName.trans (hother right hright hsame.symm).symm)
    · next _ hrightName => exact hinjective ((hother left hleft hsame).trans hrightName.symm)
    · exact List.inj_on_of_nodup_map hsimulators hleft hright hsame
  · intro hostAlias hmem
    obtain ⟨old, hold, rfl⟩ := List.mem_map.mp hmem
    obtain ⟨hname, hcapabilities, hnonEmpty, hdisplay, holdVersion⟩ := hschema old hold
    split
    · exact ⟨hname, hcapabilities, hnonEmpty, hdisplay, hversion⟩
    · exact ⟨hname, hcapabilities, hnonEmpty, hdisplay, holdVersion⟩

end Rebinding

/-! ## Retirement -/

/-- Every pending simulator is bound, gone, or still listed as pending. -/
structure Retired (surroundings : Surroundings) (after : World) (next : HostConfig)
    (pendingRetirementIds : List SimulatorId) (failedRetirements : FailedRetirements) : Prop where
  pending : ∀ simulatorId ∈ failedRetirements.map (·.1), simulatorId ∈ pendingRetirementIds
  kept : NeverReturns surroundings → ∀ simulatorId ∈ pendingRetirementIds,
    simulatorId ∈ next.simulatorIds ∨ simulatorId ∈ failedRetirements.map (·.1) ∨
      Absent after.outside simulatorId

/-- One turn: the simulator is bound, gone, or listed; nothing is forgotten. -/
theorem hosts_retireSimulator {inventory : SimctlInventory} {failed : FailedRetirements}
    {simulatorId : SimulatorId} (hlisted : Listed surroundings world first inventory)
    (hdrawn : simulatorId < world.outside.nextDevice) :
    Hosts surroundings distinct
      (retireSimulator next.simulatorIds inventory.deviceIds failed simulatorId)
      (fun failed' after => Onward surroundings first after ∧
        (∀ other ∈ failed'.map (·.1), other ∈ failed.map (·.1) ∨ other = simulatorId) ∧
          (∀ other ∈ failed.map (·.1), other ∈ failed'.map (·.1)) ∧
            (NeverReturns surroundings → simulatorId ∈ next.simulatorIds ∨
              simulatorId ∈ failed'.map (·.1) ∨ Absent after.outside simulatorId))
      (fun _ after => Onward surroundings first after) first := by
  unfold retireSimulator
  split
  · next hskipped =>
      refine .pure ⟨.refl _, fun _ h => .inl h, fun _ h => h, fun hnever => ?_⟩
      rcases hskipped with hbound | hmissing
      · exact .inl hbound
      · exact .inr (.inr (hlisted.gone hnever simulatorId hdrawn hmissing))
  · refine .tryCatch (?_ : Hosts surroundings distinct _ _
      (fun _ after => Onward surroundings first after) first) ?_
    · refine .seq hosts_deleteAliasSimulator (fun _ _ h => h) ?_
      rintro - after ⟨honward, hgone⟩
      refine .pure ⟨honward, fun _ h => .inl h, fun _ h => h, fun hnever => .inr (.inr ?_)⟩
      exact hgone hnever (hdrawn.trans_le hlisted.onward.later.nextDevice)
    · intro error after honward
      refine .pure ⟨honward, ?_, ?_, fun _ => .inr (.inl ?_)⟩
      · intro other hmem
        simpa using hmem
      · intro other hmem
        simp only [List.map_append, List.mem_append]
        exact .inl hmem
      · simp

theorem hosts_retirePendingHostSimulators {pendingRetirementIds : List SimulatorId}
    (hdrawn : Drawn surroundings distinct world)
    (hpending : ∀ simulatorId ∈ pendingRetirementIds, simulatorId < world.outside.nextDevice) :
    Hosts surroundings distinct (retirePendingHostSimulators pendingRetirementIds next)
      (fun failed after => Onward surroundings world after ∧
        Retired surroundings after next pendingRetirementIds failed)
      (fun _ after => Onward surroundings world after) world := by
  unfold retirePendingHostSimulators
  split
  · next hempty =>
      refine .pure ⟨.refl _, by simp, ?_⟩
      rw [hempty]
      simp
  · refine .seq (hosts_readSimctlInventory hdrawn) (fun _ _ h => h) fun inventory first hlisted => ?_
    -- the loop: what came before is settled, what is still to come is pending
    refine wp_foldlM (fun rest failed before => Onward surroundings first before ∧
      ∃ settled, settled ++ rest = pendingRetirementIds ∧
        Retired surroundings before next settled failed) _ ?_ ?_ _ _ ?_
    · rintro simulatorId rest failed before ⟨honward, settled, hsettled, hretired⟩
      have hid : simulatorId < world.outside.nextDevice :=
        hpending simulatorId (by rw [← hsettled]; simp)
      refine (hosts_retireSimulator (hlisted.later honward) hid).weaken ?_
        fun _ _ h => hlisted.onward.trans (honward.trans h)
      rintro failed' after ⟨hafter, hfrom, hkept, hlast⟩
      refine ⟨honward.trans hafter, settled ++ [simulatorId], by simpa using hsettled, ?_, ?_⟩
      · intro other hmem
        rcases hfrom other hmem with hold | rfl
        · exact List.mem_append_left _ (hretired.pending other hold)
        · exact List.mem_append_right _ List.mem_cons_self
      · intro hnever other hmem
        rcases List.mem_append.mp hmem with hold | hnew
        · rcases hretired.kept hnever other hold with hbound | hfailed | habsent
          · exact .inl hbound
          · exact .inr (.inl (hkept other hfailed))
          · refine .inr (.inr (hafter.gone hnever other ?_ habsent))
            exact (hpending other (by rw [← hsettled]; exact List.mem_append_left _ hold)).trans_le
              (hlisted.onward.trans honward).later.nextDevice
        · rw [List.mem_singleton.mp hnew]
          exact hlast hnever
    · rintro failed after ⟨honward, settled, hsettled, hretired⟩
      rw [List.append_nil] at hsettled
      rw [← hsettled]
      exact ⟨hlisted.onward.trans honward, hretired⟩
    · exact ⟨.refl _, [], rfl, by simp, by simp⟩

/-! ## What a repair writes -/

/-- A simulator may always take the name of its own alias. -/
theorem allows_own (hvalid : config.Valid) (hmem : hostAlias ∈ config.aliases) :
    Allows config
      (some (hostAlias.simulatorId, simulatorDisplayName config.hostId hostAlias.aliasName)) := by
  intro other hother name hrenamed
  rw [Option.some_inj, Prod.mk.injEq] at hrenamed
  have hsame : other = hostAlias :=
    List.inj_on_of_nodup_map hvalid.simulators hother hmem hrenamed.1.symm
  rw [hsame]
  exact (simulatorDisplayName_injective hrenamed.2).symm

/-- The simulator a repair chooses is not that of another alias. -/
theorem own_of_chosen {provisioned : ProvisionedSimulator} (hkeeps : KeepsNames surroundings)
    (hsound : Sound world.outside config) (hmem : hostAlias ∈ config.aliases)
    (hdrawn : ∀ simulatorId ∈ config.simulatorIds, simulatorId < world.outside.nextDevice)
    (hchosen : Chosen surroundings world after
      (simulatorDisplayName config.hostId hostAlias.aliasName) (some hostAlias.simulatorId)
      provisioned) :
    ∀ other ∈ config.aliases, other.simulatorId = provisioned.simulatorId →
      other.aliasName = hostAlias.aliasName := by
  intro other hother hsame
  have hid : other.simulatorId < world.outside.nextDevice := hdrawn _ (List.mem_map_of_mem hother)
  rcases hchosen.origin with hcurrent | hreused | hfresh
  · rw [Option.some_inj, ← hsame] at hcurrent
    rw [List.inj_on_of_nodup_map hsound.valid.simulators hmem hother hcurrent]
  · rw [← hsame] at hreused
    exact (hsound.named other hother _ (hreused hkeeps hid)).symm
  · rw [hsame] at hid
    exact absurd hid hfresh.not_gt

theorem sound_rebound {provisioned : ProvisionedSimulator} (hkeeps : KeepsNames surroundings)
    (hsound : Sound world.outside config) (hmem : hostAlias ∈ config.aliases)
    (hdrawn : ∀ simulatorId ∈ config.simulatorIds, simulatorId < world.outside.nextDevice)
    (hchosen : Chosen surroundings world after
      (simulatorDisplayName config.hostId hostAlias.aliasName) (some hostAlias.simulatorId)
      provisioned)
    (hversion : isHostSchemaIosVersion provisioned.iosVersion = true) :
    Sound after.outside
      (rebindAlias config hostAlias.aliasName provisioned.simulatorId provisioned.iosVersion) := by
  constructor
  · exact rebindAlias_valid hsound.valid (own_of_chosen hkeeps hsound hmem hdrawn hchosen) hversion
  · intro rebound hrebound name hname
    obtain ⟨old, hold, rfl⟩ := List.mem_map.mp hrebound
    split at hname
    · next hsame =>
        rw [if_pos hsame, hsame]
        exact simulatorDisplayName_injective (hchosen.named hkeeps _ hname)
    · next hother =>
        rw [if_neg hother]
        have hid : old.simulatorId < world.outside.nextDevice :=
          hdrawn _ (List.mem_map_of_mem hold)
        rcases hchosen.moved.names hkeeps _ hid _ hname with hbefore | hrenamed
        · exact hsound.named old hold name hbefore
        · exact allows_own hsound.valid hmem old hold name hrenamed

/-- The list of what is pending may leave out what is bound or gone. -/
theorem Kept.pending {pendingRetirements : List SimulatorId}
    (hkept : Kept surroundings distinct world config)
    (hdrawn : ∀ simulatorId ∈ pendingRetirements, simulatorId < world.outside.nextDevice)
    (hpending : NeverReturns surroundings → ∀ simulatorId ∈ config.pendingRetirements,
      simulatorId ∈ config.simulatorIds ∨ simulatorId ∈ pendingRetirements ∨
        Absent world.outside simulatorId) :
    Kept surroundings distinct world (hostConfigWithPendingRetirements config pendingRetirements)
    where
  drawn := hkept.drawn
  sound hkeeps hdistinct := by
    obtain ⟨hvalid, hnamed⟩ := hkept.sound hkeeps hdistinct
    exact ⟨hvalid, hnamed⟩
  retains := by
    refine hkept.retains.next ?_ ?_
    · intro simulatorId hmem
      rcases List.mem_append.mp hmem with hbound | hlisted
      · exact hkept.retains.drawn simulatorId (List.mem_append_left _ hbound)
      · exact hdrawn simulatorId hlisted
    · intro hnever simulatorId hmem
      rcases List.mem_append.mp hmem with hbound | hlisted
      · exact .inl (List.mem_append_left _ hbound)
      · rcases hpending hnever simulatorId hlisted with hbound | hkept | habsent
        · exact .inl (List.mem_append_left _ hbound)
        · exact .inl (List.mem_append_right _ hkept)
        · exact .inr habsent

/-- The config of the first write: the new binding, and the old simulator to be retired. -/
theorem kept_rebound {provisioned : ProvisionedSimulator}
    (hdrawn : Drawn surroundings distinct world) (hread : ReadConfig world config)
    (hmem : hostAlias ∈ config.aliases)
    (hchosen : Chosen surroundings world after
      (simulatorDisplayName config.hostId hostAlias.aliasName) (some hostAlias.simulatorId)
      provisioned)
    (hversion : isHostSchemaIosVersion provisioned.iosVersion = true) :
    Kept surroundings distinct after
      (hostConfigWithPendingRetirements
        (rebindAlias config hostAlias.aliasName provisioned.simulatorId provisioned.iosVersion)
        (config.pendingRetirements ++ provisioned.replacedSimulatorId.toList).eraseDups) := by
  have hkept := Kept.read hdrawn hread
  have hbound : ∀ simulatorId ∈ config.simulatorIds, simulatorId < world.outside.nextDevice :=
    fun simulatorId hid => hkept.retains.drawn simulatorId (List.mem_append_left _ hid)
  have hlater := hchosen.moved.later.nextDevice
  constructor
  · refine hdrawn.moved hchosen.moved fun _ _ disk hdisk => ?_
    obtain ⟨read, hsome, hvalid, rfl⟩ := hread
    rw [hsome] at hdisk
    cases hdisk
    exact allows_own hvalid hmem
  · refine (hkept.retains.moved hdrawn hchosen.moved).next ?_ ?_
    · intro simulatorId hid
      rcases List.mem_append.mp hid with hrebound | hpending
      · change simulatorId ∈ (rebindAlias config _ _ _).simulatorIds at hrebound
        rw [rebindAlias_simulatorIds] at hrebound
        obtain ⟨old, hold, rfl⟩ := List.mem_map.mp hrebound
        split
        · exact hchosen.drawn
        · exact (hbound _ (List.mem_map_of_mem hold)).trans_le hlater
      · change simulatorId ∈ (_ : List SimulatorId).eraseDups at hpending
        rw [List.mem_eraseDups, List.mem_append, Option.mem_toList] at hpending
        rcases hpending with hlisted | hreplaced
        · exact (hkept.retains.drawn _ (List.mem_append_right _ hlisted)).trans_le hlater
        · have hcurrent := hchosen.replaced simulatorId hreplaced
          rw [Option.some_inj] at hcurrent
          rw [← hcurrent]
          exact (hbound _ (List.mem_map_of_mem hmem)).trans_le hlater
    · intro hnever simulatorId hid
      have hpending : ∀ other,
          other ∈ config.pendingRetirements ∨ provisioned.replacedSimulatorId = some other →
            other ∈ (config.pendingRetirements ++ provisioned.replacedSimulatorId.toList).eraseDups := by
        intro other hother
        rwa [List.mem_eraseDups, List.mem_append, Option.mem_toList]
      rcases List.mem_append.mp hid with hold | hlisted
      · obtain ⟨old, hmemOld, rfl⟩ := List.mem_map.mp hold
        by_cases hname : old.aliasName = hostAlias.aliasName
        · have hsame : old = hostAlias :=
            List.inj_on_of_nodup_map hread.valid.names hmemOld hmem hname
          rw [hsame]
          rcases hchosen.kept hnever _ rfl (hbound _ (List.mem_map_of_mem hmem)) with
            heq | hreplaced | habsent
          · rw [heq]
            exact .inl (List.mem_append_left _ (rebound_mem_simulatorIds hmem))
          · exact .inl (List.mem_append_right _ (hpending _ (.inr hreplaced)))
          · exact .inr habsent
        · exact .inl (List.mem_append_left _ (mem_rebindAlias_simulatorIds hmemOld hname))
      · exact .inl (List.mem_append_right _ (hpending _ (.inl hlisted)))
  · intro hkeeps hdistinct
    obtain ⟨hvalid, hnamed⟩ := sound_rebound hkeeps (hkept.sound hkeeps hdistinct) hmem hbound
      hchosen hversion
    exact ⟨hvalid, hnamed⟩

/-! ## The repair -/

theorem hosts_repairHostAlias (hdrawn : Drawn surroundings distinct world)
    (hread : ReadConfig world config) (hmem : hostAlias ∈ config.aliases) :
    Hosts surroundings distinct (repairHostAlias locale config hostAlias)
      (fun next after => Written surroundings distinct after next)
      (fun _ after => Drawn surroundings distinct after) world := by
  unfold repairHostAlias
  have hkept := Kept.read hdrawn hread
  have hallows : ∀ disk, world.store.hostConfig = some disk → Allows disk
      (some (hostAlias.simulatorId, (repairTemplate config hostAlias).simulatorName)) := by
    intro disk hdisk
    obtain ⟨read, hsome, hvalid, rfl⟩ := hread
    rw [hsome] at hdisk
    cases hdisk
    exact allows_own hvalid hmem
  refine .seq (hosts_ensureAliasSimulator hdrawn ?_ fun _ _ => hallows) ?_ ?_
  · rintro simulatorId ⟨⟩
    exact hkept.retains.drawn _ (List.mem_append_left _ (List.mem_map_of_mem hmem))
  · exact fun _ _ hmoved => hdrawn.moved hmoved fun _ _ => hallows
  rintro provisioned chosen ⟨hchosen, hversion⟩
  have hrebound := kept_rebound hdrawn hread hmem hchosen hversion
  refine .seq ((hosts_writeJsonAtomicDurable hrebound).tryCatch ?_) (fun _ _ h => h) ?_
  · intro error failed hfailed
    have hthrow : ∀ {before : World}, Drawn surroundings distinct before →
        Hosts surroundings distinct (throw error : Broker Unit)
          (fun _ after => Written surroundings distinct after
            (hostConfigWithPendingRetirements
              (rebindAlias config hostAlias.aliasName provisioned.simulatorId
                provisioned.iosVersion)
              (config.pendingRetirements ++ provisioned.replacedSimulatorId.toList).eraseDups))
          (fun _ after => Drawn surroundings distinct after) before := fun hbefore => .throw hbefore
    split
    · exact .seq (keeps_of_hostless hfailed.drawn (hostless_ignoringErrors
        (.bind (hostless_perform rfl) fun _ => hostless_perform rfl))) (fun _ _ h => h)
        fun _ _ h => hthrow h
    · exact hthrow hfailed.drawn
  rintro - written hwritten
  have hpending := fun simulatorId hid => hwritten.retains.drawn simulatorId
    (List.mem_append_right _ hid)
  refine .seq (hosts_retirePendingHostSimulators hwritten.drawn hpending)
    (fun _ _ h => hwritten.drawn.onward h) ?_
  rintro failedRetirements retired ⟨honward, hretired⟩
  have hrest : Kept surroundings distinct retired _ :=
    (hwritten.toKept.onward honward).pending
      (fun simulatorId hid => (hpending simulatorId (hretired.pending simulatorId hid)).trans_le
        honward.later.nextDevice)
      hretired.kept
  refine .seq (hosts_writeJsonAtomicDurable hrest) (fun _ _ h => h.drawn) ?_
  exact fun _ _ h => .pure h

end SimulatorBroker.Hosting
