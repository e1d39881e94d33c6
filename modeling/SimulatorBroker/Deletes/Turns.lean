import SimulatorBroker.Deletes.Records
import SimulatorBroker.Safety.Delete

/-!
# The turns of a purpose delete

What holds between two turns: the host config on disk is without the aliases that were
deleted, the one in memory is also without those whose removal could not be written.
-/

namespace SimulatorBroker.Deletes

open SimulatorBroker.Effects
open SimulatorBroker.State
open SimulatorBroker.Broker

/-! ## What a delete may touch -/

/-- The alias is a structural match of the purpose. -/
def Matches (project : ProjectConfig) (purposeId : PurposeId) (hostAlias : HostAlias) : Prop :=
  ∃ purpose, project.purposes.find? (fun purpose => purpose.id = purposeId) = some purpose ∧
    structuralCapacityMatches hostAlias purpose = true

/-- The simulator that an operation changes. -/
def changedSimulator : BrokerOp → Option SimulatorId
  | .renameDevice simulatorId _ | .shutdownDevice simulatorId _ | .eraseDevice simulatorId _
  | .deleteDevice simulatorId _ | .bootDevice simulatorId => some simulatorId
  | _ => none

/-- Only the simulators of structural matches whose cause triggers a delete are changed. -/
def ChangesMatches (project : ProjectConfig) (purposeId : PurposeId) (first : Records)
    (op : BrokerOp) (world : World) : Prop :=
  ∀ simulatorId, changedSimulator op = some simulatorId →
    ∃ hostAlias, first.hostAlias hostAlias.aliasName = some hostAlias ∧
      hostAlias.simulatorId = simulatorId ∧ Matches project purposeId hostAlias ∧
      ((recordsOf world).entry hostAlias.aliasName).any deleteTriggered = true

theorem changesMatches_of_none {project : ProjectConfig} {purposeId : PurposeId} {first : Records}
    {op : BrokerOp} {world : World} (hop : changedSimulator op = none) :
    ChangesMatches project purposeId first op world := by
  intro simulatorId hchanged
  rw [hop] at hchanged
  cases hchanged

theorem unguarded_changesMatches (project : ProjectConfig) (purposeId : PurposeId)
    (first : Records) : Unguarded (ChangesMatches project purposeId first) := by
  intro op world hfile
  refine changesMatches_of_none ?_
  cases op with
  | fs call => rfl
  | rename file => rfl
  | appendEvent event => rfl
  | _ => cases hfile

/-! ## Between two turns -/

theorem notMem_cons {other name : AliasName} {names : List AliasName} :
    other ∉ name :: names ↔ other ≠ name ∧ other ∉ names := by
  rw [List.mem_cons, not_or]

/-- The events of the call agree with what was counted. -/
structure EventsAgree (first now : Records) (counted : CountedAliases) : Prop where
  appended : ∃ events, now.events = first.events ++ events
  deleted : ∀ name ∈ counted.deleted,
    (first.eventsSince now).countP (eventOf .simulatorDeleted name) = 1
  others : ∀ name, name ∉ counted.deleted →
    ∀ event ∈ first.eventsSince now, eventOf .simulatorDeleted name event = false
  failures : ∀ name, name ∉ counted.failed →
    ∀ event ∈ first.eventsSince now, eventOf .simulatorDeleteFailed name event = false

/-- The candidates to come, and what the turns so far have left. -/
structure Turning (project : ProjectConfig) (purposeId : PurposeId) (first : Records)
    (original : HostConfig) (loaded : BrokerState) (rest : List Candidate) (turn : CountedTurn)
    (now : Records) : Prop where
  disk : ∃ config, now.hostConfig = some config ∧
    config.aliases = original.aliases.filter fun hostAlias =>
      decide (hostAlias.aliasName ∉ turn.counted.deleted)
  memory : ∃ ahead : List AliasName, (∀ name ∈ ahead, name ∈ turn.counted.failed) ∧
    turn.progress.state.hostConfig.aliases = original.aliases.filter fun hostAlias =>
      decide (hostAlias.aliasName ∉ turn.counted.deleted ∧ hostAlias.aliasName ∉ ahead)
  entries : ∀ name ∈ original.aliasNames, name ∉ turn.counted.deleted →
    (now.entry name).isSome ∧ (turn.progress.state.entry name).isSome
  others : ∀ name, name ∉ turn.counted.deleted → name ∉ turn.counted.failed →
    now.entry name = loaded.entry name ∧ turn.progress.state.entry name = loaded.entry name
  events : EventsAgree first now turn.counted
  counted : ∀ name, name ∈ turn.counted.deleted ∨ name ∈ turn.counted.failed ∨
      name ∈ turn.counted.held →
    ∃ hostAlias ∈ original.aliases, hostAlias.aliasName = name ∧
      Matches project purposeId hostAlias ∧ (loaded.entry name).any deleteTriggered = true
  apart : ∀ name, name ∈ turn.counted.failed ∨ name ∈ turn.counted.held →
    name ∉ turn.counted.deleted
  distinct : (rest.map (·.hostAlias.aliasName)).Nodup
  fresh : ∀ candidate ∈ rest, candidate.hostAlias ∈ original.aliases ∧
    Matches project purposeId candidate.hostAlias ∧
    candidate.hostAlias.aliasName ∉ turn.counted.deleted ∧
    candidate.hostAlias.aliasName ∉ turn.counted.failed ∧
    candidate.hostAlias.aliasName ∉ turn.counted.held

section Turns

variable {project : ProjectConfig} {purposeId : PurposeId} {first now after : Records}
  {original : HostConfig} {loaded : BrokerState} {rest : List Candidate} {candidate : Candidate}
  {turn : CountedTurn} {name : AliasName} {event : Event}

/-- What was known of the candidates to come, after one of them was counted. -/
theorem Turning.fresh_tail
    (hturning : Turning project purposeId first original loaded (candidate :: rest) turn now) :
    (rest.map (·.hostAlias.aliasName)).Nodup ∧ ∀ other ∈ rest,
      other.hostAlias.aliasName ≠ candidate.hostAlias.aliasName := by
  have hdistinct := hturning.distinct
  rw [List.map_cons, List.nodup_cons] at hdistinct
  refine ⟨hdistinct.2, fun other hother hsame => hdistinct.1 ?_⟩
  exact hsame ▸ List.mem_map_of_mem (f := (·.hostAlias.aliasName)) hother

/-- A candidate that is passed over. -/
theorem Turning.skip
    (hturning : Turning project purposeId first original loaded (candidate :: rest) turn now) :
    Turning project purposeId first original loaded rest turn now where
  disk := hturning.disk
  memory := hturning.memory
  entries := hturning.entries
  others := hturning.others
  events := hturning.events
  counted := hturning.counted
  apart := hturning.apart
  distinct := hturning.fresh_tail.1
  fresh other hother := hturning.fresh other (List.mem_cons_of_mem _ hother)

/-- A candidate that is left to its holder. -/
theorem Turning.held
    (hturning : Turning project purposeId first original loaded (candidate :: rest) turn now)
    (htriggered : (turn.progress.state.entry candidate.hostAlias.aliasName).any deleteTriggered =
      true) {progress : DeleteProgress} (hstate : progress.state = turn.progress.state) :
    Turning project purposeId first original loaded rest
      { progress
        counted := { turn.counted with
          held := candidate.hostAlias.aliasName :: turn.counted.held } } now := by
  obtain ⟨horiginal, hmatches, hdeleted, hfailed, hheld⟩ :=
    hturning.fresh candidate List.mem_cons_self
  have hentry := (hturning.others _ hdeleted hfailed).2
  constructor
  · exact hturning.disk
  · simpa only [hstate] using hturning.memory
  · simpa only [hstate] using hturning.entries
  · simpa only [hstate] using hturning.others
  · exact ⟨hturning.events.appended, hturning.events.deleted, hturning.events.others,
      hturning.events.failures⟩
  · rintro name (hname | hname | hname)
    · exact hturning.counted name (.inl hname)
    · exact hturning.counted name (.inr (.inl hname))
    · rcases List.mem_cons.mp hname with rfl | hname
      · exact ⟨_, horiginal, rfl, hmatches, hentry ▸ htriggered⟩
      · exact hturning.counted name (.inr (.inr hname))
  · rintro name (hname | hname)
    · exact hturning.apart name (.inl hname)
    · rcases List.mem_cons.mp hname with rfl | hname
      · exact hdeleted
      · exact hturning.apart name (.inr hname)
  · exact hturning.fresh_tail.1
  · intro other hother
    obtain ⟨hmem, hothers, hnotDeleted, hnotFailed, hnotHeld⟩ :=
      hturning.fresh other (List.mem_cons_of_mem _ hother)
    refine ⟨hmem, hothers, hnotDeleted, hnotFailed, ?_⟩
    exact notMem_cons.mpr ⟨hturning.fresh_tail.2 other hother, hnotHeld⟩

/-! ## A failed turn -/

/-- What a failed delete leaves: the host config on disk, and all entries but one. -/
structure FailedTurn (state : BrokerState) (now : Records) (name : AliasName)
    (state' : BrokerState) (after : Records) : Prop where
  hostConfig : after.hostConfig = now.hostConfig
  aliases : state'.hostConfig = state.hostConfig ∨ state'.hostConfig = removeAlias state.hostConfig name
  entries : ∀ other, other ≠ name → state'.entry other = state.entry other
  entry : (state.entry name).isSome → (state'.entry name).isSome
  registry : after.registry = now.registry ∨ after.registry = some state'.registry
  events : after.events = now.events ∨ ∃ event, after.events = now.events ++ [event] ∧
    event.type = .simulatorDeleteFailed ∧ event.aliasName = some name

theorem eventsSince_append {events : List Event} (happended : ∃ new, now.events = first.events ++ new)
    (hevents : after.events = now.events ++ events) :
    first.eventsSince after = first.eventsSince now ++ events := by
  obtain ⟨new, hnew⟩ := happended
  simp [Records.eventsSince, hevents, hnew]

theorem FailedTurn.eventsAgree {state state' : BrokerState} {counted : CountedAliases}
    (hfailed : FailedTurn state now name state' after) (hagree : EventsAgree first now counted) :
    EventsAgree first after { counted with failed := name :: counted.failed } := by
  rcases hfailed.events with hsame | ⟨event, hevents, htype, hname⟩
  · have hsince : first.eventsSince after = first.eventsSince now := by
      simp only [Records.eventsSince, hsame]
    refine ⟨hsame ▸ hagree.appended, ?_, ?_, ?_⟩
    · rw [hsince]
      exact hagree.deleted
    · rw [hsince]
      exact hagree.others
    · rw [hsince]
      intro other hother
      exact hagree.failures other fun hmem => hother (List.mem_cons_of_mem _ hmem)
  · have hsince := eventsSince_append hagree.appended hevents
    have hnot : ∀ other, eventOf .simulatorDeleted other event = false := by
      intro other
      simp [eventOf, htype]
    constructor
    · obtain ⟨new, hnew⟩ := hagree.appended
      exact ⟨new ++ [event], by rw [hevents, hnew, List.append_assoc]⟩
    · intro other hother
      rw [hsince, List.countP_append, hagree.deleted other hother]
      simp [hnot]
    · intro other hother reported hmem
      rw [hsince] at hmem
      rcases List.mem_append.mp hmem with hmem | hmem
      · exact hagree.others other hother reported hmem
      · rw [List.mem_singleton.mp hmem]
        exact hnot other
    · intro other hother reported hmem
      obtain ⟨hne, hother⟩ := notMem_cons.mp hother
      rw [hsince] at hmem
      rcases List.mem_append.mp hmem with hmem | hmem
      · exact hagree.failures other hother reported hmem
      · rw [List.mem_singleton.mp hmem]
        simp [eventOf, hname, Ne.symm hne]

theorem Turning.failed
    (hturning : Turning project purposeId first original loaded (candidate :: rest) turn now)
    (htriggered : (turn.progress.state.entry candidate.hostAlias.aliasName).any deleteTriggered =
      true) {progress : DeleteProgress}
    (hfailed : FailedTurn turn.progress.state now candidate.hostAlias.aliasName progress.state
      after) :
    Turning project purposeId first original loaded rest
      { progress
        counted := { turn.counted with
          failed := candidate.hostAlias.aliasName :: turn.counted.failed } } after := by
  obtain ⟨horiginal, hmatches, hdeleted, hnotFailed, hheld⟩ :=
    hturning.fresh candidate List.mem_cons_self
  have hentry := (hturning.others _ hdeleted hnotFailed).2
  constructor
  · rw [hfailed.hostConfig]
    exact hturning.disk
  · obtain ⟨ahead, hahead, haliases⟩ := hturning.memory
    rcases hfailed.aliases with hsame | hremoved
    · exact ⟨ahead, fun name hname => List.mem_cons_of_mem _ (hahead name hname),
        hsame ▸ haliases⟩
    · refine ⟨candidate.hostAlias.aliasName :: ahead, fun name hname => ?_, ?_⟩
      · rcases List.mem_cons.mp hname with rfl | hname
        · exact List.mem_cons_self
        · exact List.mem_cons_of_mem _ (hahead name hname)
      · simp only [hremoved, removeAlias, haliases, List.filter_filter]
        refine List.filter_congr fun hostAlias _ => ?_
        rw [← Bool.decide_and, decide_eq_decide, List.mem_cons, not_or]
        tauto
  · intro name hname hnotDeleted
    obtain ⟨hdisk, hmemory⟩ := hturning.entries name hname hnotDeleted
    have hafter : (progress.state.entry name).isSome := by
      by_cases hsame : name = candidate.hostAlias.aliasName
      · subst hsame
        exact hfailed.entry hmemory
      · rw [hfailed.entries name hsame]
        exact hmemory
    refine ⟨?_, hafter⟩
    rcases hfailed.registry with hsame | hwritten
    · simpa only [Records.entry, hsame] using hdisk
    · rw [Records.entry, hwritten]
      exact hafter
  · intro name hnotDeleted hnotCounted
    obtain ⟨hne, hnotCounted⟩ := notMem_cons.mp hnotCounted
    obtain ⟨hdisk, hmemory⟩ := hturning.others name hnotDeleted hnotCounted
    have hafter : progress.state.entry name = loaded.entry name :=
      (hfailed.entries name hne).trans hmemory
    refine ⟨?_, hafter⟩
    rcases hfailed.registry with hsame | hwritten
    · simpa only [Records.entry, hsame] using hdisk
    · rw [Records.entry, hwritten]
      exact hafter
  · exact hfailed.eventsAgree hturning.events
  · rintro name (hname | hname | hname)
    · exact hturning.counted name (.inl hname)
    · rcases List.mem_cons.mp hname with rfl | hname
      · exact ⟨_, horiginal, rfl, hmatches, hentry ▸ htriggered⟩
      · exact hturning.counted name (.inr (.inl hname))
    · exact hturning.counted name (.inr (.inr hname))
  · rintro name (hname | hname)
    · rcases List.mem_cons.mp hname with rfl | hname
      · exact hdeleted
      · exact hturning.apart name (.inl hname)
    · exact hturning.apart name (.inr hname)
  · exact hturning.fresh_tail.1
  · intro other hother
    obtain ⟨hmem, hothers, hnotDeleted, hnotFailed, hnotHeld⟩ :=
      hturning.fresh other (List.mem_cons_of_mem _ hother)
    refine ⟨hmem, hothers, hnotDeleted, ?_, hnotHeld⟩
    exact notMem_cons.mpr ⟨hturning.fresh_tail.2 other hother, hnotFailed⟩

/-! ## A turn that deletes -/

/-- What a completed delete leaves; no other alias left the host config with it. -/
structure DeletedTurn (first : Records) (state : BrokerState) (now : Records) (name : AliasName)
    (state' : BrokerState) (after : Records) : Prop where
  memory : state'.hostConfig = removeAlias state.hostConfig name
  disk : after.hostConfig = some (removeAlias state.hostConfig name)
  entries : ∀ other, other ≠ name → state'.entry other = state.entry other
  registry : after.registry = some state'.registry
  events : ∃ event, after.events = now.events ++ [event] ∧ event.type = .simulatorDeleted ∧
    event.aliasName = some name
  alone : ∀ other, Unreported first { now with hostConfig := after.hostConfig } other → other = name

theorem DeletedTurn.eventsAgree {state state' : BrokerState} {counted : CountedAliases}
    (hdone : DeletedTurn first state now name state' after) (hname : name ∉ counted.deleted)
    (hagree : EventsAgree first now counted) :
    EventsAgree first after { counted with deleted := name :: counted.deleted } := by
  obtain ⟨event, hevents, htype, halias⟩ := hdone.events
  have hsince := eventsSince_append hagree.appended hevents
  have hnot : ∀ other, other ≠ name → eventOf .simulatorDeleted other event = false := by
    intro other hne
    simp [eventOf, halias, Ne.symm hne]
  constructor
  · obtain ⟨new, hnew⟩ := hagree.appended
    exact ⟨new ++ [event], by rw [hevents, hnew, List.append_assoc]⟩
  · intro other hother
    rw [hsince, List.countP_append]
    rcases List.mem_cons.mp hother with rfl | hother
    · rw [List.countP_eq_zero.mpr fun reported hmem => by
        rw [hagree.others other hname reported hmem]; exact Bool.false_ne_true]
      simp [eventOf, htype, halias]
    · have hne : other ≠ name := fun hsame => hname (hsame ▸ hother)
      rw [hagree.deleted other hother]
      simp [hnot other hne]
  · intro other hother reported hmem
    obtain ⟨hne, hother⟩ := notMem_cons.mp hother
    rw [hsince] at hmem
    rcases List.mem_append.mp hmem with hmem | hmem
    · exact hagree.others other hother reported hmem
    · rw [List.mem_singleton.mp hmem]
      exact hnot other hne
  · intro other hother reported hmem
    rw [hsince] at hmem
    rcases List.mem_append.mp hmem with hmem | hmem
    · exact hagree.failures other hother reported hmem
    · rw [List.mem_singleton.mp hmem]
      simp [eventOf, htype]

theorem Turning.deleted (hfirst : first.hostConfig = some original)
    (hturning : Turning project purposeId first original loaded (candidate :: rest) turn now)
    (htriggered : (turn.progress.state.entry candidate.hostAlias.aliasName).any deleteTriggered =
      true) {progress : DeleteProgress}
    (hdone : DeletedTurn first turn.progress.state now candidate.hostAlias.aliasName
      progress.state after) :
    Turning project purposeId first original loaded rest
      { progress
        counted := { turn.counted with
          deleted := candidate.hostAlias.aliasName :: turn.counted.deleted } } after := by
  obtain ⟨horiginal, hmatches, hdeleted, hnotFailed, hheld⟩ :=
    hturning.fresh candidate List.mem_cons_self
  have hentry := (hturning.others _ hdeleted hnotFailed).2
  obtain ⟨ahead, hahead, haliases⟩ := hturning.memory
  -- An alias whose removal could not be written would have left with this one.
  have hnone : ∀ hostAlias ∈ original.aliases,
      hostAlias.aliasName ∉ turn.counted.deleted → hostAlias.aliasName ∉ ahead := by
    intro hostAlias hmem hnotDeleted hmemAhead
    have hsame := hdone.alone hostAlias.aliasName ⟨?_, ?_, ?_⟩
    · exact hnotFailed (hsame ▸ hahead _ hmemAhead)
    · rw [Records.configuredAliases, hfirst]
      exact List.mem_map_of_mem (f := (·.aliasName)) hmem
    · simp only [Records.configuredAliases, hdone.disk, Option.map_some, Option.getD_some]
      rw [Safety.mem_aliasNames_removeAlias, HostConfig.aliasNames, haliases]
      rintro ⟨hleft, -⟩
      obtain ⟨other, hother, hname⟩ := List.mem_map.mp hleft
      have hkept := of_decide_eq_true (List.mem_filter.mp hother).2
      exact hkept.2 (hname ▸ hmemAhead)
    · exact hturning.events.others _ hnotDeleted
  have hremoved : (removeAlias turn.progress.state.hostConfig candidate.hostAlias.aliasName).aliases =
      original.aliases.filter fun hostAlias =>
        decide (hostAlias.aliasName ∉ candidate.hostAlias.aliasName :: turn.counted.deleted) := by
    simp only [removeAlias, haliases, List.filter_filter]
    refine List.filter_congr fun hostAlias hmem => ?_
    rw [← Bool.decide_and, decide_eq_decide, List.mem_cons, not_or]
    constructor
    · rintro ⟨hne, hkept, -⟩
      exact ⟨hne, hkept⟩
    · rintro ⟨hne, hkept⟩
      exact ⟨hne, hkept, hnone hostAlias hmem hkept⟩
  constructor
  · exact ⟨_, hdone.disk, hremoved⟩
  · refine ⟨[], by simp, ?_⟩
    rw [hdone.memory, hremoved]
    simp
  · intro name hname hnotDeleted
    obtain ⟨hne, hnotDeleted⟩ := notMem_cons.mp hnotDeleted
    have hmemory := (hturning.entries name hname hnotDeleted).2
    have hafter : (progress.state.entry name).isSome := by
      rw [hdone.entries name hne]
      exact hmemory
    exact ⟨by rw [Records.entry, hdone.registry]; exact hafter, hafter⟩
  · intro name hnotDeleted hnotCounted
    obtain ⟨hne, hnotDeleted⟩ := notMem_cons.mp hnotDeleted
    have hafter : progress.state.entry name = loaded.entry name :=
      (hdone.entries name hne).trans (hturning.others name hnotDeleted hnotCounted).2
    exact ⟨by rw [Records.entry, hdone.registry]; exact hafter, hafter⟩
  · exact hdone.eventsAgree hdeleted hturning.events
  · rintro name (hname | hname)
    · rcases List.mem_cons.mp hname with rfl | hname
      · exact ⟨_, horiginal, rfl, hmatches, hentry ▸ htriggered⟩
      · exact hturning.counted name (.inl hname)
    · exact hturning.counted name (.inr hname)
  · intro name hname
    refine notMem_cons.mpr ⟨?_, hturning.apart name hname⟩
    rintro rfl
    rcases hname with hname | hname
    · exact hnotFailed hname
    · exact hheld hname
  · exact hturning.fresh_tail.1
  · intro other hother
    obtain ⟨hmem, hothers, hnotDeleted, hnotCounted, hnotHeld⟩ :=
      hturning.fresh other (List.mem_cons_of_mem _ hother)
    refine ⟨hmem, hothers, ?_, hnotCounted, hnotHeld⟩
    exact notMem_cons.mpr ⟨hturning.fresh_tail.2 other hother, hnotDeleted⟩

end Turns

end SimulatorBroker.Deletes
