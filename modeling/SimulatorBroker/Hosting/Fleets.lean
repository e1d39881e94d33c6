import Mathlib.Data.List.Perm.Basic
import SimulatorBroker.Hosting.Aliases

/-!
# New bindings

Simulators that are bound for the first time, each under the name of its alias:
as long as nothing else renames them, no two of them are the same.
-/

namespace SimulatorBroker.Hosting

open SimulatorBroker.Effects
open SimulatorBroker.State
open SimulatorBroker.Broker
open SimulatorBroker.Safety (ReadConfig)

/-- An alias and the simulator it is bound to. -/
abbrev Binding := AliasName × SimulatorId

def binding (hostAlias : HostAlias) : Binding :=
  (hostAlias.aliasName, hostAlias.simulatorId)

/-- Each simulator was drawn, is gone or bears the name of its alias, and is bound once. -/
structure Bears (surroundings : Surroundings) (world : World) (hostId : String)
    (bindings : List Binding) : Prop where
  drawn : ∀ bound ∈ bindings, bound.2 < world.outside.nextDevice
  named : KeepsNames surroundings → ∀ bound ∈ bindings, ∀ name,
    nameOf world.outside bound.2 = some name → name = simulatorDisplayName hostId bound.1
  simulators : KeepsNames surroundings → (bindings.map (·.2)).Nodup

variable {surroundings : Surroundings} {distinct : Prop} {world after : World} {hostId : String}
  {bindings : List Binding} {renamed : Option (SimulatorId × String)}

theorem Bears.nil : Bears surroundings world hostId [] := by
  constructor <;> simp

theorem Bears.moved (hbears : Bears surroundings world hostId bindings)
    (hmoved : Moved surroundings renamed world after)
    (hother : ∀ bound ∈ bindings, ∀ name, renamed ≠ some (bound.2, name)) :
    Bears surroundings after hostId bindings where
  drawn bound hmem := (hbears.drawn bound hmem).trans_le hmoved.later.nextDevice
  named hkeeps bound hmem name hname := by
    rcases hmoved.names hkeeps _ (hbears.drawn bound hmem) name hname with hbefore | hrenamed
    · exact hbears.named hkeeps bound hmem name hbefore
    · exact absurd hrenamed (hother bound hmem name)
  simulators := hbears.simulators

theorem Bears.onward (hbears : Bears surroundings world hostId bindings)
    (honward : Onward surroundings world after) : Bears surroundings after hostId bindings :=
  hbears.moved honward (by simp)

theorem Bears.perm {other : List Binding} (hbears : Bears surroundings world hostId bindings)
    (hperm : other.Perm bindings) : Bears surroundings world hostId other where
  drawn bound hmem := hbears.drawn bound (hperm.mem_iff.mp hmem)
  named hkeeps bound hmem := hbears.named hkeeps bound (hperm.mem_iff.mp hmem)
  simulators hkeeps := (hperm.map _).nodup_iff.mpr (hbears.simulators hkeeps)

/-- One more binding, of a simulator that is bound to no other alias. -/
theorem Bears.cons {name : AliasName} {simulatorId : SimulatorId}
    (hbears : Bears surroundings world hostId bindings)
    (hdrawn : simulatorId < world.outside.nextDevice)
    (hnamed : KeepsNames surroundings → ∀ last, nameOf world.outside simulatorId = some last →
      last = simulatorDisplayName hostId name)
    (hunbound : KeepsNames surroundings → ∀ bound ∈ bindings, bound.2 ≠ simulatorId) :
    Bears surroundings world hostId ((name, simulatorId) :: bindings) where
  drawn := List.forall_mem_cons.mpr ⟨hdrawn, hbears.drawn⟩
  named hkeeps := List.forall_mem_cons.mpr ⟨hnamed hkeeps, hbears.named hkeeps⟩
  simulators hkeeps := by
    refine List.nodup_cons.mpr ⟨?_, hbears.simulators hkeeps⟩
    rintro hmem
    obtain ⟨bound, hbound, hsame⟩ := List.mem_map.mp hmem
    exact hunbound hkeeps bound hbound hsame

/-- A simulator that bore the name of another alias is not bound. -/
theorem Bears.unbound {name : AliasName} {simulatorId : SimulatorId}
    (hbears : Bears surroundings world hostId bindings)
    (hfree : name ∉ bindings.map (·.1))
    (horigin : (KeepsNames surroundings → simulatorId < world.outside.nextDevice →
        nameOf world.outside simulatorId = some (simulatorDisplayName hostId name)) ∨
      world.outside.nextDevice ≤ simulatorId) :
    KeepsNames surroundings → ∀ bound ∈ bindings, bound.2 ≠ simulatorId := by
  rintro hkeeps bound hmem rfl
  rcases horigin with hname | hfresh
  · have hsame := hbears.named hkeeps bound hmem _ (hname hkeeps (hbears.drawn bound hmem))
    exact hfree (List.mem_map.mpr ⟨bound, hmem, (simulatorDisplayName_injective hsame).symm⟩)
  · exact absurd (hbears.drawn bound hmem) hfresh.not_gt

/-! ## A config of new bindings -/

/-- All that a reader checks of a config, but for its simulators. -/
structure Checked (config : HostConfig) : Prop where
  names : config.aliasNames.Nodup
  aliases : ∀ hostAlias ∈ config.aliases, hostAlias.Valid
  hostId : isNonEmptyString config.hostId = true
  policy : ∀ policy ∈ config.slotReclaim, policy.build.Valid ∧ policy.manual.Valid

theorem Bears.sound {config : HostConfig} (hkeeps : KeepsNames surroundings)
    (hchecked : Checked config)
    (hbears : Bears surroundings world config.hostId (config.aliases.map binding)) :
    Sound world.outside config := by
  refine ⟨⟨hchecked.names, ?_, hchecked.aliases, hchecked.hostId, hchecked.policy⟩, ?_⟩
  · have hsimulators := hbears.simulators hkeeps
    rwa [List.map_map] at hsimulators
  · intro hostAlias hmem name hname
    exact simulatorDisplayName_injective
      (hbears.named hkeeps (binding hostAlias) (List.mem_map_of_mem hmem) _ hname)

theorem Bears.bound_drawn {config : HostConfig}
    (hbears : Bears surroundings world hostId (config.aliases.map binding)) :
    ∀ simulatorId ∈ config.simulatorIds, simulatorId < world.outside.nextDevice := by
  intro simulatorId hmem
  obtain ⟨hostAlias, hhostAlias, rfl⟩ := List.mem_map.mp hmem
  exact hbears.drawn (binding hostAlias) (List.mem_map_of_mem hhostAlias)

end SimulatorBroker.Hosting
