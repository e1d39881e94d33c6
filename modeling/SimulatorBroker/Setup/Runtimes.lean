import SimulatorBroker.Capacity.Provisioning

/-!
# The runtime of a setup

A setup takes the preferred runtime that supplies both device families.
-/

namespace SimulatorBroker.Setup

open State Broker Capacity

/-- Both families of `compatibleSetupDeviceTypes`. -/
def suppliesBothFamilies (runtime : Runtime) (inventory : SimctlInventory) : Bool :=
  runtimeSuppliesDeviceFamily runtime inventory .iPhone
    && runtimeSuppliesDeviceFamily runtime inventory .iPad

/-- `runtimesByIdentifier`: of one identifier the preferred record is kept, in the place of
the first. -/
def keepPreferredRuntime (locale : Collation) (kept : List Runtime) (runtime : Runtime) : List Runtime :=
  if kept.any fun existing => existing.identifier = runtime.identifier then
    kept.map fun existing =>
      if existing.identifier = runtime.identifier ∧ compareSetupRuntimes locale runtime existing = .lt
      then runtime
      else existing
  else kept ++ [runtime]

/-- The runtimes that could serve a setup. -/
def setupRuntimes (inventory : SimctlInventory) (requestedVersion : String) : List Runtime :=
  inventory.runtimes.filter fun runtime =>
    isAvailableIosRuntime runtime && runtimeMatchesRequestedVersion runtime requestedVersion
      && suppliesBothFamilies runtime inventory

def setupRuntimeNotFound (requestedVersion : String) : BrokerError :=
  .broker .runtimeNotFound ("No available iOS runtime" ++
    (if requestedVersion = "" then "" else " matching " ++ requestedVersion) ++
    " supports both iPhone and iPad setup devices.")

/-- The empty version is that of a setup without one. -/
def selectRuntimeForSetup (locale : Collation) (inventory : SimctlInventory)
    (requestedVersion : String) : Except BrokerError Runtime :=
  match ((setupRuntimes inventory requestedVersion).foldl (keepPreferredRuntime locale) []).insertionSort
      fun left right => compareSetupRuntimes locale left right ≠ .gt with
  | [] => .error (setupRuntimeNotFound requestedVersion)
  | runtime :: _ => .ok runtime

theorem mem_keepPreferredRuntime {kept : List Runtime} {runtime chosen : Runtime}
    (hmem : chosen ∈ keepPreferredRuntime locale kept runtime) : chosen ∈ kept ∨ chosen = runtime := by
  unfold keepPreferredRuntime at hmem
  split at hmem
  · obtain ⟨existing, hexisting, heq⟩ := List.mem_map.mp hmem
    split at heq
    · exact .inr heq.symm
    · exact .inl (heq ▸ hexisting)
  · simpa using hmem

theorem mem_foldl_keepPreferredRuntime {runtimes kept : List Runtime} {chosen : Runtime}
    (hmem : chosen ∈ runtimes.foldl (keepPreferredRuntime locale) kept) :
    chosen ∈ kept ∨ chosen ∈ runtimes := by
  induction runtimes generalizing kept with
  | nil => exact .inl hmem
  | cons runtime rest ih =>
      rcases ih hmem with hkept | hrest
      · rcases mem_keepPreferredRuntime hkept with hbefore | rfl
        · exact .inl hbefore
        · exact .inr List.mem_cons_self
      · exact .inr (List.mem_cons_of_mem _ hrest)

/-- The selected runtime is one of those that could serve. -/
theorem selectRuntimeForSetup_mem {inventory : SimctlInventory} {requestedVersion : String}
    {runtime : Runtime} (hselected : selectRuntimeForSetup locale inventory requestedVersion = .ok runtime) :
    runtime ∈ setupRuntimes inventory requestedVersion := by
  unfold selectRuntimeForSetup at hselected
  split at hselected
  · cases hselected
  · rename_i first rest hsorted
    cases hselected
    have hmem : runtime ∈ ((setupRuntimes inventory requestedVersion).foldl
        (keepPreferredRuntime locale) []).insertionSort fun left right =>
          compareSetupRuntimes locale left right ≠ .gt := by
      rw [hsorted]
      exact List.mem_cons_self
    rw [List.mem_insertionSort] at hmem
    rcases mem_foldl_keepPreferredRuntime hmem with hnil | hmem
    · cases hnil
    · exact hmem

end SimulatorBroker.Setup
