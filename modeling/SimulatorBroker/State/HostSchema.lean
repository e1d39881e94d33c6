import Mathlib.Algebra.GroupWithZero.Nat
import SimulatorBroker.State.Processes

/-!
# What a reader accepts of a host config

The checks of `validateHostConfig` on a decoded config.  Decoding trims every
text, and the device family, the reset policy and the simulator ids carry their
checks in their types.
-/

namespace SimulatorBroker.State

/-- `text.split(".")`. -/
def versionComponents (version : String) : List (List Char) :=
  version.toList.splitOn '.'

/-- The double next to an integer, ties to even; `2 ^ 1024` stands for `Infinity`. -/
def roundToDouble (value : Nat) : Nat :=
  if value < 2 ^ 53 then value
  else
    let unit := 2 ^ (value.log2 - 52)
    let quotient := value / unit
    let rest := value % unit
    let rounded :=
      if unit < 2 * rest ∨ unit = 2 * rest ∧ quotient % 2 = 1 then quotient + 1 else quotient
    min (rounded * unit) (2 ^ 1024)

/-- `Number(part)` of a digit string. -/
def digitsNumber (part : List Char) : Nat :=
  roundToDouble (digitsValue part)

example : digitsNumber "9007199254740993".toList = digitsNumber "9007199254740992".toList := by
  decide +kernel

/-- `/^\d+(?:\.\d+){0,2}$/`, split into its numbers. -/
def iosVersionComponents (version : String) : Option (List Nat) :=
  let parts := versionComponents version
  if parts.length ≤ 3 ∧ parts.all isDigits then some (parts.map digitsNumber) else none

/-- `requireString`. -/
def isNonEmptyString (text : String) : Bool :=
  decide (trimString text ≠ "")

/-- `isHostSchemaIosVersion`. -/
def isHostSchemaIosVersion (version : String) : Bool :=
  (iosVersionComponents version).isSome

/-- `validateHostAlias`. -/
def HostAlias.Valid (hostAlias : HostAlias) : Prop :=
  isNonEmptyString hostAlias.aliasName = true ∧ hostAlias.capabilities ≠ [] ∧
    (∀ capability ∈ hostAlias.capabilities, isNonEmptyString capability = true) ∧
      isNonEmptyString hostAlias.displayName = true ∧
        isHostSchemaIosVersion hostAlias.iosVersion = true

instance (hostAlias : HostAlias) : Decidable hostAlias.Valid :=
  inferInstanceAs (Decidable (_ ∧ _))

/-- `validateSlotReclaimClassPolicy`; `Number.MAX_SAFE_INTEGER` bounds the disk use. -/
def ReclaimClassPolicy.Valid (policy : ReclaimClassPolicy) : Prop :=
  (60 ≤ policy.maxAgeSeconds ∧ policy.maxAgeSeconds ≤ 31536000) ∧
    (1 ≤ policy.maxDiskBytes ∧ policy.maxDiskBytes ≤ 9007199254740991) ∧
      (1 ≤ policy.maxLeasesSinceErase ∧ policy.maxLeasesSinceErase ≤ 10000)

instance (policy : ReclaimClassPolicy) : Decidable policy.Valid :=
  inferInstanceAs (Decidable (_ ∧ _))

namespace HostConfig

/-- `validateHostConfig`. -/
def Valid (config : HostConfig) : Prop :=
  config.aliasNames.Nodup ∧ config.simulatorIds.Nodup ∧
    (∀ hostAlias ∈ config.aliases, hostAlias.Valid) ∧ isNonEmptyString config.hostId = true ∧
      ∀ policy ∈ config.slotReclaim, policy.build.Valid ∧ policy.manual.Valid

instance (config : HostConfig) : Decidable config.Valid :=
  inferInstanceAs (Decidable (_ ∧ _))

variable {config : HostConfig}

theorem Valid.names (hvalid : config.Valid) : config.aliasNames.Nodup := hvalid.1

theorem Valid.simulators (hvalid : config.Valid) : config.simulatorIds.Nodup := hvalid.2.1

theorem Valid.aliases (hvalid : config.Valid) : ∀ hostAlias ∈ config.aliases, hostAlias.Valid :=
  hvalid.2.2.1

end HostConfig

end SimulatorBroker.State
