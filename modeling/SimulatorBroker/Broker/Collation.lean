import SimulatorBroker.Ranking.First
import SimulatorBroker.State.Processes

/-!
# The order of texts

`localeCompare` ranks texts by the collation of the locale the process runs in. Which one that
is the broker leaves open; it relies on a total preorder.
-/

namespace SimulatorBroker.Broker

open State Ranking

/-- The collation of a locale, plain and with `numeric: true`. -/
structure Collation where
  localeCompare : String → String → Ordering
  localeCompareNumeric : String → String → Ordering
  transCmp : Std.TransCmp localeCompare
  transCmpNumeric : Std.TransCmp localeCompareNumeric

namespace Collation

instance (locale : Collation) : Std.TransCmp locale.localeCompare :=
  locale.transCmp

instance (locale : Collation) : Std.TransCmp locale.localeCompareNumeric :=
  locale.transCmpNumeric

/-- Of these texts no two different ones compare equal. -/
def Distinguishes (locale : Collation) (texts : List String) : Prop :=
  ∀ left ∈ texts, ∀ right ∈ texts, locale.localeCompare left right = .eq → left = right

theorem Distinguishes.mono {locale : Collation} {texts part : List String}
    (hdistinct : locale.Distinguishes texts) (hpart : part ⊆ texts) : locale.Distinguishes part :=
  fun left hleft right hright => hdistinct left (hpart hleft) right (hpart hright)

/-! ## The root locale -/

/-- Digits come before letters and behind the rest; letters compare without regard to case. -/
def collationKey (char : Char) : Nat × Nat :=
  if char.isAlpha then (2, char.toLower.toNat)
  else if char.isDigit then (1, digitsValue [char])
  else (0, char.toNat)

/-- A run of digits has one key, its value. -/
def numericKeys : List Char → List (Nat × Nat)
  | [] => []
  | char :: rest =>
      if char.isDigit then
        match numericKeys rest, rest.head?.any Char.isDigit with
        | _ :: keys, true => (1, digitsValue ((char :: rest).takeWhile Char.isDigit)) :: keys
        | keys, _ => (1, digitsValue [char]) :: keys
      else collationKey char :: numericKeys rest

def compareKeys : List (Nat × Nat) → List (Nat × Nat) → Ordering :=
  List.compareLex fun left right => (compare left.1 right.1).then (compare left.2 right.2)

/-- Of two texts with the same keys the one with the lower-case letter comes first. -/
def compareCase (left right : String) : Ordering :=
  compare (right.toList.map Char.toNat) (left.toList.map Char.toNat)

instance : Std.TransCmp compareKeys := by
  have hkey : Std.TransCmp fun left right : Nat × Nat =>
      (compare left.1 right.1).then (compare left.2 right.2) :=
    transCmp_then (transCmp_on Prod.fst) (transCmp_on Prod.snd)
  unfold compareKeys
  infer_instance

instance : Std.TransCmp compareCase :=
  transCmp_falling fun text : String => text.toList.map Char.toNat

/-- The root collation on letters, digits, blanks, hyphens and full stops. -/
def root : Collation where
  localeCompare left right :=
    (compareKeys (left.toList.map collationKey) (right.toList.map collationKey)).then
      (compareCase left right)
  localeCompareNumeric left right :=
    (compareKeys (numericKeys left.toList) (numericKeys right.toList)).then
      (compareCase left right)
  transCmp :=
    transCmp_then (transCmp_on fun text : String => text.toList.map collationKey) inferInstance
  transCmpNumeric :=
    transCmp_then (transCmp_on fun text : String => numericKeys text.toList) inferInstance

theorem distinguishes_root (texts : List String) : root.Distinguishes texts := by
  intro left _ right _ heq
  have hcase : compareCase left right = .eq := (Ordering.then_eq_eq.mp heq).2
  unfold compareCase at hcase
  rw [Std.LawfulEqCmp.compare_eq_iff_eq] at hcase
  exact (String.toList_inj.mp
    (List.map_injective_iff.mpr (fun _ _ => Char.toNat_inj.mp) hcase)).symm

example : root.localeCompare "iPad-mini" "iPad-Pro" = .lt := by decide +kernel

end Collation

end SimulatorBroker.Broker
