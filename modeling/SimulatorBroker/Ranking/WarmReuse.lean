import Mathlib.Data.Prod.Lex
import SimulatorBroker.Broker.Acquire
import SimulatorBroker.Effects.Frame
import SimulatorBroker.State.Truthful

/-!
# Warm reuse

The alias that an acquire selects, among the candidates available for its purpose.
-/

namespace SimulatorBroker.Ranking

open SimulatorBroker.Effects
open SimulatorBroker.State
open SimulatorBroker.Broker

/-! ## The order of the candidates -/

/-- Every available candidate of the tier has been released before. -/
def Warm (available : List Candidate) (tier : Nat) : Prop :=
  ∀ candidate ∈ available, candidate.tier = tier → candidate.entry.lastLeaseReleasedAt.isSome

/-- By tier; in a tier whose candidates were all released before, by the latest release;
else, and between equal release times, by configured position. -/
inductive Precedes (available : List Candidate) (left right : Candidate) : Prop where
  | tier (lower : left.tier < right.tier)
  | recency (same : left.tier = right.tier) (warm : Warm available left.tier)
      {leftAt rightAt : Timestamp} (leftReleased : left.entry.lastLeaseReleasedAt = some leftAt)
      (rightReleased : right.entry.lastLeaseReleasedAt = some rightAt) (later : rightAt < leftAt)
  | tied (same : left.tier = right.tier) (warm : Warm available left.tier)
      (released : left.entry.lastLeaseReleasedAt = right.entry.lastLeaseReleasedAt)
      (before : left.index < right.index)
  | cold (same : left.tier = right.tier) (cold : ¬ Warm available left.tier)
      (before : left.index < right.index)

variable {available : List Candidate} {left middle right : Candidate}

theorem tierHasCompleteReleaseTimes_iff {tier : Nat} :
    tierHasCompleteReleaseTimes available tier = true ↔ Warm available tier := by
  simp only [tierHasCompleteReleaseTimes, List.all_eq_true, Bool.or_eq_true, decide_eq_true_eq,
    Warm]
  constructor
  · intro hall candidate hmem htier
    exact (hall candidate hmem).resolve_left (not_not.mpr htier)
  · intro hwarm candidate hmem
    by_cases htier : candidate.tier = tier
    · exact .inr (hwarm candidate hmem htier)
    · exact .inl htier

/-- What the sort leaves behind a candidate does not precede it. -/
theorem not_precedes_of_notAfter (hnotAfter : Candidate.notAfter available left right = true) :
    ¬ Precedes available right left := by
  unfold Candidate.notAfter at hnotAfter
  rintro (hlower | ⟨hsame, hwarm, hrightAt, hleftAt, hlater⟩ |
    ⟨hsame, hwarm, hreleased, hbefore⟩ | ⟨hsame, hcold, hbefore⟩)
  · rw [if_pos (Nat.ne_of_gt hlower)] at hnotAfter
    have hlt := of_decide_eq_true hnotAfter
    omega
  · rw [if_neg (not_not.mpr hsame.symm)] at hnotAfter
    have hcomplete := tierHasCompleteReleaseTimes_iff.mpr (hsame ▸ hwarm)
    simp only [hleftAt, hrightAt, Option.getD_some] at hnotAfter
    rw [if_pos ⟨hcomplete, Nat.ne_of_lt hlater⟩] at hnotAfter
    exact lt_asymm hlater (of_decide_eq_true hnotAfter)
  · rw [if_neg (not_not.mpr hsame.symm)] at hnotAfter
    simp only [hreleased, ne_eq, not_true_eq_false, and_false, if_false] at hnotAfter
    have hle := of_decide_eq_true hnotAfter
    omega
  · rw [if_neg (not_not.mpr hsame.symm)] at hnotAfter
    have hincomplete : ¬ tierHasCompleteReleaseTimes available left.tier = true := fun h =>
      hcold (hsame ▸ tierHasCompleteReleaseTimes_iff.mp h)
    rw [if_neg fun h => hincomplete h.1] at hnotAfter
    have hle := of_decide_eq_true hnotAfter
    omega

/-! ## The sort -/

/-- The place of a candidate: tier, release time where it counts, position. -/
def place (available : List Candidate) (candidate : Candidate) : ℕ ×ₗ ℕᵒᵈ ×ₗ ℕ :=
  toLex (candidate.tier, toLex (OrderDual.toDual
    (if tierHasCompleteReleaseTimes available candidate.tier = true then
      candidate.entry.lastLeaseReleasedAt.getD 0 else 0), candidate.index))

theorem notAfter_iff_place :
    Candidate.notAfter available left right = true ↔
      place available left ≤ place available right := by
  unfold Candidate.notAfter place
  simp only [Prod.Lex.toLex_le_toLex]
  by_cases htier : left.tier = right.tier
  · rw [if_neg (not_not.mpr htier), htier]
    by_cases hcomplete : tierHasCompleteReleaseTimes available right.tier = true
    · simp only [hcomplete, if_true, true_and, lt_irrefl, false_or, OrderDual.toDual_lt_toDual,
        OrderDual.toDual_inj]
      split
      · rename_i hne
        simp [hne]
      · rename_i heq
        simp [not_not.mp heq]
    · simp [hcomplete]
  · simp [htier]

/-- The candidate that is sorted first is preceded by none. -/
theorem not_precedes_first {selected : Candidate} {rest : List Candidate}
    (hsorted : sortCandidates available = selected :: rest) :
    ∀ other ∈ available, ¬ Precedes available other selected := by
  have hpairwise : (sortCandidates available).Pairwise fun left right =>
      place available left ≤ place available right := by
    have hsame : sortCandidates available = available.insertionSort fun left right =>
        place available left ≤ place available right := by
      simp only [sortCandidates, notAfter_iff_place]
    rw [hsame]
    exact List.pairwise_insertionSort _ _
  intro other hother
  have hmem : other ∈ sortCandidates available := by
    rw [sortCandidates, List.mem_insertionSort]
    exact hother
  rw [hsorted] at hpairwise hmem
  refine not_precedes_of_notAfter (notAfter_iff_place.mpr ?_)
  rcases List.mem_cons.mp hmem with rfl | hrest
  · exact le_rfl
  · exact List.rel_of_pairwise_cons hpairwise hrest

/-! ## The selection -/

/-- The candidates that nothing keeps from being selected. -/
def availableCandidates (state : BrokerState) (purpose : Purpose) (project : ProjectConfig)
    (explicitAlias : Option AliasName) : List Candidate :=
  (buildCandidateAnalysis state purpose project explicitAlias).filter fun candidate =>
    candidate.reasons.isEmpty

section Selection

variable {surroundings : Surroundings} {paths : BrokerPaths} {options : AcquireOptions}
  {timestamp : Timestamp} {world after : World}

/-- A selection takes the first of the sorted candidates. -/
theorem wp_acquireSelection :
    wp (brokerHandler surroundings) (fun _ _ => True) (acquireSelection paths options timestamp)
      (fun selection _ => ∃ rest, sortCandidates (availableCandidates selection.state
        selection.purpose selection.project options.aliasName) = selection.selected :: rest)
      (fun _ _ => True) world := by
  unfold acquireSelection
  refine (wp_anything _).seq (fun _ _ _ => trivial) fun state loaded _ => ?_
  refine (wp_anything _).seq (fun _ _ _ => trivial) fun project read _ => ?_
  refine (wp_anything _).seq (fun _ _ _ => trivial) fun knownProjects remembered _ => ?_
  refine (wp_anything _).seq (fun _ _ _ => trivial) fun purpose found _ => ?_
  dsimp only
  split
  · exact trivial
  · rename_i selected rest hsorted
    exact ⟨rest, hsorted⟩

theorem Precedes.of_same_tier {others : List Candidate}
    (hsame : ∀ candidate, candidate.tier = left.tier →
      (candidate ∈ available ↔ candidate ∈ others))
    (hprecedes : Precedes available left right) : Precedes others left right := by
  have hwarm : Warm available left.tier ↔ Warm others left.tier := by
    constructor
    · exact fun h candidate hmem htier => h candidate ((hsame candidate htier).mpr hmem) htier
    · exact fun h candidate hmem htier => h candidate ((hsame candidate htier).mp hmem) htier
  cases hprecedes with
  | tier hlower => exact .tier hlower
  | recency htier hcomplete hleft hright hlater =>
      exact .recency htier (hwarm.mp hcomplete) hleft hright hlater
  | tied htier hcomplete hreleased hbefore =>
      exact .tied htier (hwarm.mp hcomplete) hreleased hbefore
  | cold htier hcold hbefore => exact .cold htier (fun h => hcold (hwarm.mpr h)) hbefore

/-- A candidate of another tier changes nothing between two candidates. -/
theorem precedes_insert {before rest : List Candidate} {extra : Candidate}
    (hother : extra.tier ≠ left.tier) :
    Precedes (before ++ extra :: rest) left right ↔ Precedes (before ++ rest) left right := by
  have hsame : ∀ candidate : Candidate, candidate.tier = left.tier →
      (candidate ∈ before ++ extra :: rest ↔ candidate ∈ before ++ rest) := by
    intro candidate htier
    have hne : candidate ≠ extra := fun heq => hother (heq ▸ htier)
    simp [hne]
  exact ⟨.of_same_tier hsame, .of_same_tier fun candidate htier => (hsame candidate htier).symm⟩

/-- No available candidate precedes the one that an acquire selects. -/
theorem selected_first {selection : AcquireSelection}
    (hsteps : Steps (brokerHandler surroundings) (acquireSelection paths options timestamp) world
      (.done selection) after)
    {available : List Candidate}
    (havailable : available = availableCandidates selection.state selection.purpose
      selection.project options.aliasName) :
    selection.selected ∈ available ∧
      (∀ other ∈ available, ¬ Precedes available other selection.selected) ∧
      ∀ before rest extra, available = before ++ extra :: rest →
        ∀ left right : Candidate, extra.tier ≠ left.tier →
          (Precedes available left right ↔ Precedes (before ++ rest) left right) := by
  obtain ⟨rest, hsorted⟩ := wp_acquireSelection.returned hsteps
  rw [← havailable] at hsorted
  refine ⟨?_, not_precedes_first hsorted, ?_⟩
  · have hmem : selection.selected ∈ sortCandidates available := by
      rw [hsorted]
      exact List.mem_cons_self
    rwa [sortCandidates, List.mem_insertionSort] at hmem
  · rintro before rest extra rfl left right hother
    exact precedes_insert hother

end Selection

def selectScript : Script where
  project := buildProject

def buildAlias (name : AliasName) (simulatorId : SimulatorId) : HostAlias where
  aliasName := name
  capabilities := ["build-fast"]
  deviceFamily := .iPhone
  displayName := name
  iosVersion := "18.0"
  resetPolicy := .none
  simulatorId

/-- Three aliases of one tier, released at the given times. -/
def threeSlots (released : AliasName → Option Timestamp) : World where
  store := {
    hostConfig := some {
      hostId := "mac"
      aliases := [buildAlias "ui-1" 0, buildAlias "ui-2" 1, buildAlias "ui-3" 2] }
    registry := some {
      aliases := fun name => some { lastLeaseReleasedAt := released name } } }
  outside := {
    nextDevice := 3
    devices := [("ui-1", 0), ("ui-2", 1), ("ui-3", 2)].map fun slot => {
      udid := slot.2, deviceTypeIdentifier := "iPhone-16", name := slot.1
      runtimeIdentifier := "iOS-18-0" }
    deviceTypes := [{ identifier := "iPhone-16", name := "iPhone 16", productFamily := some .iPhone }]
    runtimes := [{ identifier := "iOS-18-0", version := some "18.0" }] }

/-- All three were released, the last one latest. -/
def allReleased (name : AliasName) : Option Timestamp :=
  if name = "ui-1" then some 1 else if name = "ui-2" then some 2 else some 3

/-- The second one was never released. -/
def oneNeverReleased (name : AliasName) : Option Timestamp :=
  if name = "ui-2" then none else allReleased name

/-- What an acquire on the three aliases selects. -/
def selectionOf (released : AliasName → Option Timestamp) :
    Except BrokerError AcquireSelection × World :=
  (acquireSelection {} { purposeId := "tests", ownerPid := 100 } 0).run
    selectScript.respond 0 (threeSlots released)

/-- What an acquire on the three aliases selects, of how many, in which world it ends. -/
theorem selects_threeSlots (released : AliasName → Option Timestamp) (name : AliasName)
    (hselects : (selectionOf released).1.toOption.map (fun selection =>
      (selection.selected.hostAlias.aliasName, (availableCandidates selection.state
        selection.purpose selection.project none).length)) = some (name, 3)) :
    ∃ (selection : AcquireSelection) (after : World),
      Steps (brokerHandler .arbitrary)
        (acquireSelection {} { purposeId := "tests", ownerPid := 100 } 0) (threeSlots released)
        (.done selection) after ∧
      selection.selected.hostAlias.aliasName = name ∧
      (availableCandidates selection.state selection.purpose selection.project none).length = 3 := by
  have hsteps := selectScript.sound_respond.run_steps
    (acquireSelection {} { purposeId := "tests", ownerPid := 100 } 0) 0 (threeSlots released)
  cases houtcome : (selectionOf released).1 with
  | error error =>
      rw [houtcome] at hselects
      cases hselects
  | ok selection =>
      rw [houtcome] at hselects
      obtain ⟨rfl, hlength⟩ := Prod.mk.inj (Option.some.inj hselects)
      change (Program.run _ _ _ _).1 = _ at houtcome
      rw [houtcome] at hsteps
      exact ⟨selection, _, hsteps, rfl, hlength⟩

/-- Of three aliases the one released last is selected, and the first one where another
was never released; no other precedes it. -/
theorem selected_first_threeSlots :
    (∃ (selection : AcquireSelection) (after : World),
      Steps (brokerHandler .arbitrary)
        (acquireSelection {} { purposeId := "tests", ownerPid := 100 } 0)
        (threeSlots allReleased) (.done selection) after ∧
      selection.selected.hostAlias.aliasName = "ui-3" ∧
      (availableCandidates selection.state selection.purpose selection.project none).length = 3 ∧
      ∀ other ∈ availableCandidates selection.state selection.purpose selection.project none,
        ¬ Precedes (availableCandidates selection.state selection.purpose selection.project none)
          other selection.selected) ∧
    ∃ (selection : AcquireSelection) (after : World),
      Steps (brokerHandler .arbitrary)
        (acquireSelection {} { purposeId := "tests", ownerPid := 100 } 0)
        (threeSlots oneNeverReleased) (.done selection) after ∧
      selection.selected.hostAlias.aliasName = "ui-1" ∧
      (availableCandidates selection.state selection.purpose selection.project none).length = 3 ∧
      ∀ other ∈ availableCandidates selection.state selection.purpose selection.project none,
        ¬ Precedes (availableCandidates selection.state selection.purpose selection.project none)
          other selection.selected := by
  constructor
  · obtain ⟨selection, after, hsteps, hname, hlength⟩ :=
      selects_threeSlots allReleased "ui-3" (by decide +kernel)
    exact ⟨selection, after, hsteps, hname, hlength, (selected_first hsteps rfl).2.1⟩
  · obtain ⟨selection, after, hsteps, hname, hlength⟩ :=
      selects_threeSlots oneNeverReleased "ui-1" (by decide +kernel)
    exact ⟨selection, after, hsteps, hname, hlength, (selected_first hsteps rfl).2.1⟩

/-! ## A tier with a candidate that was never released -/

/-- By tier, then by the latest release with those never released last, then by position. -/
def PrecedesByRelease (left right : Candidate) : Prop :=
  left.tier < right.tier ∨ left.tier = right.tier ∧
    ((∃ leftAt, left.entry.lastLeaseReleasedAt = some leftAt ∧
        ∀ rightAt, right.entry.lastLeaseReleasedAt = some rightAt → rightAt < leftAt) ∨
      left.entry.lastLeaseReleasedAt = right.entry.lastLeaseReleasedAt ∧ left.index < right.index)

/-- The second of three aliases was never released, the third one last. -/
def mixedState : BrokerState where
  hostConfig := {
    hostId := "mac", aliases := [buildAlias "ui-1" 0, buildAlias "ui-2" 1, buildAlias "ui-3" 2] }
  knownProjects := []
  leases := []
  leasesByAlias _ := none
  pins := []
  pinsByAlias _ := none
  registry := {
    aliases := fun name =>
      if name = "ui-1" then some { lastLeaseReleasedAt := some 1 }
      else if name = "ui-2" then some {}
      else if name = "ui-3" then some { lastLeaseReleasedAt := some 2 }
      else none }
  timestamp := 3

/-- The latest release does not decide in every tier. -/
theorem not_first_by_release : ¬ ∀ (state : BrokerState) (purpose : Purpose)
    (project : ProjectConfig) (selected : Candidate) (rest : List Candidate),
    sortCandidates (availableCandidates state purpose project none) = selected :: rest →
    ∀ other ∈ availableCandidates state purpose project none,
      ¬ PrecedesByRelease other selected := by
  intro hfirst
  have hpreceded := hfirst mixedState { id := "tests", capability := "build-fast" } buildProject
    { hostAlias := buildAlias "ui-1" 0, index := 0, pin := none, reasons := []
      entry := { lastLeaseReleasedAt := some 1 } } _ rfl
    { hostAlias := buildAlias "ui-3" 2, index := 2, pin := none, reasons := []
      entry := { lastLeaseReleasedAt := some 2 } } (List.mem_of_getElem? (i := 2) rfl)
  exact hpreceded (.inr ⟨rfl, .inl ⟨2, rfl, by rintro rightAt ⟨⟩; decide⟩⟩)

end SimulatorBroker.Ranking
