import Mathlib.Data.List.Basic
import Mathlib.Data.List.Infix
import Mathlib.Tactic.Common

/-!
# Occurrences of one list in another

A search that goes on behind every occurrence it refuses sees the occurrences that are
counted from the left without overlaps, and no others.
-/

namespace SimulatorBroker.Text

variable {α : Type}

/-- The needle starts at this offset of the text. -/
def OccursAt (needle text : List α) (offset : Nat) : Prop :=
  needle <+: text.drop offset

/-- The first occurrence from the start on. -/
def FirstFrom (needle text : List α) (start offset : Nat) : Prop :=
  start ≤ offset ∧ OccursAt needle text offset ∧
    ∀ earlier, start ≤ earlier → earlier < offset → ¬ OccursAt needle text earlier

/-- One of the occurrences that are counted from the start on without overlaps. -/
inductive Counted (needle text : List α) : Nat → Nat → Prop where
  | here {start offset : Nat} (hfirst : FirstFrom needle text start offset) :
      Counted needle text start offset
  | later {start earlier offset : Nat} (hfirst : FirstFrom needle text start earlier)
      (hrest : Counted needle text (earlier + needle.length) offset) :
      Counted needle text start offset

variable {needle text : List α} {start offset : Nat}

theorem OccursAt.end_le (hoccurs : OccursAt needle text offset) (hneedle : needle ≠ []) :
    offset + needle.length ≤ text.length := by
  have hlength := List.IsPrefix.length_le hoccurs
  have hpositive := List.length_pos_of_ne_nil hneedle
  rw [List.length_drop] at hlength
  omega

/-- Two overlapping occurrences overlap the needle with itself. -/
theorem OccursAt.overlap {shift : Nat} (hfirst : OccursAt needle text offset)
    (hsecond : OccursAt needle text (offset + shift)) (hshift : shift ≤ needle.length) :
    needle.drop shift <+: needle := by
  obtain ⟨rest, hrest⟩ := hfirst
  have hdropped : needle.drop shift <+: text.drop (offset + shift) := by
    rw [← List.drop_drop, ← hrest, List.drop_append_of_le_length hshift]
    exact List.prefix_append _ _
  refine List.prefix_of_prefix_length_le hdropped hsecond ?_
  rw [List.length_drop]
  omega

/-- The unit of the text at a place inside an occurrence. -/
theorem OccursAt.getElem? (hoccurs : OccursAt needle text offset) {place : Nat}
    (hplace : place < needle.length) : text[offset + place]? = needle[place]? := by
  obtain ⟨rest, hrest⟩ := hoccurs
  rw [← List.getElem?_drop, ← hrest, List.getElem?_append_left hplace]

theorem Counted.occursAt (hcounted : Counted needle text start offset) :
    OccursAt needle text offset := by
  induction hcounted with
  | here hfirst => exact hfirst.2.1
  | later _ _ ih => exact ih

/-! ## The search -/

variable [DecidableEq α]

instance (needle text : List α) (offset : Nat) : Decidable (OccursAt needle text offset) :=
  inferInstanceAs (Decidable (_ <+: _))

/-- `text.indexOf(needle, start)`, for a needle that is not empty. -/
def indexOf (text needle : List α) (start : Nat) : Option Nat :=
  (List.range' start (text.length - start)).find? fun offset => OccursAt needle text offset

/-- The search from the start on, for so many occurrences. -/
def searchFrom (accepts : Nat → Bool) (text needle : List α) : Nat → Nat → Option Nat
  | 0, _ => none
  | fuel + 1, start =>
      match indexOf text needle start with
      | none => none
      | some offset =>
          if accepts offset then some offset
          else searchFrom accepts text needle fuel (offset + needle.length)

theorem indexOf_eq_some (hindex : indexOf text needle start = some offset) :
    FirstFrom needle text start offset := by
  unfold indexOf at hindex
  rw [List.find?_range'_eq_some] at hindex
  obtain ⟨hoccurs, hmem, hearlier⟩ := hindex
  refine ⟨(List.mem_range'_1.mp hmem).1, by simpa using hoccurs, fun earlier hstart hlt => ?_⟩
  simpa using hearlier earlier hstart hlt

theorem indexOf_of_occursAt (hneedle : needle ≠ []) (hstart : start ≤ offset)
    (hoccurs : OccursAt needle text offset) :
    ∃ first, indexOf text needle start = some first ∧ first ≤ offset := by
  have hlength := hoccurs.end_le hneedle
  have hpositive := List.length_pos_of_ne_nil hneedle
  cases hindex : indexOf text needle start with
  | none =>
      unfold indexOf at hindex
      rw [List.find?_eq_none] at hindex
      have habsent := hindex offset (List.mem_range'_1.mpr ⟨hstart, by omega⟩)
      simp [hoccurs] at habsent
  | some first =>
      refine ⟨first, rfl, Nat.le_of_not_lt fun hlt => ?_⟩
      exact (indexOf_eq_some hindex).2.2 offset hstart hlt hoccurs

theorem FirstFrom.indexOf (hneedle : needle ≠ []) (hfirst : FirstFrom needle text start offset) :
    indexOf text needle start = some offset := by
  obtain ⟨found, hfound, hle⟩ := indexOf_of_occursAt hneedle hfirst.1 hfirst.2.1
  have hsame : found = offset := by
    obtain ⟨hstart, hoccurs, -⟩ := indexOf_eq_some hfound
    rcases Nat.lt_or_eq_of_le hle with hlt | heq
    · exact absurd hoccurs (hfirst.2.2 found hstart hlt)
    · exact heq
  rw [hfound, hsame]

/-- An occurrence is counted, or begins inside one that is. -/
theorem OccursAt.counted_or_covered (hneedle : needle ≠ [])
    (hoccurs : OccursAt needle text offset) (hstart : start ≤ offset) :
    Counted needle text start offset ∨
      ∃ earlier, Counted needle text start earlier ∧ earlier < offset ∧
        offset < earlier + needle.length := by
  have hpositive := List.length_pos_of_ne_nil hneedle
  induction hleft : offset - start using Nat.strong_induction_on generalizing start with
  | _ left ih =>
      obtain ⟨first, hindex, hle⟩ := indexOf_of_occursAt hneedle hstart hoccurs
      have hfirst := indexOf_eq_some hindex
      rcases Nat.lt_or_eq_of_le hle with hlt | rfl
      · by_cases hinside : offset < first + needle.length
        · exact .inr ⟨first, .here hfirst, hlt, hinside⟩
        · have hbegun := hfirst.1
          rcases ih (offset - (first + needle.length)) (by omega) (by omega) rfl with
            hcounted | ⟨earlier, hcounted, hcovers⟩
          · exact .inl (.later hfirst hcounted)
          · exact .inr ⟨earlier, .later hfirst hcounted, hcovers⟩
      · exact .inl (.here hfirst)

/-- What the search finds is counted and accepted. -/
theorem searchFrom_eq_some {accepts : Nat → Bool} {fuel : Nat}
    (hsearch : searchFrom accepts text needle fuel start = some offset) :
    Counted needle text start offset ∧ accepts offset = true := by
  induction fuel generalizing start with
  | zero => cases hsearch
  | succ fuel ih =>
      rw [searchFrom] at hsearch
      cases hindex : indexOf text needle start with
      | none => simp [hindex] at hsearch
      | some first =>
          simp only [hindex] at hsearch
          split at hsearch
          · next haccepts =>
              cases hsearch
              exact ⟨.here (indexOf_eq_some hindex), haccepts⟩
          · obtain ⟨hcounted, haccepts⟩ := ih hsearch
            exact ⟨.later (indexOf_eq_some hindex) hcounted, haccepts⟩

/-- With enough fuel the search finds something once a counted occurrence is accepted. -/
theorem searchFrom_isSome {accepts : Nat → Bool} (hneedle : needle ≠ [])
    (hcounted : Counted needle text start offset) (haccepts : accepts offset = true) {fuel : Nat}
    (hfuel : text.length < start + fuel) :
    (searchFrom accepts text needle fuel start).isSome = true := by
  have hpositive := List.length_pos_of_ne_nil hneedle
  induction hcounted generalizing fuel with
  | @here start offset hfirst =>
      have hlength := hfirst.2.1.end_le hneedle
      have hbegun := hfirst.1
      obtain ⟨fuel, rfl⟩ : ∃ less, fuel = less + 1 := ⟨fuel - 1, by omega⟩
      rw [searchFrom, hfirst.indexOf hneedle]
      simp [haccepts]
  | @later start earlier offset hfirst hrest ih =>
      have hlength := hfirst.2.1.end_le hneedle
      have hbegun := hfirst.1
      obtain ⟨fuel, rfl⟩ : ∃ less, fuel = less + 1 := ⟨fuel - 1, by omega⟩
      rw [searchFrom, hfirst.indexOf hneedle]
      dsimp only
      split
      · rfl
      · exact ih haccepts (by omega)

end SimulatorBroker.Text
