import Mathlib.Logic.Relation
import Mathlib.Data.Finset.Card
import Mathlib.Tactic.Common

/-!
# Worklist search

Breadth-first search over an edge function with a queue and a set of discovered
nodes.  A root counts as discovered only when an edge leads to it.
-/

namespace SimulatorBroker.Graph

variable {α : Type} [DecidableEq α]

/-- The nodes of a list that have not been discovered, each once. -/
def undiscovered (discovered : List α) : List α → List α
  | [] => []
  | node :: nodes =>
      if node ∈ discovered then undiscovered discovered nodes
      else node :: undiscovered (node :: discovered) nodes

/-- The search, for so many nodes taken from the queue. -/
def search (successors : α → List α) : Nat → List α → List α → List α
  | 0, _, discovered => discovered
  | _ + 1, [], discovered => discovered
  | fuel + 1, node :: queue, discovered =>
      let fresh := undiscovered discovered (successors node)
      search successors fuel (queue ++ fresh) (discovered ++ fresh)

/-- `target` is reached from `source` by one edge or more. -/
def Reaches (successors : α → List α) : α → α → Prop :=
  Relation.TransGen fun source target => target ∈ successors source

theorem mem_undiscovered {node : α} {nodes discovered : List α} :
    node ∈ undiscovered discovered nodes ↔ node ∈ nodes ∧ node ∉ discovered := by
  induction nodes generalizing discovered with
  | nil => simp [undiscovered]
  | cons first rest ih =>
      by_cases hfirst : first ∈ discovered
      · rw [undiscovered, if_pos hfirst, ih, List.mem_cons]
        constructor
        · exact fun ⟨hrest, hnew⟩ => ⟨Or.inr hrest, hnew⟩
        · rintro ⟨rfl | hrest, hnew⟩
          · exact absurd hfirst hnew
          · exact ⟨hrest, hnew⟩
      · rw [undiscovered, if_neg hfirst, List.mem_cons, ih, List.mem_cons, List.mem_cons]
        constructor
        · rintro (rfl | ⟨hrest, hnew⟩)
          · exact ⟨Or.inl rfl, hfirst⟩
          · exact ⟨Or.inr hrest, fun hold => hnew (Or.inr hold)⟩
        · rintro ⟨rfl | hrest, hnew⟩
          · exact Or.inl rfl
          · by_cases hsame : node = first
            · exact Or.inl hsame
            · exact Or.inr ⟨hrest, fun hold => hold.elim hsame hnew⟩

theorem undiscovered_nodup (discovered nodes : List α) :
    (undiscovered discovered nodes).Nodup := by
  induction nodes generalizing discovered with
  | nil => simp [undiscovered]
  | cons first rest ih =>
      unfold undiscovered
      split
      · exact ih discovered
      · refine List.nodup_cons.mpr ⟨?_, ih _⟩
        intro hmem
        exact (mem_undiscovered.mp hmem).2 List.mem_cons_self

/-- A discovered node is in the queue, or all its successors have been discovered. -/
def Explored (successors : α → List α) (queue discovered : List α) : Prop :=
  ∀ node ∈ discovered, node ∈ queue ∨ ∀ next ∈ successors node, next ∈ discovered

omit [DecidableEq α] in
/-- What is reached from a discovered node is discovered, or reached from the queue. -/
theorem Explored.reaches {successors : α → List α} {queue discovered : List α}
    (hexplored : Explored successors queue discovered) {source target : α}
    (hreaches : Reaches successors source target) (hsource : source ∈ discovered) :
    target ∈ discovered ∨ ∃ node ∈ queue, Reaches successors node target := by
  induction hreaches using Relation.TransGen.head_induction_on with
  | single hedge =>
      obtain hqueued | hdone := hexplored _ hsource
      · exact Or.inr ⟨_, hqueued, .single hedge⟩
      · exact Or.inl (hdone _ hedge)
  | head hedge hrest ih =>
      obtain hqueued | hdone := hexplored _ hsource
      · exact Or.inr ⟨_, hqueued, .head hedge hrest⟩
      · exact ih (hdone _ hedge)

theorem Explored.next {successors : α → List α} {node : α} {queue discovered : List α}
    (hexplored : Explored successors (node :: queue) discovered) :
    Explored successors (queue ++ undiscovered discovered (successors node))
      (discovered ++ undiscovered discovered (successors node)) := by
  intro found hfound
  obtain hold | hfresh := List.mem_append.mp hfound
  · obtain hqueued | hdone := hexplored found hold
    · obtain rfl | hrest := List.mem_cons.mp hqueued
      · refine Or.inr fun next hnext => List.mem_append.mpr ?_
        by_cases hknown : next ∈ discovered
        · exact Or.inl hknown
        · exact Or.inr (mem_undiscovered.mpr ⟨hnext, hknown⟩)
      · exact Or.inl (List.mem_append_left _ hrest)
    · exact Or.inr fun next hnext => List.mem_append_left _ (hdone next hnext)
  · exact Or.inl (List.mem_append_right _ hfresh)

/-- The nodes that one more step can still discover become fewer by those it discovers. -/
theorem card_sdiff_undiscovered {nodes : Finset α} (discovered successors : List α)
    (hnodes : ∀ node ∈ successors, node ∈ nodes) :
    (nodes \ (discovered ++ undiscovered discovered successors).toFinset).card +
      (undiscovered discovered successors).length =
    (nodes \ discovered.toFinset).card := by
  rw [← List.toFinset_card_of_nodup (undiscovered_nodup discovered successors),
    List.toFinset_append, ← Finset.sup_eq_union, ← sdiff_sdiff_left]
  refine Finset.card_sdiff_add_card_eq_card ?_
  intro node hnode
  obtain ⟨hsuccessor, hnew⟩ := mem_undiscovered.mp (List.mem_toFinset.mp hnode)
  exact Finset.mem_sdiff.mpr ⟨hnodes node hsuccessor, by simpa using hnew⟩

/-- With enough fuel the search finds what is reached from the queue. -/
theorem mem_search_iff {successors : α → List α} {nodes : Finset α}
    (hnodes : ∀ source, ∀ target ∈ successors source, target ∈ nodes) (target : α) :
    ∀ (fuel : Nat) (queue discovered : List α), Explored successors queue discovered →
      queue.length + (nodes \ discovered.toFinset).card ≤ fuel →
      (target ∈ search successors fuel queue discovered ↔
        target ∈ discovered ∨ ∃ source ∈ queue, Reaches successors source target) := by
  intro fuel
  induction fuel with
  | zero =>
      intro queue discovered hexplored hfuel
      have hempty : queue = [] := List.length_eq_zero_iff.mp (by omega)
      simp [search, hempty]
  | succ fuel ih =>
      intro queue discovered hexplored hfuel
      cases queue with
      | nil => simp [search]
      | cons node queue =>
          have hcard := card_sdiff_undiscovered discovered (successors node) (hnodes node)
          rw [search, ih _ _ hexplored.next (by
            rw [List.length_append]
            rw [List.length_cons] at hfuel
            omega)]
          constructor
          · rintro (hfound | ⟨source, hsource, hreaches⟩)
            · obtain hold | hfresh := List.mem_append.mp hfound
              · exact Or.inl hold
              · exact Or.inr ⟨node, List.mem_cons_self, .single (mem_undiscovered.mp hfresh).1⟩
            · obtain hrest | hfresh := List.mem_append.mp hsource
              · exact Or.inr ⟨source, List.mem_cons_of_mem _ hrest, hreaches⟩
              · exact Or.inr ⟨node, List.mem_cons_self,
                  .head (mem_undiscovered.mp hfresh).1 hreaches⟩
          · rintro (hold | ⟨source, hsource, hreaches⟩)
            · exact Or.inl (List.mem_append_left _ hold)
            · obtain rfl | hrest := List.mem_cons.mp hsource
              · obtain ⟨next, hedge, hrest⟩ := Relation.TransGen.head'_iff.mp hreaches
                have hnext : next ∈ discovered ++ undiscovered discovered (successors source) := by
                  by_cases hknown : next ∈ discovered
                  · exact List.mem_append_left _ hknown
                  · exact List.mem_append_right _ (mem_undiscovered.mpr ⟨hedge, hknown⟩)
                obtain rfl | hfurther := Relation.reflTransGen_iff_eq_or_transGen.mp hrest
                · exact Or.inl hnext
                · exact hexplored.next.reaches hfurther hnext
              · exact Or.inr ⟨source, List.mem_append_left _ hrest, hreaches⟩

/-! ## The loop -/

/-- The loop ends with this result once the queue is empty. -/
inductive Finishes (successors : α → List α) : List α → List α → List α → Prop where
  | done (discovered : List α) : Finishes successors [] discovered discovered
  | next {node : α} {queue discovered result : List α}
      (hrest : Finishes successors (queue ++ undiscovered discovered (successors node))
        (discovered ++ undiscovered discovered (successors node)) result) :
      Finishes successors (node :: queue) discovered result

/-- The loop has one result. -/
theorem Finishes.unique {successors : α → List α} {queue discovered left right : List α}
    (hleft : Finishes successors queue discovered left)
    (hright : Finishes successors queue discovered right) : left = right := by
  induction hleft with
  | done discovered =>
      cases hright
      rfl
  | next hrest ih =>
      cases hright with
      | next hagain => exact ih hagain

/-- With enough fuel the search empties its queue. -/
theorem search_finishes {successors : α → List α} {nodes : Finset α}
    (hnodes : ∀ source, ∀ target ∈ successors source, target ∈ nodes) :
    ∀ (fuel : Nat) (queue discovered : List α),
      queue.length + (nodes \ discovered.toFinset).card ≤ fuel →
      Finishes successors queue discovered (search successors fuel queue discovered) := by
  intro fuel
  induction fuel with
  | zero =>
      intro queue discovered hfuel
      have hempty : queue = [] := List.length_eq_zero_iff.mp (by omega)
      subst hempty
      exact .done discovered
  | succ fuel ih =>
      intro queue discovered hfuel
      cases queue with
      | nil => exact .done discovered
      | cons node queue =>
          have hcard := card_sdiff_undiscovered discovered (successors node) (hnodes node)
          refine .next (ih _ _ ?_)
          rw [List.length_append]
          rw [List.length_cons] at hfuel
          omega

/-- A node is discovered once. -/
theorem Finishes.nodup {successors : α → List α} {queue discovered result : List α}
    (hfinishes : Finishes successors queue discovered result) (hdiscovered : discovered.Nodup) :
    result.Nodup := by
  induction hfinishes with
  | done _ => exact hdiscovered
  | next _ ih =>
      refine ih (List.nodup_append.mpr ⟨hdiscovered, undiscovered_nodup _ _, ?_⟩)
      rintro old hold fresh hfresh rfl
      exact (mem_undiscovered.mp hfresh).2 hold

end SimulatorBroker.Graph
