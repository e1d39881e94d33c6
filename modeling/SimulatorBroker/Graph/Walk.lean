import SimulatorBroker.Graph.Worklist
import Mathlib.Data.List.Nodup
import Mathlib.Data.List.Pairwise

/-!
# Walks that keep no visited set

Depth-first search with a stack alone.  A node is taken from the stack once for every walk
that leads to it, so the search ends with each node once exactly where the nodes below the
root form a tree.
-/

namespace SimulatorBroker.Graph

variable {α : Type} {successors : α → List α} {root : α}

/-- The search, for so many rounds; `none` when they do not suffice. -/
def walk (successors : α → List α) : Nat → List α → List α → Option (List α)
  | 0, _, _ => none
  | fuel + 1, stack, visited =>
      match stack.getLast? with
      | none => some visited
      | some node => walk successors fuel (stack.dropLast ++ successors node) (visited ++ [node])

/-- The source itself, or what is reached from it. -/
def Within (successors : α → List α) : α → α → Prop :=
  Relation.ReflTransGen fun source target => target ∈ successors source

/-- Below the root each node has one parent and is listed once, and the root has none. -/
structure TreeBelow (successors : α → List α) (root : α) : Prop where
  once : ∀ parent, Within successors root parent → (successors parent).Nodup
  parent : ∀ left right node, Within successors root left → Within successors root right →
    node ∈ successors left → node ∈ successors right → left = right
  root : ∀ parent, Within successors root parent → root ∉ successors parent

/-! ## What the stack holds -/

/-- The visited nodes and the stack are what the root and the visited nodes have put there. -/
def Pushed (successors : α → List α) (root : α) (stack visited : List α) : Prop :=
  (visited ++ stack).Perm ((root :: visited).flatMap successors)

theorem pushed_start (successors : α → List α) (root : α) :
    Pushed successors root (successors root) [] := by
  unfold Pushed
  rw [List.nil_append, List.flatMap_cons, List.flatMap_nil, List.append_nil]

theorem Pushed.next {front visited : List α} {node : α}
    (hpushed : Pushed successors root (front ++ [node]) visited) :
    Pushed successors root (front ++ successors node) (visited ++ [node]) := by
  unfold Pushed at hpushed ⊢
  rw [← List.cons_append, List.flatMap_append, List.flatMap_singleton]
  have hmoved : (visited ++ [node] ++ (front ++ successors node)).Perm
      (visited ++ (front ++ [node]) ++ successors node) := by
    rw [List.append_assoc, List.append_assoc visited, List.append_assoc front]
    refine List.Perm.append_left visited ?_
    rw [← List.append_assoc, ← List.append_assoc]
    exact List.perm_append_comm.append_right _
  exact hmoved.trans (hpushed.append_right _)

theorem within_of_reaches {source target : α} (hreaches : Reaches successors source target) :
    Within successors source target :=
  hreaches.to_reflTransGen

/-- What has been pushed is reached from the root. -/
theorem Pushed.reaches {stack visited : List α} {node : α}
    (hpushed : Pushed successors root stack visited)
    (hvisited : ∀ seen ∈ visited, Reaches successors root seen)
    (hnode : node ∈ visited ++ stack) : Reaches successors root node := by
  obtain ⟨parent, hparent, hedge⟩ := List.mem_flatMap.mp (hpushed.mem_iff.mp hnode)
  rcases List.mem_cons.mp hparent with rfl | hseen
  · exact .single hedge
  · exact .tail (hvisited parent hseen) hedge

/-- What a walk returns has been pushed, and is reached from the root. -/
theorem pushed_of_walk {fuel : Nat} {stack visited result : List α}
    (hpushed : Pushed successors root stack visited)
    (hvisited : ∀ seen ∈ visited, Reaches successors root seen)
    (hwalk : walk successors fuel stack visited = some result) :
    Pushed successors root [] result ∧ ∀ seen ∈ result, Reaches successors root seen := by
  induction fuel generalizing stack visited with
  | zero => cases hwalk
  | succ fuel ih =>
      rw [walk] at hwalk
      rcases List.eq_nil_or_concat stack with rfl | ⟨front, node, rfl⟩
      · cases hwalk
        exact ⟨hpushed, hvisited⟩
      · rw [List.concat_eq_append] at hwalk hpushed
        rw [List.getLast?_concat, List.dropLast_concat] at hwalk
        refine ih hpushed.next ?_ hwalk
        intro seen hseen
        rcases List.mem_append.mp hseen with hold | hnew
        · exact hvisited seen hold
        · rw [List.mem_singleton.mp hnew]
          exact hpushed.reaches hvisited (by simp)

/-- A walk that ends returns what is reached from the root, however often. -/
theorem mem_walk_iff {fuel : Nat} {result : List α}
    (hwalk : walk successors fuel (successors root) [] = some result) (node : α) :
    node ∈ result ↔ Reaches successors root node := by
  obtain ⟨hpushed, hreached⟩ :=
    pushed_of_walk (pushed_start successors root) (by rintro _ ⟨⟩) hwalk
  unfold Pushed at hpushed
  rw [List.append_nil] at hpushed
  constructor
  · exact hreached node
  · intro hreaches
    induction hreaches with
    | single hedge =>
        exact hpushed.mem_iff.mpr (List.mem_flatMap.mpr ⟨root, List.mem_cons_self, hedge⟩)
    | tail hrest hedge ih =>
        exact hpushed.mem_iff.mpr
          (List.mem_flatMap.mpr ⟨_, List.mem_cons_of_mem _ ih, hedge⟩)

/-! ## Trees -/

/-- Where the walk names each node once, the nodes below the root form a tree. -/
theorem treeBelow_of_walk {fuel : Nat} {result : List α}
    (hwalk : walk successors fuel (successors root) [] = some result) (hnodup : result.Nodup) :
    TreeBelow successors root := by
  obtain ⟨hpushed, -⟩ := pushed_of_walk (pushed_start successors root) (by rintro _ ⟨⟩) hwalk
  unfold Pushed at hpushed
  rw [List.append_nil] at hpushed
  have hpushedOnce : ((root :: result).flatMap successors).Nodup := hpushed.nodup_iff.mp hnodup
  have hroot : root ∉ result := by
    intro hmem
    -- the root's successors would have been pushed a second time
    obtain ⟨-, -, hapart⟩ := List.nodup_append.mp (List.flatMap_cons ▸ hpushedOnce)
    obtain ⟨parent, hparent, hedge⟩ := List.mem_flatMap.mp (hpushed.mem_iff.mp hmem)
    cases hsuccessors : successors root with
    | nil =>
        rw [hsuccessors] at hwalk
        cases fuel with
        | zero => cases hwalk
        | succ fuel =>
            cases hwalk
            cases hmem
    | cons first rest =>
        have hfirst : first ∈ successors root := hsuccessors ▸ List.mem_cons_self
        exact hapart first hfirst first (List.mem_flatMap.mpr ⟨root, hmem, hfirst⟩) rfl
  have hwithin : ∀ {node}, Within successors root node → node ∈ root :: result := by
    intro node hnode
    rcases Relation.reflTransGen_iff_eq_or_transGen.mp hnode with rfl | hreaches
    · exact List.mem_cons_self
    · exact List.mem_cons_of_mem _ ((mem_walk_iff hwalk node).mpr hreaches)
  obtain ⟨honce, hapart⟩ := List.nodup_flatMap.mp hpushedOnce
  constructor
  · exact fun parent hparent => honce parent (hwithin hparent)
  · intro left right node hleft hright hmem hagain
    by_contra hne
    have : Std.Symm (Function.onFun List.Disjoint successors) := ⟨fun _ _ h => h.symm⟩
    exact hapart.forall (hwithin hleft) (hwithin hright) hne hmem hagain
  · intro parent hparent hedge
    exact hroot ((mem_walk_iff hwalk root).mpr (.tail' hparent hedge))

/-- In a tree what has been pushed has been pushed once, and is not the root. -/
theorem TreeBelow.pushed (htree : TreeBelow successors root) {stack visited : List α}
    (hpushed : Pushed successors root stack visited)
    (hvisited : ∀ seen ∈ visited, Reaches successors root seen) (hnodup : (root :: visited).Nodup) :
    (visited ++ stack).Nodup ∧ root ∉ visited ++ stack := by
  have hwithin : ∀ node ∈ root :: visited, Within successors root node := by
    intro node hnode
    rcases List.mem_cons.mp hnode with rfl | hseen
    · exact .refl
    · exact within_of_reaches (hvisited node hseen)
  constructor
  · refine hpushed.nodup_iff.mpr (List.nodup_flatMap.mpr ⟨?_, ?_⟩)
    · exact fun node hnode => htree.once node (hwithin node hnode)
    · refine hnodup.imp_of_mem fun {left right} hleft hright hne => ?_
      intro node hmem hagain
      exact hne (htree.parent left right node (hwithin left hleft) (hwithin right hright) hmem
        hagain)
  · intro hmem
    obtain ⟨parent, hparent, hedge⟩ := List.mem_flatMap.mp (hpushed.mem_iff.mp hmem)
    exact htree.root parent (hwithin parent hparent) hedge

/-- In a finite tree the walk ends, with each node once. -/
theorem TreeBelow.walk_ends [DecidableEq α] (htree : TreeBelow successors root) {nodes : Finset α}
    (hnodes : ∀ source, ∀ target ∈ successors source, target ∈ nodes) {stack visited : List α}
    (hpushed : Pushed successors root stack visited)
    (hvisited : ∀ seen ∈ visited, Reaches successors root seen)
    (hnodup : (root :: visited).Nodup) :
    ∃ fuel result, walk successors fuel stack visited = some result ∧ result.Nodup := by
  -- the induction is on the nodes that have not been visited
  induction hleft : nodes.card - visited.length using Nat.strong_induction_on
    generalizing stack visited with
  | _ left ih =>
      rcases List.eq_nil_or_concat stack with rfl | ⟨front, node, rfl⟩
      · exact ⟨1, visited, rfl, hnodup.of_cons⟩
      · rw [List.concat_eq_append] at hpushed ⊢
        obtain ⟨hpushedOnce, hroot⟩ := htree.pushed hpushed hvisited hnodup
        have hreached := fun found => @Pushed.reaches _ _ _ _ _ found hpushed hvisited
        have hvisited' : ∀ seen ∈ visited ++ [node], Reaches successors root seen := by
          intro seen hseen
          refine hreached seen ?_
          simp only [List.mem_append, List.mem_singleton] at hseen ⊢
          tauto
        have hnodup' : (root :: (visited ++ [node])).Nodup := by
          refine List.nodup_cons.mpr ⟨fun hmem => hroot ?_, ?_⟩
          · simp only [List.mem_append, List.mem_singleton] at hmem ⊢
            tauto
          · refine hpushedOnce.sublist (List.Sublist.append_left ?_ visited)
            exact List.sublist_append_right _ _
        have hbound : (visited ++ [node]).length ≤ nodes.card := by
          rw [← List.toFinset_card_of_nodup hnodup'.of_cons]
          refine Finset.card_le_card fun found hfound => ?_
          obtain ⟨parent, -, hedge⟩ :=
            Relation.TransGen.tail'_iff.mp (hvisited' found (List.mem_toFinset.mp hfound))
          exact hnodes parent found hedge
        rw [List.length_append, List.length_singleton] at hbound
        obtain ⟨fuel, result, hwalk, hresult⟩ := ih (nodes.card - (visited ++ [node]).length)
          (by rw [List.length_append, List.length_singleton]; omega) hpushed.next hvisited' hnodup'
          rfl
        refine ⟨fuel + 1, result, ?_, hresult⟩
        rw [walk, List.getLast?_concat, List.dropLast_concat]
        exact hwalk

/-- The walk ends with each node below the root once exactly where these form a tree. -/
theorem walk_exact_iff [DecidableEq α] {nodes : Finset α}
    (hnodes : ∀ source, ∀ target ∈ successors source, target ∈ nodes) :
    (∃ fuel result, walk successors fuel (successors root) [] = some result ∧ result.Nodup ∧
      ∀ node, node ∈ result ↔ Reaches successors root node) ↔ TreeBelow successors root := by
  constructor
  · rintro ⟨fuel, result, hwalk, hnodup, -⟩
    exact treeBelow_of_walk hwalk hnodup
  · intro htree
    obtain ⟨fuel, result, hwalk, hnodup⟩ := htree.walk_ends hnodes (pushed_start successors root)
      (by rintro _ ⟨⟩) (by simp)
    exact ⟨fuel, result, hwalk, hnodup, mem_walk_iff hwalk⟩

end SimulatorBroker.Graph
