import SimulatorBroker.Containment.Ownership

/-!
# The pids below the roots

`collectDescendantPids` as a loop: it ends, it names each pid below a root once, and
neither the order of the table nor that of the roots matters.
-/

namespace SimulatorBroker.Containment

open State

/-- A record of the table has the one pid as its parent and the other as its own.  A missing
or zero parent is none. -/
def ParentOf (processes : List ProcessRecord) (parent child : Pid) : Prop :=
  parent ≠ 0 ∧ ∃ record ∈ processes, record.ppid = some parent ∧ record.pid = child

/-- The pid is reached from a root by one parent-to-child edge or more. -/
def BelowRoot (processes : List ProcessRecord) (rootPids : List Pid) (pid : Pid) : Prop :=
  ∃ root ∈ rootPids, Relation.TransGen (ParentOf processes) root pid

variable {processes other : List ProcessRecord} {rootPids otherRoots : List Pid}

theorem mem_childrenByParent_iff {parent child : Pid} :
    child ∈ childrenByParent processes parent ↔ ParentOf processes parent child := by
  unfold childrenByParent ParentOf
  simp only [List.mem_map, List.mem_filter, Bool.and_eq_true, beq_iff_eq, bne_iff_ne]
  constructor
  · rintro ⟨record, ⟨hrecord, hparent, hnonzero⟩, hchild⟩
    exact ⟨hnonzero, record, hrecord, hparent, hchild⟩
  · rintro ⟨hnonzero, record, hrecord, hparent, hchild⟩
    exact ⟨record, ⟨hrecord, hparent, hnonzero⟩, hchild⟩

theorem reaches_childrenByParent_iff {root pid : Pid} :
    Graph.Reaches (childrenByParent processes) root pid ↔
      Relation.TransGen (ParentOf processes) root pid := by
  unfold Graph.Reaches
  simp only [mem_childrenByParent_iff]

theorem mem_collectDescendantPids_iff {pid : Pid} :
    pid ∈ collectDescendantPids processes rootPids ↔ BelowRoot processes rootPids pid := by
  rw [mem_collectDescendantPids]
  simp only [reaches_childrenByParent_iff, BelowRoot]

/-- The queue is emptied within one round for each root and each record. -/
theorem collectDescendantPids_finishes (processes : List ProcessRecord) (rootPids : List Pid) :
    Graph.Finishes (childrenByParent processes) rootPids []
      (collectDescendantPids processes rootPids) := by
  have hnodes : ∀ source, ∀ target ∈ childrenByParent processes source,
      target ∈ (processes.map (·.pid)).toFinset := by
    intro source target htarget
    obtain ⟨record, hrecord, rfl⟩ := present_of_childrenByParent htarget
    exact List.mem_toFinset.mpr (List.mem_map_of_mem hrecord)
  have hcard : ((processes.map (·.pid)).toFinset \ ([] : List Pid).toFinset).card ≤
      processes.length := by
    rw [List.toFinset_nil, Finset.sdiff_empty, ← List.length_map (·.pid)]
    exact List.toFinset_card_le _
  exact Graph.search_finishes hnodes _ _ _ (by omega)

theorem collectDescendantPids_nodup (processes : List ProcessRecord) (rootPids : List Pid) :
    (collectDescendantPids processes rootPids).Nodup :=
  (collectDescendantPids_finishes processes rootPids).nodup List.nodup_nil

theorem belowRoot_perm (hprocesses : processes.Perm other) (hroots : rootPids.Perm otherRoots)
    {pid : Pid} : BelowRoot processes rootPids pid ↔ BelowRoot other otherRoots pid := by
  have hedges : ParentOf processes = ParentOf other := by
    funext parent child
    simp only [ParentOf, hprocesses.mem_iff]
  simp only [BelowRoot, hedges, hroots.mem_iff]

/-- The loop ends, whatever the table: with each pid below a root once, and in any order of
the table and of the roots with the same pids. -/
theorem collectDescendantPids_exact (processes : List ProcessRecord) (rootPids : List Pid) :
    Graph.Finishes (childrenByParent processes) rootPids []
        (collectDescendantPids processes rootPids) ∧
      (collectDescendantPids processes rootPids).Nodup ∧
      (∀ pid, pid ∈ collectDescendantPids processes rootPids ↔
        BelowRoot processes rootPids pid) ∧
      ∀ other otherRoots, processes.Perm other → rootPids.Perm otherRoots →
        (collectDescendantPids processes rootPids).Perm
          (collectDescendantPids other otherRoots) := by
  refine ⟨collectDescendantPids_finishes _ _, collectDescendantPids_nodup _ _,
    fun pid => mem_collectDescendantPids_iff, ?_⟩
  intro other otherRoots hprocesses hroots
  rw [List.perm_ext_iff_of_nodup (collectDescendantPids_nodup _ _)
    (collectDescendantPids_nodup _ _)]
  intro pid
  rw [mem_collectDescendantPids_iff, mem_collectDescendantPids_iff]
  exact belowRoot_perm hprocesses hroots

/-- Two processes that name each other as parent, and one below them. -/
example : collectDescendantPids [{ pid := 10, ppid := some 11 }, { pid := 11, ppid := some 10 },
    { pid := 12, ppid := some 11 }] [10] = [11, 10, 12] := by decide

end SimulatorBroker.Containment
