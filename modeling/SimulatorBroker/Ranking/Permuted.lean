import SimulatorBroker.Ranking.First

/-!
# Sorts and the order of their input

A stable sort gives the same list for every order of its input exactly when no two
different elements compare equal: among those that do, the input order is kept.
-/

namespace SimulatorBroker.Ranking

variable {α β : Type} {cmp : α → α → Ordering}

/-- Elements of the list that compare equal are the same. -/
def Separates (cmp : α → α → Ordering) (list : List α) : Prop :=
  ∀ left ∈ list, ∀ right ∈ list, cmp left right = .eq → left = right

theorem eq_of_not_gt [Std.OrientedCmp cmp] {left right : α} (hleft : cmp left right ≠ .gt)
    (hright : cmp right left ≠ .gt) : cmp left right = .eq := by
  cases hcmp : cmp left right with
  | lt => exact absurd (Std.OrientedCmp.gt_of_lt hcmp) hright
  | eq => rfl
  | gt => exact absurd hcmp hleft

theorem pairwise_insertionSort_cmp [Std.TransCmp cmp] (list : List α) :
    (list.insertionSort fun left right => cmp left right ≠ .gt).Pairwise
      fun left right => cmp left right ≠ .gt := by
  have htotal : Std.Total fun left right => cmp left right ≠ .gt := by
    refine ⟨fun left right => ?_⟩
    by_cases hgt : cmp left right = .gt
    · have hlt : cmp right left = .lt := Std.OrientedCmp.lt_of_gt hgt
      exact .inr (by rw [hlt]; decide)
    · exact .inl hgt
  have htrans : IsTrans α fun left right => cmp left right ≠ .gt := by
    refine ⟨fun left middle right hleft hright => ?_⟩
    exact Ordering.isLE_iff_ne_gt.mp (Std.TransCmp.isLE_trans
      (Ordering.isLE_iff_ne_gt.mpr hleft) (Ordering.isLE_iff_ne_gt.mpr hright))
  exact List.pairwise_insertionSort _ list

theorem insertionSort_eq_of_perm (cmp : α → α → Ordering) [Std.TransCmp cmp] {list other : List α}
    (hperm : list.Perm other) (hseparates : Separates cmp list) :
    (list.insertionSort fun left right => cmp left right ≠ .gt) =
      other.insertionSort fun left right => cmp left right ≠ .gt := by
  have hsorted := (List.perm_insertionSort (fun left right => cmp left right ≠ .gt) list).trans
    (hperm.trans (List.perm_insertionSort (fun left right => cmp left right ≠ .gt) other).symm)
  refine hsorted.eq_of_pairwise ?_ (pairwise_insertionSort_cmp list)
    (pairwise_insertionSort_cmp other)
  intro left right hleft hright hle hge
  refine hseparates left ((List.mem_insertionSort _).mp hleft) right ?_ (eq_of_not_gt hle hge)
  exact hperm.mem_iff.mpr ((List.mem_insertionSort _).mp hright)

/-! ## Stability -/

/-- The element goes before those that it compares equal to. -/
theorem filter_orderedInsert [Std.TransCmp cmp] (key element : α) (list : List α) :
    ((list.orderedInsert (fun left right => cmp left right ≠ .gt) element).filter
        fun other => cmp other key = .eq) =
      (element :: list).filter fun other => cmp other key = .eq := by
  induction list with
  | nil => rfl
  | cons head rest ih =>
      rw [List.orderedInsert]
      split
      · rfl
      · next hafter =>
          rw [not_not] at hafter
          rw [List.filter_cons, ih]
          by_cases hhead : cmp head key = .eq
          · have helement : cmp element key ≠ .eq := by
              intro heq
              have hsame : cmp element head = .eq :=
                Std.TransCmp.eq_trans heq (Std.OrientedCmp.eq_symm hhead)
              rw [hsame] at hafter
              cases hafter
            simp [hhead, helement]
          · simp [List.filter_cons, hhead]

/-- Among the elements that compare equal the sort keeps the order. -/
theorem filter_insertionSort [Std.TransCmp cmp] (key : α) (list : List α) :
    ((list.insertionSort fun left right => cmp left right ≠ .gt).filter
        fun other => cmp other key = .eq) = list.filter fun other => cmp other key = .eq := by
  induction list with
  | nil => rfl
  | cons head rest ih =>
      rw [List.insertionSort_cons, filter_orderedInsert, List.filter_cons, List.filter_cons, ih]

/-- The lists have the same elements in the same order wherever `cmp` does not tell them apart. -/
def SameClasses (cmp : α → α → Ordering) (left right : List α) : Prop :=
  ∀ key, (left.filter fun other => cmp other key = .eq) =
    right.filter fun other => cmp other key = .eq

/-- Lists that a stable sort brings to one list have the same classes. -/
theorem sameClasses_of_insertionSort [Std.TransCmp cmp] {left right : List α}
    (hsame : (left.insertionSort fun left right => cmp left right ≠ .gt) =
      right.insertionSort fun left right => cmp left right ≠ .gt) :
    SameClasses cmp left right := by
  intro key
  rw [← filter_insertionSort key left, hsame, filter_insertionSort]

theorem SameClasses.filter {left right : List α} (hsame : SameClasses cmp left right)
    (test : α → Bool) : SameClasses cmp (left.filter test) (right.filter test) := by
  intro key
  rw [List.filter_comm, hsame key, List.filter_comm]

theorem SameClasses.symm {left right : List α} (hsame : SameClasses cmp left right) :
    SameClasses cmp right left :=
  fun key => (hsame key).symm

theorem SameClasses.mem [Std.ReflCmp cmp] {left right : List α} (hsame : SameClasses cmp left right)
    {element : α} (hmem : element ∈ left) : element ∈ right := by
  have hself : cmp element element = .eq := Std.ReflCmp.compare_self
  have hclass : element ∈ left.filter fun other => cmp other element = .eq :=
    List.mem_filter.mpr ⟨hmem, decide_eq_true hself⟩
  rw [hsame element] at hclass
  exact List.mem_of_mem_filter hclass

/-- A finer comparison puts the same element first in lists with the same classes. -/
theorem RanksFirst.same_of_classes {coarse : α → α → Ordering} [Std.TransCmp cmp]
    [Std.TransCmp coarse] (hcoarse : ∀ left right, cmp left right = .eq → coarse left right = .eq)
    {left right : List α} (hsame : SameClasses coarse left right) {first second : α}
    (hfirst : RanksFirst cmp left first) (hsecond : RanksFirst cmp right second) :
    first = second := by
  have hclass : coarse second first = .eq :=
    hcoarse _ _ (eq_of_not_gt (hsecond.notBefore (hsame.mem hfirst.mem))
      (hfirst.notBefore (hsame.symm.mem hsecond.mem)))
  have hself : coarse first first = .eq := Std.ReflCmp.compare_self
  have hleft : RanksFirst cmp (left.filter fun other => coarse other first = .eq) first :=
    hfirst.filter (decide_eq_true hself)
  have hright : RanksFirst cmp (right.filter fun other => coarse other first = .eq) second :=
    hsecond.filter (decide_eq_true hclass)
  rw [hsame first] at hleft
  exact hleft.unique hright

/-- An element can be moved to the front. -/
theorem exists_perm_cons {list : List α} {element : α} (hmem : element ∈ list) :
    ∃ rest, list.Perm (element :: rest) := by
  obtain ⟨before, after, rfl⟩ := List.append_of_mem hmem
  exact ⟨before ++ after, List.perm_middle⟩

/-- A sort of images that does not depend on the order of its input separates them. -/
theorem separates_of_insertionSort [Std.TransCmp cmp] {image : β → α} {list : List β}
    (hsame : ∀ other, list.Perm other →
      ((other.map image).insertionSort fun left right => cmp left right ≠ .gt) =
        (list.map image).insertionSort fun left right => cmp left right ≠ .gt) :
    Separates cmp (list.map image) := by
  intro _ hmapped _ hother heq
  obtain ⟨left, hleft, rfl⟩ := List.mem_map.mp hmapped
  obtain ⟨right, hright, rfl⟩ := List.mem_map.mp hother
  -- each of the two is put first in turn; the first of its class stays first
  have hfirst : ∀ element ∈ list, cmp (image element) (image right) = .eq →
      (((list.map image).insertionSort fun left right => cmp left right ≠ .gt).filter
        fun other => cmp other (image right) = .eq).head? = some (image element) := by
    intro element helement hclass
    obtain ⟨rest, hperm⟩ := exists_perm_cons helement
    rw [← hsame _ hperm, filter_insertionSort, List.map_cons, List.filter_cons,
      if_pos (decide_eq_true hclass)]
    rfl
  have hself : cmp (image right) (image right) = .eq := Std.ReflCmp.compare_self
  exact Option.some_inj.mp ((hfirst left hleft heq).symm.trans (hfirst right hright hself))

end SimulatorBroker.Ranking
