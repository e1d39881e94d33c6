import Mathlib.Data.List.Sort

/-!
# The first element of a ranking

A stable sort by a comparison puts one element first: everything before it in the
list ranks strictly after it, and nothing behind it ranks before it.
-/

namespace SimulatorBroker.Ranking

variable {α : Type} {cmp : α → α → Ordering}

/-- Values compare as their images do. -/
theorem transCmp_on {β : Type} [Std.TransCmp cmp] (image : β → α) :
    Std.TransCmp fun left right => cmp (image left) (image right) where
  eq_swap := Std.OrientedCmp.eq_swap
  isLE_trans hleft hright := Std.TransCmp.isLE_trans hleft hright

/-- Values compare against the order of their images. -/
theorem transCmp_falling {β : Type} [Std.TransCmp cmp] (image : β → α) :
    Std.TransCmp fun left right => cmp (image right) (image left) where
  eq_swap := Std.OrientedCmp.eq_swap
  isLE_trans hleft hright := Std.TransCmp.isLE_trans hright hleft

/-- Where the first comparison is equal the second one decides. -/
theorem transCmp_then {second : α → α → Ordering} (hfirst : Std.TransCmp cmp)
    (hsecond : Std.TransCmp second) :
    Std.TransCmp fun left right => (cmp left right).then (second left right) :=
  inferInstanceAs (Std.TransCmp (compareLex cmp second))

/-- `first` is what a stable sort by `cmp` puts first. -/
def RanksFirst (cmp : α → α → Ordering) (list : List α) (first : α) : Prop :=
  ∃ before after, list = before ++ first :: after ∧
    (∀ other ∈ before, cmp first other = .lt) ∧ ∀ other ∈ after, cmp first other ≠ .gt

theorem RanksFirst.mem {list : List α} {first : α} (hfirst : RanksFirst cmp list first) :
    first ∈ list := by
  obtain ⟨before, after, rfl, -, -⟩ := hfirst
  simp

/-- Nothing of the list ranks before the first element. -/
theorem RanksFirst.notBefore [Std.ReflCmp cmp] {list : List α} {first other : α}
    (hfirst : RanksFirst cmp list first) (hother : other ∈ list) : cmp first other ≠ .gt := by
  obtain ⟨before, after, rfl, hbefore, hafter⟩ := hfirst
  rcases List.mem_append.mp hother with hmem | hmem
  · rw [hbefore other hmem]
    decide
  · rcases List.mem_cons.mp hmem with heq | hmem
    · have hself : cmp first first = .eq := Std.ReflCmp.compare_self
      rw [heq, hself]
      decide
    · exact hafter other hmem

/-- What ranks first of a list does so of every part of it that it is in. -/
theorem RanksFirst.filter {list : List α} {first : α} {test : α → Bool}
    (hfirst : RanksFirst cmp list first) (htest : test first = true) :
    RanksFirst cmp (list.filter test) first := by
  obtain ⟨before, after, rfl, hbefore, hafter⟩ := hfirst
  refine ⟨before.filter test, after.filter test, ?_, ?_, ?_⟩
  · rw [List.filter_append, List.filter_cons, if_pos htest]
  · exact fun other hmem => hbefore other (List.mem_of_mem_filter hmem)
  · exact fun other hmem => hafter other (List.mem_of_mem_filter hmem)

/-- Images that compare as their originals rank alike. -/
theorem RanksFirst.map {β : Type} {second : β → β → Ordering} {image : α → β}
    (himage : ∀ left right, second (image left) (image right) = cmp left right) {list : List α}
    {first : α} (hfirst : RanksFirst cmp list first) :
    RanksFirst second (list.map image) (image first) := by
  obtain ⟨before, after, rfl, hbefore, hafter⟩ := hfirst
  refine ⟨before.map image, after.map image, by simp, ?_, ?_⟩
  · simp only [List.forall_mem_map, himage]
    exact hbefore
  · simp only [List.forall_mem_map, himage]
    exact hafter

@[simp] theorem not_ranksFirst_nil (first : α) : ¬ RanksFirst cmp [] first := by
  rintro ⟨before, after, hnil, -⟩
  simp at hnil

/-- The head of a longer list stays first unless the first of the rest ranks before it. -/
theorem ranksFirst_cons [Std.TransCmp cmp] {head first : α} {list : List α}
    (hfirst : RanksFirst cmp list first) :
    RanksFirst cmp (head :: list) (if cmp head first = .gt then first else head) := by
  split
  · next hgt =>
      obtain ⟨before, after, rfl, hbefore, hafter⟩ := hfirst
      refine ⟨head :: before, after, rfl, ?_, hafter⟩
      intro other hmem
      rcases List.mem_cons.mp hmem with rfl | hmem
      · exact Std.OrientedCmp.lt_of_gt hgt
      · exact hbefore other hmem
  · next hle =>
      refine ⟨[], list, rfl, by simp, ?_⟩
      intro other hmem
      have hhead : (cmp head first).isLE := by
        rw [Ordering.isLE_iff_ne_gt]
        exact hle
      have hrest : (cmp first other).isLE := by
        rw [Ordering.isLE_iff_ne_gt]
        exact hfirst.notBefore hmem
      exact Ordering.isLE_iff_ne_gt.mp (Std.TransCmp.isLE_trans hhead hrest)

theorem head?_orderedInsert (head : α) (list : List α) :
    (list.orderedInsert (fun left right => cmp left right ≠ .gt) head).head? =
      some (match list.head? with
        | none => head
        | some first => if cmp head first = .gt then first else head) := by
  cases list with
  | nil => rfl
  | cons first rest =>
      rw [List.orderedInsert]
      by_cases hgt : cmp head first = .gt
      · simp [hgt]
      · simp [hgt]

theorem ranksFirst_of_head? [Std.TransCmp cmp] {list : List α} {first : α}
    (hhead : (list.insertionSort fun left right => cmp left right ≠ .gt).head? = some first) :
    RanksFirst cmp list first := by
  induction list generalizing first with
  | nil => simp at hhead
  | cons head rest ih =>
      rw [List.insertionSort_cons, head?_orderedInsert] at hhead
      cases hrest : (rest.insertionSort fun left right => cmp left right ≠ .gt).head? with
      | none =>
          have hnil : rest = [] := by
            rw [List.head?_eq_none_iff] at hrest
            exact List.length_eq_zero_iff.mp
              (by rw [← List.length_insertionSort (fun left right => cmp left right ≠ .gt), hrest]
                  rfl)
          simp only [hrest, Option.some.injEq] at hhead
          subst hnil hhead
          exact ⟨[], [], rfl, by simp, by simp⟩
      | some other =>
          simp only [hrest, Option.some.injEq] at hhead
          rw [← hhead]
          exact ranksFirst_cons (ih hrest)

/-- Only one element ranks first. -/
theorem RanksFirst.unique [Std.OrientedCmp cmp] {list : List α} {left right : α}
    (hleft : RanksFirst cmp list left) (hright : RanksFirst cmp list right) : left = right := by
  induction list with
  | nil => exact absurd hleft (not_ranksFirst_nil left)
  | cons head rest ih =>
      obtain ⟨before, after, hlist, hbefore, hafter⟩ := hleft
      obtain ⟨before', after', hlist', hbefore', hafter'⟩ := hright
      cases before with
      | nil =>
          simp only [List.nil_append, List.cons.injEq] at hlist
          obtain ⟨rfl, rfl⟩ := hlist
          cases before' with
          | nil =>
              simp only [List.nil_append, List.cons.injEq] at hlist'
              exact hlist'.1
          | cons first tail =>
              simp only [List.cons_append, List.cons.injEq] at hlist'
              obtain ⟨rfl, rfl⟩ := hlist'
              have hlt := hbefore' head List.mem_cons_self
              exact absurd (Std.OrientedCmp.gt_of_lt hlt) (hafter right (by simp))
      | cons first tail =>
          simp only [List.cons_append, List.cons.injEq] at hlist
          obtain ⟨rfl, rfl⟩ := hlist
          cases before' with
          | nil =>
              simp only [List.nil_append, List.cons.injEq] at hlist'
              obtain ⟨rfl, rfl⟩ := hlist'
              have hlt := hbefore head List.mem_cons_self
              exact absurd (Std.OrientedCmp.gt_of_lt hlt) (hafter' left (by simp))
          | cons first' tail' =>
              simp only [List.cons_append, List.cons.injEq] at hlist'
              obtain ⟨rfl, hrest⟩ := hlist'
              exact ih
                ⟨tail, after, rfl, fun other hmem => hbefore other (List.mem_cons_of_mem _ hmem),
                  hafter⟩
                ⟨tail', after', hrest,
                  fun other hmem => hbefore' other (List.mem_cons_of_mem _ hmem), hafter'⟩

/-- What ranks first is the head of the sorted list. -/
theorem head?_insertionSort [Std.TransCmp cmp] {list : List α} {first : α} :
    (list.insertionSort fun left right => cmp left right ≠ .gt).head? = some first ↔
      RanksFirst cmp list first := by
  refine ⟨ranksFirst_of_head?, fun hfirst => ?_⟩
  cases hhead : (list.insertionSort fun left right => cmp left right ≠ .gt).head? with
  | none =>
      rw [List.head?_eq_none_iff] at hhead
      have hmem := hfirst.mem
      rw [← List.mem_insertionSort (fun left right => cmp left right ≠ .gt), hhead] at hmem
      exact absurd hmem List.not_mem_nil
  | some other =>
      rw [(ranksFirst_of_head? hhead).unique hfirst]

theorem exists_ranksFirst (cmp : α → α → Ordering) [Std.TransCmp cmp] {list : List α}
    (hlist : list ≠ []) : ∃ first, RanksFirst cmp list first := by
  cases hhead : (list.insertionSort fun left right => cmp left right ≠ .gt).head? with
  | some first => exact ⟨first, head?_insertionSort.mp hhead⟩
  | none =>
      rw [List.head?_eq_none_iff] at hhead
      have hlength := List.length_insertionSort (fun left right => cmp left right ≠ .gt) list
      rw [hhead, List.length_nil] at hlength
      exact absurd (List.length_eq_zero_iff.mp hlength.symm) hlist

end SimulatorBroker.Ranking
