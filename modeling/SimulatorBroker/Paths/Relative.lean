import Mathlib.Data.List.Infix

/-!
# Normalized absolute paths

A normalized absolute path is a list of names, none empty, none a dot entry and none holding
a separator.  The relative path between two of them climbs out of the names they do not share
and then descends; as a text it is empty for equal paths, and otherwise it is the names joined
by separators.
-/

namespace SimulatorBroker.Paths

/-! ## Names and paths -/

/-- The entry for the parent directory. -/
def parentEntry : List Char := ['.', '.']

/-- A text that can be one name of a normalized path. -/
def Proper (text : List Char) : Prop :=
  text ≠ [] ∧ text ≠ ['.'] ∧ text ≠ parentEntry ∧ '/' ∉ text

instance (text : List Char) : Decidable (Proper text) :=
  inferInstanceAs (Decidable (_ ∧ _))

/-- One name of a normalized path. -/
structure Name where
  text : List Char
  proper : Proper text
deriving DecidableEq

/-- The name with the given spelling. -/
def Name.of (text : String) (proper : Proper text.toList := by decide) : Name :=
  ⟨text.toList, proper⟩

/-- A normalized absolute path: the names from the root down. -/
abbrev AbsolutePath := List Name

/-- The candidate is the parent itself or lies below it. -/
def Within (parent candidate : AbsolutePath) : Prop :=
  parent <+: candidate

instance (parent candidate : AbsolutePath) : Decidable (Within parent candidate) :=
  inferInstanceAs (Decidable (_ <+: _))

/-- A name that begins with two dots. -/
def Name.Dotted (name : Name) : Prop :=
  parentEntry <+: name.text

instance (name : Name) : Decidable name.Dotted :=
  inferInstanceAs (Decidable (_ <+: _))

/-- The candidate lies below the parent, under a name that begins with two dots. -/
def DottedBelow (parent candidate : AbsolutePath) : Prop :=
  ∃ name rest, candidate = parent ++ name :: rest ∧ name.Dotted

theorem DottedBelow.within {parent candidate : AbsolutePath}
    (hbelow : DottedBelow parent candidate) : Within parent candidate := by
  obtain ⟨name, rest, rfl, -⟩ := hbelow
  exact List.prefix_append parent (name :: rest)

theorem DottedBelow.ne {parent candidate : AbsolutePath}
    (hbelow : DottedBelow parent candidate) : parent ≠ candidate := by
  obtain ⟨name, rest, rfl, -⟩ := hbelow
  simp

/-! ## The relative path -/

/-- The names of the relative path from one path to another. -/
def relativeNames : AbsolutePath → AbsolutePath → List (List Char)
  | source, [] => source.map fun _ => parentEntry
  | [], target => target.map Name.text
  | here :: source, there :: target =>
      if here = there then relativeNames source target
      else (here :: source).map (fun _ => parentEntry) ++ (there :: target).map Name.text

/-- Names joined by separators. -/
def joinNames (names : List (List Char)) : List Char :=
  List.intercalate ['/'] names

/-- `path.relative` on normalized absolute paths. -/
def relative (source target : AbsolutePath) : List Char :=
  joinNames (relativeNames source target)

/-- `path.isAbsolute`. -/
def isAbsolute (text : List Char) : Bool :=
  text.head? == some '/'

theorem joinNames_cons (name : List Char) (names : List (List Char)) :
    ∃ tail, joinNames (name :: names) = name ++ tail ∧ tail.head? ≠ some '.' := by
  cases names with
  | nil => exact ⟨[], by simp [joinNames, List.intercalate], by simp⟩
  | cons next names =>
      exact ⟨'/' :: joinNames (next :: names), by simp [joinNames, List.intercalate], by simp⟩

theorem parentEntry_prefix_joinNames (name : List Char) (names : List (List Char)) :
    parentEntry <+: joinNames (name :: names) ↔ parentEntry <+: name := by
  obtain ⟨tail, htail, hhead⟩ := joinNames_cons name names
  rw [htail]
  constructor
  · intro hprefix
    match name, tail with
    | [], [] => exact hprefix
    | [], first :: tail =>
        obtain ⟨rfl, -⟩ := List.cons_prefix_cons.1 hprefix
        exact absurd rfl hhead
    | [first], [] => simpa using hprefix
    | [first], second :: tail =>
        obtain ⟨-, hprefix⟩ := List.cons_prefix_cons.1 hprefix
        obtain ⟨rfl, -⟩ := List.cons_prefix_cons.1 hprefix
        exact absurd rfl hhead
    | first :: second :: name, tail =>
        obtain ⟨hfirst, hprefix⟩ := List.cons_prefix_cons.1 hprefix
        obtain ⟨hsecond, -⟩ := List.cons_prefix_cons.1 hprefix
        subst hfirst hsecond
        exact List.prefix_append parentEntry name
  · intro hprefix
    exact hprefix.trans (List.prefix_append name tail)

@[simp] theorem relativeNames_append (parent rest : AbsolutePath) :
    relativeNames parent (parent ++ rest) = rest.map Name.text := by
  induction parent with
  | nil => cases rest <;> rfl
  | cons here parent ih => simp [relativeNames, ih]

/-- Out of the parent, the relative path begins by climbing. -/
theorem relativeNames_of_not_within {parent candidate : AbsolutePath}
    (hout : ¬ Within parent candidate) :
    ∃ names, relativeNames parent candidate = parentEntry :: names := by
  induction parent generalizing candidate with
  | nil => exact absurd (List.nil_prefix) hout
  | cons here parent ih =>
      cases candidate with
      | nil => exact ⟨_, rfl⟩
      | cons there candidate =>
          by_cases hsame : here = there
          · subst hsame
            have hrest : ¬ Within parent candidate := fun hwithin =>
              hout (List.cons_prefix_cons.2 ⟨rfl, hwithin⟩)
            obtain ⟨names, hnames⟩ := ih hrest
            exact ⟨names, by simp [relativeNames, hnames]⟩
          · simp only [relativeNames, if_neg hsame, List.map_cons, List.cons_append]
            exact ⟨_, rfl⟩

theorem relative_self (parent : AbsolutePath) : relative parent parent = [] := by
  have hnames := relativeNames_append parent []
  rw [List.append_nil] at hnames
  simp [relative, hnames, joinNames]

/-- Below the parent, the relative path begins with the first name below it. -/
theorem relative_below (parent : AbsolutePath) (name : Name) (rest : AbsolutePath) :
    ∃ tail, relative parent (parent ++ name :: rest) = name.text ++ tail
      ∧ (parentEntry <+: relative parent (parent ++ name :: rest) ↔ name.Dotted) := by
  obtain ⟨tail, htail, -⟩ := joinNames_cons name.text (rest.map Name.text)
  refine ⟨tail, ?_, ?_⟩
  · simpa [relative] using htail
  · simpa [relative, Name.Dotted] using
      parentEntry_prefix_joinNames name.text (rest.map Name.text)

theorem not_isAbsolute_append (name : Name) (tail : List Char) :
    isAbsolute (name.text ++ tail) = false := by
  obtain ⟨hnonempty, -, -, hplain⟩ := name.proper
  obtain ⟨first, text, htext⟩ := List.exists_cons_of_ne_nil hnonempty
  have hfirst : first ≠ '/' := fun hfirst => hplain (by simp [htext, hfirst])
  simp [isAbsolute, htext, hfirst]

end SimulatorBroker.Paths
