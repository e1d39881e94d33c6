import Mathlib.Algebra.Group.Int.Defs
import SimulatorBroker.Graph.Walk

/-!
# The process tree of a CLI command

What the app kills when a command times out or is cancelled: the processes that a sample of
`ps` shows below the command's.  The walk keeps a stack and no set of the pids it has seen.
-/

namespace SimulatorBroker.Dashboard

/-- `pid_t`. -/
abbrev ProcessIdentifier := Int

/-- `split`, which leaves empty parts out. A line feed behind a carriage return is no separator of
its own in Swift; `ps` prints no carriage return. -/
def splitWhere (isSeparator : Char → Bool) (text : List Char) : List (List Char) :=
  (text.splitOnP isSeparator).filter fun part => !part.isEmpty

/-- The digits of a magnitude, at least one. -/
def magnitude? (digits : List Char) : Option Int :=
  if !digits.isEmpty && digits.all fun digit => digit.isDigit then
    some (digits.foldl (fun value digit => 10 * value + (digit.toNat - '0'.toNat)) 0 : Nat)
  else none

/-- `pid_t(text)`: a sign or none, digits, and no overflow. -/
def pid_t (text : List Char) : Option ProcessIdentifier := do
  let value ← match text with
    | '-' :: digits => (magnitude? digits).map (-·)
    | '+' :: digits => magnitude? digits
    | digits => magnitude? digits
  if -2 ^ 31 ≤ value ∧ value < 2 ^ 31 then some value else none

/-- One line of the sample: a pid and its parent's. -/
structure ProcessRow where
  pid : ProcessIdentifier
  parentPID : ProcessIdentifier
  deriving DecidableEq, Repr

/-- A line with fewer columns, or with another text in one of them, is passed over. -/
def processRow? (line : List Char) : Option ProcessRow :=
  match splitWhere (fun character => character == ' ' || character == '\t') line with
  | pidColumn :: parentColumn :: _ => do
      let pid ← pid_t pidColumn
      let parentPID ← pid_t parentColumn
      some { pid, parentPID }
  | _ => none

def processRows (output : String) : List ProcessRow :=
  (splitWhere (· == '\n') output.toList).filterMap processRow?

/-- The pids listed under the parent, in the order of the lines. -/
def childrenByParent (output : String) (parentPID : ProcessIdentifier) :
    List ProcessIdentifier :=
  ((processRows output).filter fun row => row.parentPID = parentPID).map (·.pid)

/-- What `ps` has printed is absent when it could not be run, timed out or failed.  The walk
is followed for so many rounds. -/
def descendantProcessIdentifiers (rounds : Nat) (printed : Option String)
    (rootPID : ProcessIdentifier) : Option (List ProcessIdentifier) :=
  match printed with
  | none => some []
  | some output => Graph.walk (childrenByParent output) rounds (childrenByParent output rootPID) []

/-- The walk ends, with these pids. -/
def Returns (printed : Option String) (rootPID : ProcessIdentifier)
    (descendants : List ProcessIdentifier) : Prop :=
  ∃ rounds, descendantProcessIdentifiers rounds printed rootPID = some descendants

/-- The line of the one names the other as its parent. -/
def Parent (output : String) (parentPID pid : ProcessIdentifier) : Prop :=
  { pid, parentPID } ∈ processRows output

/-- The walk ends with each descendant once. -/
def WalksExactly (output : String) (rootPID : ProcessIdentifier) : Prop :=
  ∃ descendants, Returns (some output) rootPID descendants ∧ descendants.Nodup ∧
    ∀ pid, pid ∈ descendants ↔ Relation.TransGen (Parent output) rootPID pid

/-- The lines below the root list each pid once, and the root not at all. -/
structure ListedOnce (output : String) (rootPID : ProcessIdentifier) : Prop where
  once : ∀ parentPID, Relation.ReflTransGen (Parent output) rootPID parentPID →
    (childrenByParent output parentPID).Nodup
  parent : ∀ left right pid, Relation.ReflTransGen (Parent output) rootPID left →
    Relation.ReflTransGen (Parent output) rootPID right →
    Parent output left pid → Parent output right pid → left = right
  root : ∀ parentPID, Relation.ReflTransGen (Parent output) rootPID parentPID →
    ¬ Parent output parentPID rootPID

theorem mem_childrenByParent {output : String} {parentPID pid : ProcessIdentifier} :
    pid ∈ childrenByParent output parentPID ↔ Parent output parentPID pid := by
  unfold childrenByParent Parent
  simp only [List.mem_map, List.mem_filter, decide_eq_true_eq]
  constructor
  · rintro ⟨row, ⟨hrow, rfl⟩, rfl⟩
    exact hrow
  · exact fun hrow => ⟨_, ⟨hrow, rfl⟩, rfl⟩

theorem parent_eq (output : String) :
    (fun parentPID pid => pid ∈ childrenByParent output parentPID) = Parent output :=
  funext fun _ => funext fun _ => propext mem_childrenByParent

theorem reaches_iff {output : String} {rootPID pid : ProcessIdentifier} :
    Graph.Reaches (childrenByParent output) rootPID pid ↔
      Relation.TransGen (Parent output) rootPID pid := by
  unfold Graph.Reaches
  rw [parent_eq]

theorem treeBelow_iff {output : String} {rootPID : ProcessIdentifier} :
    Graph.TreeBelow (childrenByParent output) rootPID ↔ ListedOnce output rootPID := by
  have hwithin : Graph.Within (childrenByParent output) = Relation.ReflTransGen (Parent output) := by
    unfold Graph.Within
    rw [parent_eq]
  constructor
  · rintro ⟨honce, hparent, hroot⟩
    simp only [hwithin, mem_childrenByParent] at honce hparent hroot
    exact ⟨honce, hparent, hroot⟩
  · rintro ⟨honce, hparent, hroot⟩
    constructor
    · simpa only [hwithin] using honce
    · simpa only [hwithin, mem_childrenByParent] using hparent
    · simpa only [hwithin, mem_childrenByParent] using hroot

theorem walksExactly_iff {output : String} {rootPID : ProcessIdentifier} :
    WalksExactly output rootPID ↔ Graph.TreeBelow (childrenByParent output) rootPID := by
  have hpids : ∀ parentPID, ∀ pid ∈ childrenByParent output parentPID,
      pid ∈ ((processRows output).map (·.pid)).toFinset := by
    intro parentPID pid hpid
    exact List.mem_toFinset.mpr (List.mem_map_of_mem (mem_childrenByParent.mp hpid))
  rw [← Graph.walk_exact_iff hpids]
  simp only [reaches_iff]
  constructor
  · rintro ⟨descendants, ⟨rounds, hwalk⟩, hexact⟩
    exact ⟨rounds, descendants, hwalk, hexact⟩
  · rintro ⟨rounds, descendants, hwalk, hexact⟩
    exact ⟨descendants, ⟨rounds, hwalk⟩, hexact⟩

/-- The walk ends with each descendant once exactly where the lines below the root list each
pid once and never the root. -/
theorem descendantProcessIdentifiers_exact_iff (output : String) (rootPID : ProcessIdentifier) :
    WalksExactly output rootPID ↔ ListedOnce output rootPID := by
  rw [walksExactly_iff, treeBelow_iff]

/-- The children of a child come after it. -/
example : descendantProcessIdentifiers 4 (some "  7   5\n 8\t7\n 9 5\nPID PPID\n") 5 =
    some [9, 7, 8] := by decide +kernel

/-- Two processes that name each other as parent are walked through forever. -/
theorem not_walksExactly_cycle :
    ¬ ∀ (output : String) (rootPID : ProcessIdentifier), WalksExactly output rootPID := by
  intro hall
  have htree := treeBelow_iff.mp (walksExactly_iff.mp (hall "10 11\n11 10\n" 10))
  have hchild : Parent "10 11\n11 10\n" 10 11 := by
    unfold Parent
    decide +kernel
  have hback : Parent "10 11\n11 10\n" 11 10 := by
    unfold Parent
    decide +kernel
  exact htree.root 11 (.single hchild) hback

end SimulatorBroker.Dashboard
