import Mathlib.Data.List.Pairwise
import SimulatorBroker.Paths.Overlap

/-!
# Where the path checks hold

A path is outside a directory of the broker when it is not below it.  The checks reject exactly
the paths inside, as long as no path lies below a directory under a name that begins with two
dots.
-/

namespace SimulatorBroker.Paths

variable {letters : CaseMapping}

/-! ## What the checks are for -/

/-- The artifact is a configuration file, the state root, or below the state root. -/
def Protected (paths : BrokerPaths) (artifact : AbsolutePath) : Prop :=
  paths.hostConfigPath = some artifact ∨ paths.projectFilePath = some artifact
    ∨ ∃ root, paths.stateRoot = some root ∧ Within root artifact

/-- The check of artifact paths rejects exactly the protected ones. -/
def JudgesArtifact (files : FileSystem letters) (paths : BrokerPaths)
    (artifact : AbsolutePath) : Prop :=
  (assertLeaseArtifactPathAllowed files paths (some artifact)).isOk = false ↔
    Protected paths artifact

/-- The paths the user chooses. -/
def externalPaths (paths : BrokerPaths) : List AbsolutePath :=
  [paths.hostConfigPath, paths.projectFilePath, paths.serviceSocketPath].reduceOption

/-- The directories the broker owns below its state root. -/
def ownedDirectories (paths : BrokerPaths) : List AbsolutePath :=
  [ paths.capacityTransactionsDir, paths.evidenceDir, paths.leasesDir, paths.locksDir,
    paths.pinsDir, paths.capacityLockDir, paths.leaseLockDir, paths.resetLockDir,
    paths.serviceLockDir ].reduceOption

/-- Accepted paths keep what the user chooses out of the directories of the broker. -/
def KeepsExternalsOut (files : FileSystem letters) (paths : BrokerPaths) : Prop :=
  assertBrokerPathsDistinct files paths = .ok () →
    ∀ external ∈ externalPaths paths, ∀ directory ∈ ownedDirectories paths,
      ¬ Within directory external

/-! ## The conditions -/

/-- An artifact below the state root under a name that begins with two dots is also one of the
configuration files. -/
def PlainArtifact (paths : BrokerPaths) (artifact : AbsolutePath) : Prop :=
  ∀ root, paths.stateRoot = some root → DottedBelow root artifact →
    paths.hostConfigPath = some artifact ∨ paths.projectFilePath = some artifact

/-- The right path is the left one or below it under a name that does not begin with dots. -/
def PlainlyWithin (directory path : AbsolutePath) : Prop :=
  Within directory path ∧ ¬ DottedBelow directory path

/-- Two resources collide: one path for both, or a path of the user in a directory of the
broker, other than under a name that begins with two dots. -/
def Collide (left right : PathEntry) : Prop :=
  left.resolvedPath = right.resolvedPath
    ∨ (left.external ∧ right.kind = .dir ∧ PlainlyWithin right.resolvedPath left.resolvedPath)
    ∨ (right.external ∧ left.kind = .dir ∧ PlainlyWithin left.resolvedPath right.resolvedPath)

/-- No path of the user lies in a directory of the broker under a name that begins with two
dots, or else two of the resources collide. -/
def PlainPaths (files : FileSystem letters) (paths : BrokerPaths) : Prop :=
  (∀ external ∈ externalPaths paths, ∀ directory ∈ ownedDirectories paths,
      ¬ DottedBelow directory external)
    ∨ ¬ (brokerPathEntries files paths).Pairwise fun left right => ¬ Collide left right

/-! ## The entries -/

/-- An entry of a path on a case-sensitive disk without links. -/
def pathEntry (name : String) (external : Bool) (kind : PathKind) (path : AbsolutePath) :
    PathEntry where
  canonicalPath := path
  comparisonPath := path
  external := external
  kind := kind
  name := name
  resolvedPath := path

theorem brokerPathEntry_eq (files : FileSystem letters) (name : String)
    (filePath : Option AbsolutePath) (external : Bool) (kind : PathKind) :
    brokerPathEntry files name filePath external kind =
      filePath.map (pathEntry name external kind) := by
  cases filePath with
  | none => rfl
  | some path => simp [brokerPathEntry, canonicalPathDetailsForComparison_eq, pathEntry]

/-- What the checks rely on in the entries they compare. -/
structure PathEntry.Plain (entry : PathEntry) : Prop where
  canonical : entry.canonicalPath = entry.resolvedPath
  comparison : entry.comparisonPath = entry.resolvedPath
  external_file : entry.external = true → entry.kind = .file

theorem plain_of_mem_brokerPathEntries {files : FileSystem letters} {paths : BrokerPaths}
    {entry : PathEntry} (hmem : entry ∈ brokerPathEntries files paths) : entry.Plain := by
  simp only [brokerPathEntries, brokerPathEntry_eq, List.reduceOption_mem_iff, List.mem_cons,
    List.not_mem_nil, or_false] at hmem
  have hplain : ∀ (name : String) (external : Bool) (kind : PathKind)
      (filePath : Option AbsolutePath), (external = true → kind = .file) →
        some entry = filePath.map (pathEntry name external kind) → entry.Plain := by
    intro name external kind filePath hkind hentry
    obtain ⟨path, -, rfl⟩ := Option.map_eq_some_iff.1 hentry.symm
    exact ⟨rfl, rfl, hkind⟩
  rcases hmem with h | h | h | h | h | h | h | h | h | h | h | h | h | h | h | h | h | h | h | h
    | h | h | h | h
  all_goals exact hplain _ _ _ _ (by simp) h

theorem external_mem_entries (files : FileSystem letters) {paths : BrokerPaths}
    {path : AbsolutePath} (hmem : path ∈ externalPaths paths) :
    ∃ entry ∈ brokerPathEntries files paths,
      entry.external = true ∧ entry.resolvedPath = path := by
  simp only [externalPaths, List.reduceOption_mem_iff, List.mem_cons, List.not_mem_nil,
    or_false] at hmem
  simp only [brokerPathEntries, brokerPathEntry_eq, List.reduceOption_mem_iff]
  rcases hmem with h | h | h
  · exact ⟨pathEntry "hostConfigPath" true .file path, by simp [← h], rfl, rfl⟩
  · exact ⟨pathEntry "projectFilePath" true .file path, by simp [← h], rfl, rfl⟩
  · exact ⟨pathEntry "serviceSocketPath" true .file path, by simp [← h], rfl, rfl⟩

theorem directory_mem_entries (files : FileSystem letters) {paths : BrokerPaths}
    {path : AbsolutePath} (hmem : path ∈ ownedDirectories paths) :
    ∃ entry ∈ brokerPathEntries files paths, entry.kind = .dir ∧ entry.resolvedPath = path := by
  simp only [ownedDirectories, List.reduceOption_mem_iff, List.mem_cons, List.not_mem_nil,
    or_false] at hmem
  simp only [brokerPathEntries, brokerPathEntry_eq, List.reduceOption_mem_iff]
  rcases hmem with h | h | h | h | h | h | h | h | h
  · exact ⟨pathEntry "capacityTransactionsDir" false .dir path, by simp [← h], rfl, rfl⟩
  · exact ⟨pathEntry "evidenceDir" false .dir path, by simp [← h], rfl, rfl⟩
  · exact ⟨pathEntry "leasesDir" false .dir path, by simp [← h], rfl, rfl⟩
  · exact ⟨pathEntry "locksDir" false .dir path, by simp [← h], rfl, rfl⟩
  · exact ⟨pathEntry "pinsDir" false .dir path, by simp [← h], rfl, rfl⟩
  · exact ⟨pathEntry "capacityLockDir" false .dir path, by simp [← h], rfl, rfl⟩
  · exact ⟨pathEntry "leaseLockDir" false .dir path, by simp [← h], rfl, rfl⟩
  · exact ⟨pathEntry "resetLockDir" false .dir path, by simp [← h], rfl, rfl⟩
  · exact ⟨pathEntry "serviceLockDir" false .dir path, by simp [← h], rfl, rfl⟩

/-! ## Distinct paths -/

theorem brokerPathEntriesOverlap_iff {left right : PathEntry} (hleft : left.Plain)
    (hright : right.Plain) :
    brokerPathEntriesOverlap left right = true ↔ Collide left right := by
  unfold brokerPathEntriesOverlap Collide PlainlyWithin
  rw [hleft.canonical, hleft.comparison, hright.canonical, hright.comparison]
  simp only [← pathContainsPath_iff]
  by_cases hsame : left.resolvedPath = right.resolvedPath
  · simp [hsame]
  · by_cases hexternal : left.external = true
    · have hfile := hleft.external_file hexternal
      by_cases hdir : right.kind = .dir
      · simp [hsame, hexternal, hdir, hfile]
      · simp [hsame, hexternal, hdir, hfile]
    · simp [hsame, hexternal, and_assoc]

theorem firstOverlap_eq_none (entries : List PathEntry) :
    firstOverlap entries = none ↔
      entries.Pairwise fun left right => brokerPathEntriesOverlap left right = false := by
  induction entries with
  | nil => simp [firstOverlap]
  | cons left entries ih =>
      rw [List.pairwise_cons, ← ih]
      cases hfind : entries.find? fun right => brokerPathEntriesOverlap left right with
      | none =>
          have hclear : ∀ right ∈ entries, brokerPathEntriesOverlap left right = false := by
            simpa using hfind
          simp only [firstOverlap, hfind]
          exact ⟨fun hrest => ⟨hclear, hrest⟩, fun hboth => hboth.2⟩
      | some right =>
          have hmem := List.mem_of_find?_eq_some hfind
          have hoverlap := List.find?_some hfind
          simp only [firstOverlap, hfind, reduceCtorEq, false_iff, not_and]
          intro hclear
          rw [hclear right hmem] at hoverlap
          cases hoverlap

/-- The paths are accepted exactly when no two of their entries collide. -/
theorem assertBrokerPathsDistinct_eq_ok (files : FileSystem letters) (paths : BrokerPaths) :
    assertBrokerPathsDistinct files paths = .ok () ↔
      (brokerPathEntries files paths).Pairwise fun left right => ¬ Collide left right := by
  have hok : assertBrokerPathsDistinct files paths = .ok () ↔
      firstOverlap (brokerPathEntries files paths) = none := by
    cases hfirst : firstOverlap (brokerPathEntries files paths) <;>
      simp [assertBrokerPathsDistinct, hfirst]
  rw [hok, firstOverlap_eq_none]
  refine List.Pairwise.iff_of_mem fun hleft hright => ?_
  rw [← brokerPathEntriesOverlap_iff (plain_of_mem_brokerPathEntries hleft)
    (plain_of_mem_brokerPathEntries hright), Bool.not_eq_true]

theorem Collide.symm {left right : PathEntry} (hcollide : Collide left right) :
    Collide right left := by
  rcases hcollide with hsame | hleft | hright
  · exact Or.inl hsame.symm
  · exact Or.inr (Or.inr hleft)
  · exact Or.inr (Or.inl hright)

instance : Std.Symm fun left right : PathEntry => ¬ Collide left right where
  symm _ _ hapart hcollide := hapart hcollide.symm

/-- Where no entries collide, nothing the user chose lies in a directory of the broker by a
plain name. -/
theorem not_plainlyWithin_of_pairwise {files : FileSystem letters} {paths : BrokerPaths}
    (hapart : (brokerPathEntries files paths).Pairwise fun left right => ¬ Collide left right)
    {external directory : AbsolutePath} (hexternal : external ∈ externalPaths paths)
    (hdirectory : directory ∈ ownedDirectories paths) : ¬ PlainlyWithin directory external := by
  obtain ⟨left, hleft, hchosen, rfl⟩ := external_mem_entries files hexternal
  obtain ⟨right, hright, hdir, rfl⟩ := directory_mem_entries files hdirectory
  have hfile := (plain_of_mem_brokerPathEntries hleft).external_file hchosen
  have hne : left ≠ right := by
    rintro rfl
    rw [hdir] at hfile
    cases hfile
  intro hwithin
  exact hapart.forall hleft hright hne (Or.inr (Or.inl ⟨hchosen, hdir, hwithin⟩))

/-- Accepted paths keep what the user chooses out exactly when the paths are plain. -/
theorem keepsExternalsOut_iff (files : FileSystem letters) (paths : BrokerPaths) :
    KeepsExternalsOut files paths ↔ PlainPaths files paths := by
  unfold KeepsExternalsOut PlainPaths
  rw [assertBrokerPathsDistinct_eq_ok]
  constructor
  · intro hkeeps
    by_cases hapart : (brokerPathEntries files paths).Pairwise fun left right =>
        ¬ Collide left right
    · left
      intro external hexternal directory hdirectory hbelow
      exact hkeeps hapart external hexternal directory hdirectory hbelow.within
    · exact Or.inr hapart
  · intro hplain hapart external hexternal directory hdirectory hwithin
    rcases hplain with hplain | hcollide
    · exact not_plainlyWithin_of_pairwise hapart hexternal hdirectory
        ⟨hwithin, hplain external hexternal directory hdirectory⟩
    · exact hcollide hapart

/-! ## Lease artifacts -/

theorem assertLeaseArtifactPathAllowed_isOk (files : FileSystem letters) (paths : BrokerPaths)
    (artifact : AbsolutePath) :
    (assertLeaseArtifactPathAllowed files paths (some artifact)).isOk = false ↔
      (∃ root, paths.stateRoot = some root ∧ PlainlyWithin root artifact)
        ∨ paths.hostConfigPath = some artifact ∨ paths.projectFilePath = some artifact := by
  have hrejects : (assertLeaseArtifactPathAllowed files paths (some artifact)).isOk = false ↔
      leaseArtifactPathOverlap files paths (some artifact) ≠ none := by
    cases hoverlap : leaseArtifactPathOverlap files paths (some artifact) <;>
      simp [assertLeaseArtifactPathAllowed, hoverlap, Except.isOk, Except.toBool]
  rw [hrejects]
  have hroot : (∃ root, paths.stateRoot = some root ∧ PlainlyWithin root artifact) ↔
      ∃ root ∈ [paths.stateRoot].reduceOption, pathContainsPath root artifact = true := by
    simp only [List.reduceOption_mem_iff, List.mem_singleton, pathContainsPath_iff]
    exact exists_congr fun root => and_congr_left' eq_comm
  have hfiles : (paths.hostConfigPath = some artifact ∨ paths.projectFilePath = some artifact) ↔
      artifact ∈ [paths.hostConfigPath, paths.projectFilePath].reduceOption := by
    simp [List.reduceOption_mem_iff, eq_comm]
  rw [hroot, hfiles]
  unfold leaseArtifactPathOverlap
  simp only [Option.bind_some, canonicalPathForComparison_eq, Bool.or_self]
  cases hdir : [paths.stateRoot].reduceOption.find? fun root => pathContainsPath root artifact with
  | some root =>
      have hmem := List.mem_of_find?_eq_some hdir
      have hinside := List.find?_some hdir
      simp only [ne_eq, reduceCtorEq, not_false_eq_true, true_iff]
      exact Or.inl ⟨root, hmem, hinside⟩
  | none =>
      have hclear := List.find?_eq_none.1 hdir
      simp only [ne_eq, Option.map_eq_none_iff, List.find?_eq_none, not_forall]
      constructor
      · rintro ⟨file, hmem, hsame⟩
        have hfile : file = artifact := by simpa using hsame
        exact Or.inr (hfile ▸ hmem)
      · rintro (⟨root, hmem, hinside⟩ | hmem)
        · exact absurd hinside (hclear root hmem)
        · exact ⟨artifact, hmem, by simp⟩

/-- The check of artifacts is right exactly for the plain ones. -/
theorem judgesArtifact_iff (files : FileSystem letters) (paths : BrokerPaths)
    (artifact : AbsolutePath) :
    JudgesArtifact files paths artifact ↔ PlainArtifact paths artifact := by
  unfold JudgesArtifact
  rw [assertLeaseArtifactPathAllowed_isOk]
  constructor
  · intro hjudges root hroot hbelow
    have hprotected : Protected paths artifact := Or.inr (Or.inr ⟨root, hroot, hbelow.within⟩)
    rcases hjudges.2 hprotected with ⟨other, hother, -, hplain⟩ | hfile
    · rw [hroot] at hother
      cases hother
      exact absurd hbelow hplain
    · exact hfile
  · intro hplain
    constructor
    · rintro (⟨root, hroot, hwithin, -⟩ | hhost | hproject)
      · exact Or.inr (Or.inr ⟨root, hroot, hwithin⟩)
      · exact Or.inl hhost
      · exact Or.inr (Or.inl hproject)
    · rintro (hhost | hproject | ⟨root, hroot, hwithin⟩)
      · exact Or.inr (Or.inl hhost)
      · exact Or.inr (Or.inr hproject)
      · by_cases hbelow : DottedBelow root artifact
        · exact Or.inr (hplain root hroot hbelow)
        · exact Or.inl ⟨root, hroot, hwithin, hbelow⟩

/-! ## Both checks -/

/-- The checks of the broker are right about the paths and the artifact exactly when both are
plain. -/
theorem checks_right_iff (files : FileSystem letters) (paths : BrokerPaths)
    (artifact : AbsolutePath) :
    JudgesArtifact files paths artifact ∧ KeepsExternalsOut files paths ↔
      PlainArtifact paths artifact ∧ PlainPaths files paths := by
  rw [judgesArtifact_iff, keepsExternalsOut_iff]

/-- The other case of the state root is another directory. -/
example : (resolveBrokerPaths twoCases [Name.of "State", Name.of "host.json"] [Name.of "state"]
      [Name.of "tmp", Name.of "broker.sock"] none).map (fun paths =>
        [Name.of "State", Name.of "state"].map fun root =>
          (assertLeaseArtifactPathAllowed twoCases paths (some [root, Name.of "lease.json"])).isOk) =
    .ok [true, false] := by decide +kernel

/-! ## A path the checks miss -/

/-- Letters without case. -/
def caseless : CaseMapping where
  toLowerCase character := [character]
  toUpperCase character := [character]
  pathToLowerCase path := path
  keepsNames name := by simpa [flipAsciiCase] using name.proper

/-- A disk with nothing on it. -/
def emptyDisk : FileSystem caseless where
  statSync _ := none
  caseSensitive _ _ _ _ hfile := nomatch hfile

/-- A host configuration among the lease files is accepted, and so is an artifact beside the
registry, where their names begin with two dots. -/
theorem not_checks_right :
    ∃ paths, resolveBrokerPaths emptyDisk [Name.of "state", Name.of "leases", Name.of "..host.json"]
          [Name.of "state"] [Name.of "tmp", Name.of "broker.sock"] none = .ok paths
      ∧ ¬ KeepsExternalsOut emptyDisk paths
      ∧ ¬ JudgesArtifact emptyDisk paths [Name.of "state", Name.of "..lease.json"] := by
  refine ⟨_, rfl, ?_, ?_⟩
  · intro hkeeps
    have haccepted := hkeeps (by rfl)
    exact haccepted [Name.of "state", Name.of "leases", Name.of "..host.json"] (by decide)
      [Name.of "state", Name.of "leases"] (by decide) (by decide)
  · intro hjudges
    have hprotected := hjudges.2 (Or.inr (Or.inr ⟨[Name.of "state"], rfl, by decide⟩))
    revert hprotected
    decide

end SimulatorBroker.Paths
