import Mathlib.Data.List.ReduceOption
import SimulatorBroker.Paths.Relative

/-!
# Protected broker paths

The broker keeps its resources at paths that must not coincide, and refuses a lease artifact
at a configuration file, at the state root or below it.  Both checks compare paths as given
and as they are on disk.  On a case-sensitive disk without symbolic links the two agree, and
the checks depend on one text test of the relative path, which takes every name that begins
with two dots for a way out of the directory.
-/

namespace SimulatorBroker.Paths

/-! ## Comparing paths on disk -/

/-- `flipAsciiCase` over the letter mappings of the language. -/
def flipAsciiCase (toLowerCase toUpperCase : Char → List Char) (value : List Char) : List Char :=
  value.flatMap fun character =>
    let lower := toLowerCase character
    let upper := toUpperCase character
    if lower = upper then [character]
    else if [character] = lower then upper else lower

/-- The letter mappings of the language; no mapping makes a separator or a dot entry. -/
structure CaseMapping where
  toLowerCase : Char → List Char
  toUpperCase : Char → List Char
  pathToLowerCase : AbsolutePath → AbsolutePath
  keepsNames : ∀ name : Name, Proper (flipAsciiCase toLowerCase toUpperCase name.text)

/-- The name with the case of its letters flipped. -/
def CaseMapping.flip (letters : CaseMapping) (name : Name) : Name :=
  ⟨flipAsciiCase letters.toLowerCase letters.toUpperCase name.text, letters.keepsNames name⟩

/--
A disk without symbolic links: the device and inode of the file at each path.  It is
case-sensitive: the other case of a name does not lead to the same file.
-/
structure FileSystem (letters : CaseMapping) where
  statSync : AbsolutePath → Option (Nat × Nat)
  caseSensitive : ∀ directory name file, letters.flip name ≠ name →
    statSync (directory ++ [name]) = some file →
      statSync (directory ++ [letters.flip name]) ≠ some file

variable {letters : CaseMapping}

/-- `sameExistingPath`. -/
def sameExistingPath (files : FileSystem letters) (leftPath rightPath : AbsolutePath) : Bool :=
  match files.statSync leftPath, files.statSync rightPath with
  | some left, some right => left == right
  | _, _ => false

/-- The loop of `existingPathUsesCaseInsensitiveSemantics`, from the last name up. -/
def caseInsensitiveFrom (files : FileSystem letters) : List Name → Bool
  | [] => false
  | basename :: parent =>
      let flippedBasename := letters.flip basename
      if flippedBasename ≠ basename then
        sameExistingPath files (parent.reverse ++ [basename]) (parent.reverse ++ [flippedBasename])
      else caseInsensitiveFrom files parent

/-- `existingPathUsesCaseInsensitiveSemantics`. -/
def existingPathUsesCaseInsensitiveSemantics (files : FileSystem letters)
    (existingPath : AbsolutePath) : Bool :=
  caseInsensitiveFrom files existingPath.reverse

/-- What `canonicalPathDetailsForComparison` returns. -/
structure PathDetails where
  canonicalPath : AbsolutePath
  comparisonPath : AbsolutePath
deriving DecidableEq

/-- `fs.realpathSync` where no name is a link; nothing stands for a missing file. -/
def realpathSync (files : FileSystem letters) (filePath : AbsolutePath) : Option AbsolutePath :=
  (files.statSync filePath).map fun _ => filePath

/-- The loop of `canonicalPathDetailsForComparison`: the names tried, last first, and the
segments already set aside. -/
def canonicalPathFrom (files : FileSystem letters) (resolvedPath : AbsolutePath) :
    List Name → List Name → PathDetails
  | candidate, pendingSegments =>
      match realpathSync files candidate.reverse with
      | some existingPath =>
          let canonicalPath := existingPath ++ pendingSegments
          { canonicalPath
            comparisonPath :=
              if existingPathUsesCaseInsensitiveSemantics files existingPath then
                letters.pathToLowerCase canonicalPath
              else canonicalPath }
      | none =>
          match candidate with
          | [] => { canonicalPath := resolvedPath, comparisonPath := resolvedPath }
          | basename :: parent =>
              canonicalPathFrom files resolvedPath parent (basename :: pendingSegments)

/-- `canonicalPathDetailsForComparison`. -/
def canonicalPathDetailsForComparison (files : FileSystem letters) (filePath : AbsolutePath) :
    PathDetails :=
  canonicalPathFrom files filePath filePath.reverse []

/-- `canonicalPathForComparison`. -/
def canonicalPathForComparison (files : FileSystem letters) (filePath : AbsolutePath) :
    AbsolutePath :=
  (canonicalPathDetailsForComparison files filePath).comparisonPath

theorem caseInsensitiveFrom_eq_false (files : FileSystem letters) (names : List Name) :
    caseInsensitiveFrom files names = false := by
  induction names with
  | nil => rfl
  | cons basename parent ih =>
      by_cases hflip : letters.flip basename = basename
      · simp [caseInsensitiveFrom, hflip, ih]
      · cases hleft : files.statSync (parent.reverse ++ [basename]) with
        | none => simp [caseInsensitiveFrom, hflip, sameExistingPath, hleft]
        | some file =>
            have hright := files.caseSensitive parent.reverse basename file hflip hleft
            cases hflipped : files.statSync (parent.reverse ++ [letters.flip basename]) with
            | none => simp [caseInsensitiveFrom, hflip, sameExistingPath, hflipped]
            | some other =>
                have hother : file ≠ other := fun hsame => hright (by rw [hflipped, hsame])
                simp [caseInsensitiveFrom, hflip, sameExistingPath, hleft, hflipped, hother]

theorem canonicalPathFrom_eq (files : FileSystem letters) (candidate pending : List Name) :
    canonicalPathFrom files (candidate.reverse ++ pending) candidate pending =
      ⟨candidate.reverse ++ pending, candidate.reverse ++ pending⟩ := by
  induction candidate generalizing pending with
  | nil =>
      unfold canonicalPathFrom
      cases hroot : files.statSync [] with
      | some file =>
          simp [realpathSync, hroot, existingPathUsesCaseInsensitiveSemantics,
            caseInsensitiveFrom_eq_false]
      | none => simp [realpathSync, hroot]
  | cons basename parent ih =>
      unfold canonicalPathFrom
      cases hfile : files.statSync (basename :: parent).reverse with
      | some file =>
          simp only [realpathSync, hfile, Option.map_some,
            existingPathUsesCaseInsensitiveSemantics, caseInsensitiveFrom_eq_false]
          rfl
      | none =>
          have hrest := ih (basename :: pending)
          simp only [realpathSync, hfile, Option.map_none]
          simpa using hrest

/-- On such a disk every path is its own canonical form. -/
theorem canonicalPathDetailsForComparison_eq (files : FileSystem letters)
    (filePath : AbsolutePath) :
    canonicalPathDetailsForComparison files filePath = ⟨filePath, filePath⟩ := by
  have hdetails := canonicalPathFrom_eq files filePath.reverse []
  simpa [canonicalPathDetailsForComparison] using hdetails

@[simp] theorem canonicalPathForComparison_eq (files : FileSystem letters)
    (filePath : AbsolutePath) : canonicalPathForComparison files filePath = filePath := by
  rw [canonicalPathForComparison, canonicalPathDetailsForComparison_eq]

/-! ## Containment of paths -/

/-- `pathContainsPath`. -/
def pathContainsPath (parentPath candidatePath : AbsolutePath) : Bool :=
  let relativePath := relative parentPath candidatePath
  relativePath.isEmpty
    || (!relativePath.isEmpty && !parentEntry.isPrefixOf relativePath
      && !isAbsolute relativePath)

/-- The text test sees every path inside except those under a name beginning with two dots. -/
theorem pathContainsPath_iff (parent candidate : AbsolutePath) :
    pathContainsPath parent candidate = true ↔
      Within parent candidate ∧ ¬ DottedBelow parent candidate := by
  by_cases hwithin : Within parent candidate
  · obtain ⟨rest, rfl⟩ := hwithin
    cases rest with
    | nil =>
        have hself : ¬ DottedBelow parent parent := fun hbelow => hbelow.ne rfl
        rw [List.append_nil]
        simp [pathContainsPath, relative_self, hself, Within]
    | cons name rest =>
        obtain ⟨tail, htail, hdots⟩ := relative_below parent name rest
        have hempty : (name.text ++ tail).isEmpty = false := by
          simp [name.proper.1]
        have hbelow : DottedBelow parent (parent ++ name :: rest) ↔ name.Dotted := by
          constructor
          · rintro ⟨other, others, hsame, hdotted⟩
            obtain ⟨rfl, -⟩ := List.cons.inj (List.append_cancel_left hsame)
            exact hdotted
          · intro hdotted
            exact ⟨name, rest, rfl, hdotted⟩
        rw [hbelow, ← hdots, ← List.isPrefixOf_iff_prefix]
        simp only [pathContainsPath, htail, hempty, not_isAbsolute_append]
        have hin : Within parent (parent ++ name :: rest) := List.prefix_append _ _
        simp [hin, -List.isPrefixOf_iff_prefix]
  · obtain ⟨names, hnames⟩ := relativeNames_of_not_within hwithin
    have hleading : parentEntry <+: relative parent candidate := by
      rw [relative, hnames, parentEntry_prefix_joinNames]
    have hnonempty : (relative parent candidate).isEmpty = false := by
      obtain ⟨tail, htail⟩ := hleading
      rw [← htail]
      rfl
    have hdots := List.isPrefixOf_iff_prefix.2 hleading
    simp [pathContainsPath, hnonempty, hdots, hwithin]

/-! ## The paths of the broker -/

/-- The resources whose paths the broker compares; a missing path is skipped. -/
structure BrokerPaths where
  hostConfigPath : Option AbsolutePath
  projectFilePath : Option AbsolutePath
  serviceSocketPath : Option AbsolutePath
  stateRoot : Option AbsolutePath
  appSnapshotPath : Option AbsolutePath
  knownProjectsPath : Option AbsolutePath
  idlePolicyPath : Option AbsolutePath
  registryPath : Option AbsolutePath
  eventsPath : Option AbsolutePath
  serviceLogPath : Option AbsolutePath
  serviceMetadataPath : Option AbsolutePath
  capacityLockOwnerPath : Option AbsolutePath
  leaseLockOwnerPath : Option AbsolutePath
  resetLockOwnerPath : Option AbsolutePath
  serviceLockOwnerPath : Option AbsolutePath
  capacityTransactionsDir : Option AbsolutePath
  evidenceDir : Option AbsolutePath
  leasesDir : Option AbsolutePath
  locksDir : Option AbsolutePath
  pinsDir : Option AbsolutePath
  capacityLockDir : Option AbsolutePath
  leaseLockDir : Option AbsolutePath
  resetLockDir : Option AbsolutePath
  serviceLockDir : Option AbsolutePath
deriving DecidableEq

/-- Whether a resource is a file, a directory of the broker or its state root. -/
inductive PathKind where
  | file
  | dir
  | root
deriving DecidableEq

/-- A resource as `brokerPathEntry` records it. -/
structure PathEntry where
  canonicalPath : AbsolutePath
  comparisonPath : AbsolutePath
  external : Bool
  kind : PathKind
  name : String
  resolvedPath : AbsolutePath
deriving DecidableEq

/-- `brokerPathEntry`. -/
def brokerPathEntry (files : FileSystem letters) (name : String)
    (filePath : Option AbsolutePath) (external : Bool := false) (kind : PathKind := .file) :
    Option PathEntry :=
  filePath.map fun resolvedPath =>
    let pathDetails := canonicalPathDetailsForComparison files resolvedPath
    { canonicalPath := pathDetails.canonicalPath
      comparisonPath := pathDetails.comparisonPath
      external, kind, name, resolvedPath }

/-- `brokerPathEntriesOverlap`. -/
def brokerPathEntriesOverlap (left right : PathEntry) : Bool :=
  if left.resolvedPath = right.resolvedPath
      ∨ left.canonicalPath = right.canonicalPath
      ∨ left.comparisonPath = right.comparisonPath then
    true
  else if left.external && right.kind = .dir then
    pathContainsPath right.resolvedPath left.resolvedPath
      || pathContainsPath right.canonicalPath left.canonicalPath
      || pathContainsPath right.comparisonPath left.comparisonPath
  else if right.external && left.kind = .dir then
    pathContainsPath left.resolvedPath right.resolvedPath
      || pathContainsPath left.canonicalPath right.canonicalPath
      || pathContainsPath left.comparisonPath right.comparisonPath
  else false

/-- The entries `assertBrokerPathsDistinct` compares. -/
def brokerPathEntries (files : FileSystem letters) (paths : BrokerPaths) : List PathEntry :=
  [ brokerPathEntry files "hostConfigPath" paths.hostConfigPath true,
    brokerPathEntry files "projectFilePath" paths.projectFilePath true,
    brokerPathEntry files "serviceSocketPath" paths.serviceSocketPath true,
    brokerPathEntry files "stateRoot" paths.stateRoot false .root,
    brokerPathEntry files "appSnapshotPath" paths.appSnapshotPath,
    brokerPathEntry files "knownProjectsPath" paths.knownProjectsPath,
    brokerPathEntry files "idlePolicyPath" paths.idlePolicyPath,
    brokerPathEntry files "registryPath" paths.registryPath,
    brokerPathEntry files "eventsPath" paths.eventsPath,
    brokerPathEntry files "serviceLogPath" paths.serviceLogPath,
    brokerPathEntry files "serviceMetadataPath" paths.serviceMetadataPath,
    brokerPathEntry files "capacityLockOwnerPath" paths.capacityLockOwnerPath,
    brokerPathEntry files "leaseLockOwnerPath" paths.leaseLockOwnerPath,
    brokerPathEntry files "resetLockOwnerPath" paths.resetLockOwnerPath,
    brokerPathEntry files "serviceLockOwnerPath" paths.serviceLockOwnerPath,
    brokerPathEntry files "capacityTransactionsDir" paths.capacityTransactionsDir false .dir,
    brokerPathEntry files "evidenceDir" paths.evidenceDir false .dir,
    brokerPathEntry files "leasesDir" paths.leasesDir false .dir,
    brokerPathEntry files "locksDir" paths.locksDir false .dir,
    brokerPathEntry files "pinsDir" paths.pinsDir false .dir,
    brokerPathEntry files "capacityLockDir" paths.capacityLockDir false .dir,
    brokerPathEntry files "leaseLockDir" paths.leaseLockDir false .dir,
    brokerPathEntry files "resetLockDir" paths.resetLockDir false .dir,
    brokerPathEntry files "serviceLockDir" paths.serviceLockDir false .dir ].reduceOption

/-- The error of `assertBrokerPathsDistinct`. -/
structure PathConflict where
  conflictingPath : AbsolutePath
  conflictingResource : String
  resource : String
  resourcePath : AbsolutePath
deriving DecidableEq

/-- The nested loop of `assertBrokerPathsDistinct`: the first pair that overlaps. -/
def firstOverlap : List PathEntry → Option (PathEntry × PathEntry)
  | [] => none
  | left :: entries =>
      match entries.find? fun right => brokerPathEntriesOverlap left right with
      | some right => some (left, right)
      | none => firstOverlap entries

/-- `assertBrokerPathsDistinct`. -/
def assertBrokerPathsDistinct (files : FileSystem letters) (paths : BrokerPaths) :
    Except PathConflict Unit :=
  match firstOverlap (brokerPathEntries files paths) with
  | some (left, right) =>
      .error
        { conflictingPath := right.resolvedPath
          conflictingResource := right.name
          resource := left.name
          resourcePath := left.resolvedPath }
  | none => .ok ()

/-- `resolveBrokerPaths`, from the four paths that the options and the environment give. -/
def resolveBrokerPaths (files : FileSystem letters) (hostConfigPath stateRoot : AbsolutePath)
    (serviceSocketPath : AbsolutePath) (projectFilePath : Option AbsolutePath) :
    Except PathConflict BrokerPaths :=
  let locksDir := stateRoot ++ [Name.of "locks"]
  let ownerPath := fun lockDir : AbsolutePath => lockDir ++ [Name.of "owner.json"]
  let capacityLockDir := locksDir ++ [Name.of "capacity.lock"]
  let leaseLockDir := locksDir ++ [Name.of "lease-mutation.lock"]
  let resetLockDir := locksDir ++ [Name.of "reset.lock"]
  let serviceLockDir := locksDir ++ [Name.of "service-start.lock"]
  let paths : BrokerPaths :=
    { hostConfigPath
      projectFilePath
      serviceSocketPath
      stateRoot
      appSnapshotPath := stateRoot ++ [Name.of "app-snapshot.json"]
      knownProjectsPath := stateRoot ++ [Name.of "known-projects.json"]
      idlePolicyPath := stateRoot ++ [Name.of "idle-policy.json"]
      registryPath := stateRoot ++ [Name.of "registry.json"]
      eventsPath := stateRoot ++ [Name.of "events.ndjson"]
      serviceLogPath := stateRoot ++ [Name.of "brokerd.log"]
      serviceMetadataPath := stateRoot ++ [Name.of "brokerd.json"]
      capacityLockOwnerPath := ownerPath capacityLockDir
      leaseLockOwnerPath := ownerPath leaseLockDir
      resetLockOwnerPath := ownerPath resetLockDir
      serviceLockOwnerPath := ownerPath serviceLockDir
      capacityTransactionsDir := stateRoot ++ [Name.of "capacity-transactions"]
      evidenceDir := stateRoot ++ [Name.of "evidence"]
      leasesDir := stateRoot ++ [Name.of "leases"]
      locksDir
      pinsDir := stateRoot ++ [Name.of "pins"]
      capacityLockDir
      leaseLockDir
      resetLockDir
      serviceLockDir }
  (assertBrokerPathsDistinct files paths).map fun _ => paths

/-- What part of the broker an artifact would overwrite. -/
inductive ProtectedType where
  | stateRoot
  | configFile
deriving DecidableEq

/-- What `leaseArtifactPathOverlap` returns. -/
structure ArtifactOverlap where
  artifactPath : AbsolutePath
  protectedPath : AbsolutePath
  protectedType : ProtectedType
deriving DecidableEq

/-- `leaseArtifactPathOverlap`. -/
def leaseArtifactPathOverlap (files : FileSystem letters) (paths : BrokerPaths)
    (artifactPath : Option AbsolutePath) : Option ArtifactOverlap :=
  artifactPath.bind fun resolvedArtifactPath =>
    let canonicalArtifactPath := canonicalPathForComparison files resolvedArtifactPath
    let protectedDirs := [paths.stateRoot].reduceOption
    let protectedFiles := [paths.hostConfigPath, paths.projectFilePath].reduceOption
    let overlappingDir := protectedDirs.find? fun candidate =>
      pathContainsPath candidate resolvedArtifactPath
        || pathContainsPath (canonicalPathForComparison files candidate) canonicalArtifactPath
    match overlappingDir with
    | some protectedPath =>
        some
          { artifactPath := resolvedArtifactPath
            protectedPath
            protectedType := .stateRoot }
    | none =>
        let overlappingFile := protectedFiles.find? fun candidate =>
          candidate == resolvedArtifactPath
            || canonicalPathForComparison files candidate == canonicalArtifactPath
        overlappingFile.map fun protectedPath =>
          { artifactPath := resolvedArtifactPath
            protectedPath
            protectedType := .configFile }

/-- `assertLeaseArtifactPathAllowed`. -/
def assertLeaseArtifactPathAllowed (files : FileSystem letters) (paths : BrokerPaths)
    (artifactPath : Option AbsolutePath) : Except ArtifactOverlap Unit :=
  match leaseArtifactPathOverlap files paths artifactPath with
  | none => .ok ()
  | some overlap => .error overlap

/-! ## A disk with letters of both cases -/

/-- No letter changes into a mark below the letters. -/
theorem eq_of_toLower {letter mark : Char} (hmark : mark.toNat < 65)
    (heq : letter.toLower = mark) : letter = mark := by
  unfold Char.toLower at heq
  split at heq
  · next hupper =>
    have hfirst : 65 ≤ letter.val.toNat := UInt32.le_iff_toNat_le.mp hupper.1
    have hlast : letter.val.toNat ≤ 90 := UInt32.le_iff_toNat_le.mp hupper.2
    have hvalue : (letter.val + 32).toNat = mark.toNat := congrArg Char.toNat heq
    rw [UInt32.toNat_add] at hvalue
    simp only [UInt32.reduceToNat] at hvalue
    omega
  · exact heq

theorem eq_of_toUpper {letter mark : Char} (hmark : mark.toNat < 65)
    (heq : letter.toUpper = mark) : letter = mark := by
  unfold Char.toUpper at heq
  split at heq
  · next hlower =>
    have hfirst : 97 ≤ letter.val.toNat := UInt32.le_iff_toNat_le.mp hlower.1
    have hlast : letter.val.toNat ≤ 122 := UInt32.le_iff_toNat_le.mp hlower.2
    have hshift : 'A'.val - 'a'.val = 4294967264 := by decide
    have hvalue := congrArg Char.val heq
    dsimp only at hvalue
    rw [hshift] at hvalue
    have hnumber := congrArg UInt32.toNat hvalue
    rw [UInt32.toNat_add] at hnumber
    have hlow : mark.val.toNat < 65 := hmark
    simp only [UInt32.reduceToNat] at hnumber
    omega
  · exact heq

/-- The other case of an ASCII letter. -/
def otherCase (letter : Char) : Char :=
  if letter.toLower = letter.toUpper then letter
  else if letter = letter.toLower then letter.toUpper else letter.toLower

theorem eq_of_otherCase {letter mark : Char} (hmark : mark.toNat < 65)
    (heq : otherCase letter = mark) : letter = mark := by
  unfold otherCase at heq
  split at heq
  · exact heq
  · split at heq
    · exact eq_of_toUpper hmark heq
    · exact eq_of_toLower hmark heq

theorem flipAsciiCase_eq (text : List Char) :
    flipAsciiCase (fun letter => [letter.toLower]) (fun letter => [letter.toUpper]) text =
      text.map otherCase := by
  induction text with
  | nil => rfl
  | cons letter text ih =>
      unfold flipAsciiCase otherCase at *
      rw [List.flatMap_cons, ih, List.map_cons]
      simp only [List.cons.injEq, and_true]
      split
      · rfl
      · split <;> rfl

theorem proper_map {change : Char → Char}
    (hmarks : ∀ letter mark : Char, mark.toNat < 65 → change letter = mark → letter = mark)
    (name : Name) : Proper (name.text.map change) := by
  obtain ⟨hempty, hdot, hdots, hslash⟩ := name.proper
  have hback : ∀ dots : List Char, (∀ mark ∈ dots, mark = '.') →
      ∀ text : List Char, text.map change = dots → text = dots := by
    intro dots hdots text hmap
    subst hmap
    induction text with
    | nil => rfl
    | cons letter text ih =>
        have hletter := hdots _ List.mem_cons_self
        rw [List.map_cons, hletter, hmarks letter '.' (by decide) hletter,
          ← ih fun mark hmark => hdots mark (List.mem_cons_of_mem _ hmark)]
  refine ⟨by simpa using hempty, fun h => hdot (hback _ (by simp) _ h),
    fun h => hdots (hback _ (by simp [parentEntry]) _ h), fun h => hslash ?_⟩
  obtain ⟨letter, hletter, heq⟩ := List.mem_map.mp h
  rwa [← hmarks letter '/' (by decide) heq]

/-- The case of ASCII letters. -/
def asciiLetters : CaseMapping where
  toLowerCase letter := [letter.toLower]
  toUpperCase letter := [letter.toUpper]
  pathToLowerCase path := path.map fun name =>
    ⟨name.text.map Char.toLower, proper_map (fun _ _ => eq_of_toLower) name⟩
  keepsNames name := by
    rw [flipAsciiCase_eq]
    exact proper_map (fun _ _ => eq_of_otherCase) name

/-- A case-sensitive disk with a file at each of the paths. -/
def diskOf (paths : List AbsolutePath) : FileSystem letters where
  statSync path := (paths.idxOf? path).map fun inode => (1, inode)
  caseSensitive directory name file hflip hfile hother := by
    obtain ⟨left, hleft, rfl⟩ := Option.map_eq_some_iff.mp hfile
    obtain ⟨right, hright, hsame⟩ := Option.map_eq_some_iff.mp hother
    cases hsame
    obtain ⟨hleftIndex, hleftPath⟩ := List.idxOf?_eq_some_iff.mp hleft
    obtain ⟨hrightIndex, hrightPath⟩ := List.idxOf?_eq_some_iff.mp hright
    have hpath : directory ++ [name] = directory ++ [letters.flip name] :=
      hleftPath.1.symm.trans hrightPath.1
    exact hflip (List.singleton_inj.mp (List.append_cancel_left hpath)).symm

/-- The name of the state root in both cases, with an artifact below one of them. -/
def twoCases : FileSystem asciiLetters :=
  diskOf [[Name.of "state"], [Name.of "State"], [Name.of "State", Name.of "lease.json"]]

end SimulatorBroker.Paths
