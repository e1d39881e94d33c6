import Mathlib.Data.List.Nodup
import SimulatorBroker.CliTar.Tar

/-!
# Portable archives

`assertPortableCliTarEntries`, and what it promises whoever unpacks the tarball: everything lands
below the one root, and no file overwrites another.
-/

namespace SimulatorBroker.CliTar

open SimulatorBroker.Text (Bytes)

/-! ## The assertions -/

/-- `/[\\/\0]/` finds nothing, and the root is no dot. -/
def isSafeRoot (expectedRoot : Chars) : Bool :=
  decide (expectedRoot ≠ []) && decide (expectedRoot ≠ ['.']) && decide (expectedRoot ≠ ['.', '.'])
    && expectedRoot.all fun c => c != '\\' && c != '/' && c != '\x00'

/-- The name without the slash at its end. -/
def normalizedName (name : Chars) : Chars :=
  if name.getLast? = some '/' then name.dropLast else name

/-- `normalizedName.split("/")`. -/
def nameSegments (name : Chars) : List Chars :=
  (normalizedName name).splitOn '/'

def isUnsafeSegment (segment : Chars) : Bool :=
  segment == [] || segment == ['.'] || segment == ['.', '.']

/-- An assertion about an entry. -/
def demand (holds : Bool) (rule : PortableRule) (entryName : Chars) : Except TarFault Unit :=
  if holds then .ok () else .error (.notPortable rule entryName)

def assertPortableEntry (expectedRoot : Chars) (entry : TarEntry) : Except TarFault Unit := do
  let segments := nameSegments entry.name
  demand (entry.typeFlag == '0' || entry.typeFlag == '5') .payloadType entry.name
  demand (!(entry.name.getLast? == some '/' && entry.typeFlag != '5')) .trailingSlash entry.name
  demand (segments.head? == some expectedRoot) .underRoot entry.name
  demand (!segments.any isUnsafeSegment) .safeSegments entry.name
  demand (entry.paxRecords == []) .noPaxMetadata entry.name
  demand (!segments.any ("._".toList.isPrefixOf ·)) .noAppleDouble entry.name
  demand (entry.magic == "ustar\x00".toList) .magic entry.name
  demand (entry.version == "00".toList) .version entry.name
  demand (entry.uid == 0) .uid entry.name
  demand (entry.gid == 0) .gid entry.name
  demand (entry.uname == []) .uname entry.name
  demand (entry.gname == []) .gname entry.name

def isRootEntry (expectedRoot : Chars) (entry : TarEntry) : Bool :=
  entry.name == expectedRoot || entry.name == expectedRoot ++ ['/']

def assertPortableCliTarEntries (entries : List TarEntry) (expectedRoot : Chars) :
    Except TarFault Unit := do
  demand (isSafeRoot expectedRoot) .safeRoot expectedRoot
  demand (entries != []) .payloadEntries expectedRoot
  demand (decide (entries.map (·.name)).Nodup) .uniquePaths expectedRoot
  entries.forM (assertPortableEntry expectedRoot)
  let rootEntries := entries.filter (isRootEntry expectedRoot)
  demand (rootEntries.length == 1) .oneRoot expectedRoot
  demand (rootEntries.all fun entry => entry.typeFlag == '5') .rootDirectory expectedRoot

/-- `validatePortableCliTar` on the unpacked tarball. -/
def validatePortableCliTar (archive : Bytes) (expectedRoot : Chars) :
    Except TarFault (List TarEntry) := do
  let entries ← readRawTarEntries archive
  assertPortableCliTarEntries entries expectedRoot
  return entries

/-! ## What is accepted -/

structure IsPortableEntry (expectedRoot : Chars) (entry : TarEntry) : Prop where
  payload : entry.typeFlag = '0' ∨ entry.typeFlag = '5'
  directory : entry.name.getLast? = some '/' → entry.typeFlag = '5'
  below : ∃ rest, nameSegments entry.name = expectedRoot :: rest
  safe : ∀ segment ∈ nameSegments entry.name, isUnsafeSegment segment = false
  notAppleDouble : ∀ segment ∈ nameSegments entry.name, "._".toList.isPrefixOf segment = false
  paxRecords : entry.paxRecords = []
  format : entry.magic = "ustar\x00".toList ∧ entry.version = "00".toList
  nobody : entry.uid = 0 ∧ entry.gid = 0 ∧ entry.uname = [] ∧ entry.gname = []

structure IsPortable (expectedRoot : Chars) (entries : List TarEntry) : Prop where
  safeRoot : isSafeRoot expectedRoot = true
  unique : (entries.map (·.name)).Nodup
  each : ∀ entry ∈ entries, IsPortableEntry expectedRoot entry
  root : ∃ entry, entries.filter (isRootEntry expectedRoot) = [entry] ∧ entry.typeFlag = '5'

theorem demand_eq_ok {holds : Bool} {rule : PortableRule} {entryName : Chars} {result : Unit} :
    demand holds rule entryName = .ok result ↔ holds = true := by
  unfold demand
  split
  · rename_i hholds
    exact iff_of_true rfl hholds
  · rename_i hholds
    exact iff_of_false nofun hholds

theorem assertPortableEntry_eq_ok {expectedRoot : Chars} {entry : TarEntry} {result : Unit} :
    assertPortableEntry expectedRoot entry = .ok result ↔ IsPortableEntry expectedRoot entry := by
  unfold assertPortableEntry
  simp only [read_bind_eq_ok, demand_eq_ok, Bool.or_eq_true, beq_iff_eq, Bool.not_eq_true',
    Bool.and_eq_false_iff, List.any_eq_false, bne_eq_false_iff_eq, beq_eq_false_iff_ne]
  constructor
  · rintro ⟨-, hpayload, -, hdirectory, -, hbelow, -, hsafe, -, hpax, -, happle, -, hmagic, -,
      hversion, -, huid, -, hgid, -, huname, hgname⟩
    constructor
    · exact hpayload
    · intro hslash
      exact hdirectory.resolve_left (fun hnot => hnot hslash)
    · cases hsegments : nameSegments entry.name with
      | nil =>
          rw [hsegments] at hbelow
          cases hbelow
      | cons first rest =>
          rw [hsegments] at hbelow
          cases hbelow
          exact ⟨rest, rfl⟩
    · exact fun segment hmem => Bool.eq_false_iff.mpr (hsafe segment hmem)
    · exact fun segment hmem => Bool.eq_false_iff.mpr (happle segment hmem)
    · exact hpax
    · exact ⟨hmagic, hversion⟩
    · exact ⟨huid, hgid, huname, hgname⟩
  · intro hportable
    obtain ⟨rest, hbelow⟩ := hportable.below
    refine ⟨(), hportable.payload, (), ?_, (), ?_, (), ?_, (), hportable.paxRecords, (), ?_, (),
      hportable.format.1, (), hportable.format.2, (), hportable.nobody.1, (), hportable.nobody.2.1,
      (), hportable.nobody.2.2.1, hportable.nobody.2.2.2⟩
    · by_cases hslash : entry.name.getLast? = some '/'
      · exact Or.inr (hportable.directory hslash)
      · exact Or.inl hslash
    · rw [hbelow]
      rfl
    · exact fun segment hmem => Bool.eq_false_iff.mp (hportable.safe segment hmem)
    · exact fun segment hmem => Bool.eq_false_iff.mp (hportable.notAppleDouble segment hmem)

theorem forM_eq_ok {check : TarEntry → Except TarFault Unit} {entries : List TarEntry}
    {result : Unit} : entries.forM check = .ok result ↔ ∀ entry ∈ entries, check entry = .ok () := by
  induction entries with
  | nil => exact iff_of_true rfl nofun
  | cons entry entries ih =>
      have hround : (entry :: entries).forM check = (check entry >>= fun _ => entries.forM check) :=
        rfl
      rw [hround, read_bind_eq_ok, List.forall_mem_cons]
      constructor
      · rintro ⟨⟨⟩, hentry, hrest⟩
        exact ⟨hentry, ih.mp hrest⟩
      · rintro ⟨hentry, hrest⟩
        exact ⟨(), hentry, ih.mpr hrest⟩

/-- The assertions hold exactly of portable archives. -/
theorem assertPortableCliTarEntries_eq_ok {entries : List TarEntry} {expectedRoot : Chars}
    {result : Unit} :
    assertPortableCliTarEntries entries expectedRoot = .ok result ↔
      IsPortable expectedRoot entries := by
  unfold assertPortableCliTarEntries
  simp only [read_bind_eq_ok, demand_eq_ok, forM_eq_ok, assertPortableEntry_eq_ok, beq_iff_eq,
    bne_iff_ne, decide_eq_true_eq, List.all_eq_true]
  constructor
  · rintro ⟨-, hroot, -, -, -, hunique, -, heach, -, hone, hdirectory⟩
    obtain ⟨entry, hentry⟩ := List.length_eq_one_iff.mp hone
    rw [hentry] at hdirectory
    exact ⟨hroot, hunique, heach, entry, hentry, hdirectory entry List.mem_cons_self⟩
  · rintro ⟨hroot, hunique, heach, entry, hentry, hdirectory⟩
    have hsome : entries ≠ [] := by
      rintro rfl
      cases hentry
    refine ⟨(), hroot, (), hsome, (), hunique, (), heach, (), ?_, ?_⟩
    · rw [hentry]
      rfl
    · rw [hentry]
      rintro found (_ | ⟨-, ⟨⟩⟩)
      exact hdirectory

/-- A tarball is accepted exactly if it has the format and its entries are portable. -/
theorem validatePortableCliTar_eq_ok {archive : Bytes} {expectedRoot : Chars}
    {entries : List TarEntry} :
    validatePortableCliTar archive expectedRoot = .ok entries ↔
      archive.length % tarBlockSize = 0 ∧ IsArchive archive entries ∧
        IsPortable expectedRoot entries := by
  unfold validatePortableCliTar
  simp only [read_bind_eq_ok, readRawTarEntries_eq_ok, assertPortableCliTarEntries_eq_ok]
  constructor
  · rintro ⟨found, ⟨hblocks, harchive⟩, ⟨⟩, hportable, hrest⟩
    cases hrest
    exact ⟨hblocks, harchive, hportable⟩
  · rintro ⟨hblocks, harchive, hportable⟩
    exact ⟨entries, ⟨hblocks, harchive⟩, (), hportable, rfl⟩

/-! ## Unpacking -/

/-- Where a segment of a path leads from a directory. -/
def enter (directory : List Chars) (segment : Chars) : List Chars :=
  if segment = [] ∨ segment = ['.'] then directory
  else if segment = ['.', '.'] then directory.dropLast
  else directory ++ [segment]

/-- The place a name means in the directory where the tarball is unpacked, as an exact path; a
volume without case may take two of them for one. -/
def target (directory : List Chars) (name : Chars) : List Chars :=
  let start := if name.head? = some '/' then [] else directory
  (name.splitOn '/').foldl enter start

theorem foldl_enter {segments : List Chars}
    (hsafe : ∀ segment ∈ segments, isUnsafeSegment segment = false) (directory : List Chars) :
    segments.foldl enter directory = directory ++ segments := by
  induction segments generalizing directory with
  | nil => simp
  | cons segment segments ih =>
      have hsegment := hsafe segment List.mem_cons_self
      simp only [isUnsafeSegment, Bool.or_eq_false_iff, beq_eq_false_iff_ne] at hsegment
      obtain ⟨⟨hempty, hdot⟩, hdots⟩ := hsegment
      have henter : enter directory segment = directory ++ [segment] := by
        simp [enter, hempty, hdot, hdots]
      rw [List.foldl_cons, henter, ih fun other hmem => hsafe other (List.mem_cons_of_mem _ hmem)]
      simp

/-- A slash at the end only adds an empty segment. -/
theorem splitOn_name (name : Chars) :
    name.splitOn '/' = nameSegments name ∨ name.splitOn '/' = nameSegments name ++ [[]] := by
  unfold nameSegments normalizedName
  split
  · rename_i hslash
    right
    have hname : name = name.dropLast ++ ['/'] := by
      obtain ⟨front, rfl⟩ := List.getLast?_eq_some_iff.mp hslash
      simp
    conv_lhs => rw [hname]
    rw [List.splitOn_append_cons_self]
    rfl
  · exact Or.inl rfl

theorem isSafeRoot_ne {expectedRoot : Chars} (hroot : isSafeRoot expectedRoot = true) :
    expectedRoot ≠ [] := by
  simp only [isSafeRoot, Bool.and_eq_true, decide_eq_true_eq] at hroot
  exact hroot.1.1.1

/-- A portable entry lands where its segments lead. -/
theorem target_of_portable {expectedRoot : Chars} {entry : TarEntry}
    (hroot : isSafeRoot expectedRoot = true) (hentry : IsPortableEntry expectedRoot entry)
    (directory : List Chars) :
    target directory entry.name = directory ++ nameSegments entry.name := by
  obtain ⟨rest, hbelow⟩ := hentry.below
  have hfirst : (entry.name.splitOn '/').head? = some expectedRoot := by
    rcases splitOn_name entry.name with hsplit | hsplit
    · rw [hsplit, hbelow]
      rfl
    · rw [hsplit, hbelow]
      rfl
  have hrelative : entry.name.head? ≠ some '/' := by
    intro hslash
    obtain ⟨tail, htail⟩ := List.head?_eq_some_iff.mp hslash
    have hempty : (entry.name.splitOn '/').head? = some [] := by
      have hsplit := @List.splitOn_append_cons_self _ _ _ '/' [] tail
      rw [htail, ← List.nil_append ('/' :: tail), hsplit]
      rfl
    rw [hfirst] at hempty
    exact isSafeRoot_ne hroot (Option.some.inj hempty)
  unfold target
  rw [if_neg hrelative]
  rcases splitOn_name entry.name with hsplit | hsplit
  · rw [hsplit, foldl_enter hentry.safe]
  · rw [hsplit, List.foldl_append, foldl_enter hentry.safe]
    simp [enter]

/-- Names with the same segments are the same but for a slash at the end. -/
theorem normalizedName_of_nameSegments {left right : Chars}
    (hsegments : nameSegments left = nameSegments right) :
    normalizedName left = normalizedName right := by
  have hjoin := congrArg (['/'].intercalate ·) hsegments
  simpa only [nameSegments, List.intercalate_splitOn] using hjoin

theorem normalizedName_of_file {expectedRoot : Chars} {entry : TarEntry}
    (hentry : IsPortableEntry expectedRoot entry) (hfile : entry.typeFlag = '0') :
    normalizedName entry.name = entry.name := by
  unfold normalizedName
  rw [if_neg]
  intro hslash
  have hdirectory := hentry.directory hslash
  rw [hfile] at hdirectory
  cases hdirectory

theorem nameSegments_root {expectedRoot : Chars} {entry : TarEntry}
    (hroot : isSafeRoot expectedRoot = true) (hentry : isRootEntry expectedRoot entry = true) :
    nameSegments entry.name = [expectedRoot] := by
  have hslash : '/' ∉ expectedRoot := by
    intro hmem
    simp only [isSafeRoot, Bool.and_eq_true, List.all_eq_true] at hroot
    simpa using hroot.2 '/' hmem
  have hname : normalizedName entry.name = expectedRoot := by
    simp only [isRootEntry, Bool.or_eq_true, beq_iff_eq] at hentry
    unfold normalizedName
    rcases hentry with hname | hname
    · rw [hname, if_neg]
      intro hlast
      exact hslash (List.mem_of_getLast? hlast)
    · rw [hname, if_pos (by simp), List.dropLast_concat]
  rw [nameSegments, hname, List.splitOn_eq_singleton hslash]

/-- What unpacking the entries does in any directory. -/
structure UnpacksBelow (expectedRoot : Chars) (entries : List TarEntry) : Prop where
  below : ∀ entry ∈ entries, ∃ rest, (∀ segment ∈ rest, isUnsafeSegment segment = false) ∧
    ∀ directory, target directory entry.name = directory ++ expectedRoot :: rest
  files : ∀ left ∈ entries, ∀ right ∈ entries, left.typeFlag = '0' → right.typeFlag = '0' →
    ∀ directory, target directory left.name = target directory right.name → left = right
  root : ∃ entry ∈ entries, entry.typeFlag = '5' ∧
    ∀ directory, target directory entry.name = directory ++ [expectedRoot]

/-- Whatever is accepted unpacks below its root directory, and no file overwrites another. -/
theorem unpacksBelow_of_accepted {entries : List TarEntry} {expectedRoot : Chars}
    (haccepted : assertPortableCliTarEntries entries expectedRoot = .ok ()) :
    UnpacksBelow expectedRoot entries := by
  have hportable := assertPortableCliTarEntries_eq_ok.mp haccepted
  have htarget := fun (entry : TarEntry) (hmem : entry ∈ entries) =>
    target_of_portable hportable.safeRoot (hportable.each entry hmem)
  constructor
  · intro entry hmem
    have hentry := hportable.each entry hmem
    obtain ⟨rest, hbelow⟩ := hentry.below
    refine ⟨rest, ?_, ?_⟩
    · intro segment hsegment
      apply hentry.safe
      rw [hbelow]
      exact List.mem_cons_of_mem _ hsegment
    · intro directory
      rw [htarget entry hmem, hbelow]
  · intro left hleft right hright hleftFile hrightFile directory hsame
    rw [htarget left hleft, htarget right hright, List.append_cancel_left_eq] at hsame
    have hname : left.name = right.name :=
      calc left.name
          = normalizedName left.name :=
            (normalizedName_of_file (hportable.each left hleft) hleftFile).symm
        _ = normalizedName right.name := normalizedName_of_nameSegments hsame
        _ = right.name := normalizedName_of_file (hportable.each right hright) hrightFile
    exact List.inj_on_of_nodup_map hportable.unique hleft hright hname
  · obtain ⟨entry, hentry, hdirectory⟩ := hportable.root
    have hmember : entry ∈ entries.filter (isRootEntry expectedRoot) := by
      rw [hentry]
      exact List.mem_cons_self
    obtain ⟨hmem, hname⟩ := List.mem_filter.mp hmember
    refine ⟨entry, hmem, hdirectory, ?_⟩
    intro directory
    rw [htarget entry hmem, nameSegments_root hportable.safeRoot hname]

/-- A root with two files, one of them in a directory of its own. -/
def smallArchive : List TarEntry :=
  let directory : TarEntry := {
    gid := 0
    gname := []
    magic := "ustar\x00".toList
    name := "cli/".toList
    paxRecords := []
    typeFlag := '5'
    uid := 0
    uname := []
    version := "00".toList }
  [directory, { directory with name := "cli/package.json".toList, typeFlag := '0' },
    { directory with name := "cli/bin/".toList },
    { directory with name := "cli/bin/cli.mjs".toList, typeFlag := '0' }]

theorem unpacksBelow_smallArchive : UnpacksBelow "cli".toList smallArchive :=
  unpacksBelow_of_accepted (by decide)

end SimulatorBroker.CliTar
