import Mathlib.Algebra.GroupWithZero.Nat
import SimulatorBroker.State.Processes
import SimulatorBroker.CliTar.Pax

/-!
# The archive

`readRawTarEntries` on the unpacked tarball: headers of one block, each followed by its payload up
to the next block, and blocks of zeros at the end.
-/

namespace SimulatorBroker.CliTar

open SimulatorBroker.State (trimChars)
open SimulatorBroker.Text (Bytes decode)

/-! ## Headers -/

def tarBlockSize : Nat := 512

/-- The bytes from an offset on. -/
def subarray (bytes : Bytes) (offset length : Nat) : Bytes :=
  (bytes.drop offset).take length

/-- A field up to its first zero. -/
def tarHeaderText (header : Bytes) (offset length : Nat) : Chars :=
  decode ((subarray header offset length).takeWhile (· ≠ 0))

/-- `buffer.toString("latin1")`. -/
def latin1Text (bytes : Bytes) : Chars :=
  bytes.map fun byte => Char.ofNat byte.toNat

/-- `/^[0-7]+$/`. -/
def isOctal (text : Chars) : Bool :=
  !text.isEmpty && text.all fun digit => decide ('0' ≤ digit ∧ digit ≤ '7')

def tarHeaderOctal (header : Bytes) (offset length : Nat) (fieldName : String) (entryName : Chars) :
    Except TarFault Nat :=
  let value := trimChars (tarHeaderText header offset length)
  if isOctal value then .ok (numeral 8 value) else .error (.invalidField fieldName entryName)

/-- The sum of the header with blanks for the checksum itself. -/
def computedChecksum (header : Bytes) : Nat :=
  (header.zipIdx.map fun entry =>
    if 148 ≤ entry.2 ∧ entry.2 < 156 then 0x20 else entry.1.toNat).sum

/-- `prefix ? prefix/name : name`. -/
def headerName (header : Bytes) : Chars :=
  let name := tarHeaderText header 0 100
  let front := tarHeaderText header 345 155
  if front = [] then name else front ++ '/' :: name

/-- `String.fromCharCode(header[156] || 0x30)`. -/
def headerTypeFlag (header : Bytes) : Char :=
  let byte := header.getD 156 0
  if byte = 0 then '0' else Char.ofNat byte.toNat

/-! ## Entries -/

structure TarEntry where
  gid : Nat
  gname : Chars
  magic : Chars
  name : Chars
  paxRecords : List PaxRecord
  typeFlag : Char
  uid : Nat
  uname : Chars
  version : Chars
  deriving DecidableEq, Repr

/-- The size of the entry, once its checksum is right. -/
def readSize (header : Bytes) : Except TarFault Nat := do
  let entryName := headerName header
  let size ← tarHeaderOctal header 124 12 "size" entryName
  let storedChecksum ← tarHeaderOctal header 148 8 "checksum" entryName
  if storedChecksum = computedChecksum header then return size
  else throw (.invalidChecksum entryName)

/-- Only the types `x` and `g` have records. -/
def readPaxRecords (typeFlag : Char) (payload : Bytes) (name : Chars) :
    Except TarFault (List PaxRecord) :=
  if typeFlag = 'x' ∨ typeFlag = 'g' then parsePaxRecords name payload else .ok []

def readEntry (header payload : Bytes) : Except TarFault TarEntry := do
  let name := headerName header
  let typeFlag := headerTypeFlag header
  let gid ← tarHeaderOctal header 116 8 "gid" name
  let paxRecords ← readPaxRecords typeFlag payload name
  let uid ← tarHeaderOctal header 108 8 "uid" name
  return {
    gid
    gname := tarHeaderText header 297 32
    magic := latin1Text (subarray header 257 6)
    name
    paxRecords
    typeFlag
    uid
    uname := tarHeaderText header 265 32
    version := latin1Text (subarray header 263 2) }

/-! ## The loop -/

/-- `Math.ceil(size / tarBlockSize) * tarBlockSize`. -/
def paddedSize (size : Nat) : Nat :=
  (size + (tarBlockSize - 1)) / tarBlockSize * tarBlockSize

/-- The loop of `readRawTarEntries` from an offset on. -/
def readEntries (rest : Bytes) : Except TarFault (List TarEntry) :=
  if rest.length < tarBlockSize then .error .missingTrailer
  else
    let header := rest.take tarBlockSize
    if header.all (· = 0) then
      if rest.length < tarBlockSize * 2 then .error .shortTrailer
      else if rest.all (· = 0) then .ok []
      else .error .dataAfterTrailer
    else
      match readSize header with
      | .error fault => .error fault
      | .ok size =>
          if rest.length < tarBlockSize + size then .error (.truncatedEntry (headerName header))
          else do
            let entry ← readEntry header (subarray rest tarBlockSize size)
            let entries ← readEntries (rest.drop (tarBlockSize + paddedSize size))
            return entry :: entries
termination_by rest.length
decreasing_by
  rename_i hlong _ _
  rw [List.length_drop]
  simp only [tarBlockSize] at hlong ⊢
  omega

def readRawTarEntries (archive : Bytes) : Except TarFault (List TarEntry) :=
  if archive.length % tarBlockSize = 0 then readEntries archive else .error .incompleteBlocks

/-! ## The format -/

/-- A numeric field of a header. -/
structure IsOctalField (header : Bytes) (offset length value : Nat) : Prop where
  octal : isOctal (trimChars (tarHeaderText header offset length)) = true
  value : numeral 8 (trimChars (tarHeaderText header offset length)) = value

/-- A block that is the header of the entry, with the payload that follows it. -/
structure IsHeader (header payload : Bytes) (entry : TarEntry) : Prop where
  block : header.length = tarBlockSize
  used : header.all (· = 0) = false
  size : IsOctalField header 124 12 payload.length
  checksum : IsOctalField header 148 8 (computedChecksum header)
  gid : IsOctalField header 116 8 entry.gid
  uid : IsOctalField header 108 8 entry.uid
  name : entry.name = headerName header
  gname : entry.gname = tarHeaderText header 297 32
  uname : entry.uname = tarHeaderText header 265 32
  magic : entry.magic = latin1Text (subarray header 257 6)
  version : entry.version = latin1Text (subarray header 263 2)
  typeFlag : entry.typeFlag = headerTypeFlag header
  paxRecords : if entry.typeFlag = 'x' ∨ entry.typeFlag = 'g'
    then IsPaxPayload payload entry.paxRecords else entry.paxRecords = []

/-- Headers with their payloads, and zeros at the end. -/
inductive IsArchive : Bytes → List TarEntry → Prop where
  | trailer {zeros : Bytes} (blocks : tarBlockSize * 2 ≤ zeros.length)
      (allZero : zeros.all (· = 0) = true) : IsArchive zeros []
  | entry {header payload padding rest : Bytes} {entry : TarEntry} {entries : List TarEntry}
      (head : IsHeader header payload entry)
      (padded : payload.length + padding.length = paddedSize payload.length)
      (others : IsArchive rest entries) :
      IsArchive (header ++ (payload ++ (padding ++ rest))) (entry :: entries)

/-! ## The reader follows the format -/

theorem tarHeaderOctal_eq_ok {header : Bytes} {offset length value : Nat} {fieldName : String}
    {entryName : Chars} :
    tarHeaderOctal header offset length fieldName entryName = .ok value ↔
      IsOctalField header offset length value := by
  unfold tarHeaderOctal
  dsimp only
  split
  · rename_i hoctal
    constructor
    · rintro ⟨⟩
      exact ⟨hoctal, rfl⟩
    · rintro ⟨-, rfl⟩
      rfl
  · rename_i hoctal
    constructor
    · rintro ⟨⟩
    · rintro ⟨hfield, -⟩
      exact absurd hfield hoctal

theorem read_bind_eq_ok {α β : Type} {first : Except TarFault α} {rest : α → Except TarFault β}
    {result : β} :
    first >>= rest = .ok result ↔ ∃ value, first = .ok value ∧ rest value = .ok result := by
  cases first with
  | ok value => simp [bind, Except.bind]
  | error fault => simp [bind, Except.bind]

theorem readSize_eq_ok {header : Bytes} {size : Nat} :
    readSize header = .ok size ↔
      IsOctalField header 124 12 size ∧ IsOctalField header 148 8 (computedChecksum header) := by
  unfold readSize
  simp only [read_bind_eq_ok, tarHeaderOctal_eq_ok]
  constructor
  · rintro ⟨found, hsize, storedChecksum, hchecksum, hrest⟩
    split at hrest
    · rename_i hsame
      cases hrest
      exact ⟨hsize, hsame ▸ hchecksum⟩
    · cases hrest
  · rintro ⟨hsize, hchecksum⟩
    exact ⟨size, hsize, _, hchecksum, if_pos rfl⟩

theorem readPaxRecords_eq_ok {typeFlag : Char} {payload : Bytes} {name : Chars}
    {records : List PaxRecord} :
    readPaxRecords typeFlag payload name = .ok records ↔
      if typeFlag = 'x' ∨ typeFlag = 'g' then IsPaxPayload payload records else records = [] := by
  unfold readPaxRecords
  split
  · exact parsePaxRecords_eq_ok
  · constructor
    · rintro ⟨⟩
      rfl
    · rintro rfl
      rfl

theorem readEntry_eq_ok {header payload : Bytes} {entry : TarEntry}
    (hblock : header.length = tarBlockSize) (hused : header.all (· = 0) = false)
    (hsize : readSize header = .ok payload.length) :
    readEntry header payload = .ok entry ↔ IsHeader header payload entry := by
  obtain ⟨hlength, hchecksum⟩ := readSize_eq_ok.mp hsize
  unfold readEntry
  simp only [read_bind_eq_ok, tarHeaderOctal_eq_ok, readPaxRecords_eq_ok]
  constructor
  · rintro ⟨gid, hgid, paxRecords, hpax, uid, huid, hrest⟩
    cases hrest
    exact ⟨hblock, hused, hlength, hchecksum, hgid, huid, rfl, rfl, rfl, rfl, rfl, rfl, hpax⟩
  · intro hheader
    have hpax := hheader.paxRecords
    rw [hheader.typeFlag] at hpax
    refine ⟨entry.gid, hheader.gid, entry.paxRecords, hpax, entry.uid, hheader.uid, ?_⟩
    rw [← hheader.name, ← hheader.gname, ← hheader.uname, ← hheader.magic, ← hheader.version,
      ← hheader.typeFlag]
    rfl

theorem le_paddedSize (size : Nat) : size ≤ paddedSize size := by
  unfold paddedSize tarBlockSize
  omega

/-- One round of the loop on a header with its payload. -/
theorem readEntries_header {header payload padding rest : Bytes} {entry : TarEntry}
    (hheader : IsHeader header payload entry)
    (hpadded : payload.length + padding.length = paddedSize payload.length) :
    readEntries (header ++ (payload ++ (padding ++ rest))) = (readEntries rest).map (entry :: ·) := by
  have hblock : header.length = 512 := hheader.block
  have hsize : readSize header = .ok payload.length :=
    readSize_eq_ok.mpr ⟨hheader.size, hheader.checksum⟩
  have hentry : readEntry header payload = .ok entry :=
    (readEntry_eq_ok hheader.block hheader.used hsize).mpr hheader
  have htake : (header ++ (payload ++ (padding ++ rest))).take tarBlockSize = header := by
    rw [← hheader.block, List.take_left]
  have hpayload : subarray (header ++ (payload ++ (padding ++ rest))) tarBlockSize payload.length =
      payload := by
    unfold subarray
    rw [← hheader.block, List.drop_left, List.take_left]
  have hrest : (header ++ (payload ++ (padding ++ rest))).drop
      (tarBlockSize + paddedSize payload.length) = rest := by
    rw [← hpadded, ← hheader.block, ← List.drop_drop, List.drop_left, ← List.drop_drop,
      List.drop_left, List.drop_left]
  rw [readEntries, if_neg (by simp [tarBlockSize, hblock])]
  simp only [htake, hheader.used, hsize, hpayload, hentry, hrest]
  rw [if_neg (by simp), if_neg (by simp [tarBlockSize, hblock])]
  cases readEntries rest <;> rfl

theorem readEntries_long {archive : Bytes} {entries : List TarEntry}
    (hread : readEntries archive = .ok entries) : tarBlockSize ≤ archive.length := by
  rw [readEntries] at hread
  split at hread
  · cases hread
  · rename_i hlong
    exact Nat.le_of_not_lt hlong

/-- What is accepted is zeros, or begins with a header and its payload. -/
theorem readEntries_inv {archive : Bytes} {entries : List TarEntry}
    (hread : readEntries archive = .ok entries) :
    (tarBlockSize * 2 ≤ archive.length ∧ archive.all (· = 0) = true ∧ entries = []) ∨
      ∃ header payload padding rest entry others,
        archive = header ++ (payload ++ (padding ++ rest)) ∧ IsHeader header payload entry ∧
          payload.length + padding.length = paddedSize payload.length ∧
            readEntries rest = .ok others ∧ entries = entry :: others := by
  rw [readEntries] at hread
  dsimp only at hread
  split at hread
  · cases hread
  · rename_i hlong
    split at hread
    · left
      split at hread
      · cases hread
      · rename_i htwo
        split at hread
        · rename_i hzero
          cases hread
          exact ⟨Nat.le_of_not_lt htwo, hzero, rfl⟩
        · cases hread
    · right
      rename_i hused
      split at hread
      · cases hread
      · rename_i size hsize
        split at hread
        · cases hread
        · rename_i hwhole
          obtain ⟨entry, hentry, hread⟩ := read_bind_eq_ok.mp hread
          obtain ⟨others, hothers, hread⟩ := read_bind_eq_ok.mp hread
          cases hread
          have hmore := readEntries_long hothers
          have hpadded := le_paddedSize size
          rw [List.length_drop] at hmore
          have hblock : (archive.take tarBlockSize).length = tarBlockSize := by
            rw [List.length_take]
            omega
          have hpayload : (subarray archive tarBlockSize size).length = size := by
            rw [subarray, List.length_take, List.length_drop]
            omega
          have hpadding : (subarray archive (tarBlockSize + size) (paddedSize size - size)).length =
              paddedSize size - size := by
            rw [subarray, List.length_take, List.length_drop]
            unfold tarBlockSize at hmore ⊢
            omega
          refine ⟨archive.take tarBlockSize, subarray archive tarBlockSize size,
            subarray archive (tarBlockSize + size) (paddedSize size - size),
            archive.drop (tarBlockSize + paddedSize size), entry, others, ?_, ?_, ?_, hothers, rfl⟩
          · have hend : tarBlockSize + paddedSize size =
                tarBlockSize + size + (paddedSize size - size) := by omega
            have hrest : archive.drop (tarBlockSize + size + (paddedSize size - size)) =
                (archive.drop (tarBlockSize + size)).drop (paddedSize size - size) :=
              List.drop_drop.symm
            have hmiddle : archive.drop (tarBlockSize + size) = (archive.drop tarBlockSize).drop size :=
              List.drop_drop.symm
            rw [hend, hrest, subarray, subarray, List.take_append_drop, hmiddle,
              List.take_append_drop, List.take_append_drop]
          · apply (readEntry_eq_ok hblock (Bool.not_eq_true _ ▸ hused) _).mp hentry
            rw [hpayload]
            exact hsize
          · rw [hpayload, hpadding]
            omega

/-- An archive is accepted exactly if it has the format, and it has one list of entries. -/
theorem readRawTarEntries_eq_ok {archive : Bytes} {entries : List TarEntry} :
    readRawTarEntries archive = .ok entries ↔
      archive.length % tarBlockSize = 0 ∧ IsArchive archive entries := by
  have hentries : readEntries archive = .ok entries ↔ IsArchive archive entries := by
    constructor
    · intro hread
      induction hlength : archive.length using Nat.strong_induction_on
        generalizing archive entries with
      | _ length ih =>
          obtain ⟨hblocks, hzero, rfl⟩ |
            ⟨header, payload, padding, rest, entry, others, rfl, hheader, hpadded, hothers, rfl⟩ :=
            readEntries_inv hread
          · exact .trailer hblocks hzero
          · apply IsArchive.entry hheader hpadded
            refine ih _ ?_ hothers rfl
            have hblock : header.length = 512 := hheader.block
            rw [← hlength]
            simp only [List.length_append]
            omega
    · intro harchive
      induction harchive with
      | @trailer zeros blocks allZero =>
          have hheader : (zeros.take tarBlockSize).all (· = 0) = true := by
            rw [List.all_eq_true] at allZero ⊢
            exact fun byte hmem => allZero byte (List.mem_of_mem_take hmem)
          unfold tarBlockSize at blocks
          rw [readEntries, if_neg (by unfold tarBlockSize; omega)]
          dsimp only
          rw [if_pos hheader, if_neg (by unfold tarBlockSize; omega), if_pos allZero]
      | entry head padded others ih =>
          rw [readEntries_header head padded, ih]
          rfl
  unfold readRawTarEntries
  split
  · rename_i hblocks
    rw [hentries]
    exact ⟨fun harchive => ⟨hblocks, harchive⟩, And.right⟩
  · rename_i hblocks
    constructor
    · rintro ⟨⟩
    · rintro ⟨hwhole, -⟩
      exact absurd hwhole hblocks

end SimulatorBroker.CliTar
