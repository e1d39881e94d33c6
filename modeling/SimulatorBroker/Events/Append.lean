import SimulatorBroker.Text.Json
import SimulatorBroker.Text.Utf8

/-!
# Appending to the event log

The log is one JSON record a line.  An append first repairs the tail that an
interrupted append left, and takes its own bytes back when it fails.
-/

namespace SimulatorBroker.Events

open SimulatorBroker.Text

def newline : UInt8 := 0x0A

/-- `NDJSON_TAIL_REPAIR_CHUNK_BYTES`. -/
def tailRepairChunkBytes : Nat := 64 * 1024

/-- `NDJSON_TAIL_RECORD_MAX_BYTES`. -/
def tailRecordMaxBytes : Nat := 1024 * 1024

/-- What is at the log's path; `none` when nothing is. -/
abbrev LogFile : Type := Option Bytes

/-- `readSync(fd, buffer, 0, count, position)`. -/
def readSync (file : Bytes) (count position : Nat) : Bytes :=
  (file.drop position).take count

def lastIndexOf (byte : UInt8) : Bytes → Option Nat
  | [] => none
  | first :: rest =>
      match lastIndexOf byte rest with
      | some index => some (index + 1)
      | none => if first = byte then some 0 else none

/-- The loop of `findLastNewlineOffset`; `steps` bounds its turns. -/
def findLastNewlineFrom (file : Bytes) (bufferLength : Nat) : Nat → Nat → Option Nat
  | 0, _ => none
  | steps + 1, position =>
      if position = 0 then none
      else
        let bytesToRead := min bufferLength position
        let start := position - bytesToRead
        match lastIndexOf newline (readSync file bytesToRead start) with
        | some newlineIndex => some (start + newlineIndex)
        | none => findLastNewlineFrom file bufferLength steps start

def findLastNewlineOffset (file : Bytes) : Option Nat :=
  findLastNewlineFrom file (min tailRepairChunkBytes file.length) file.length file.length

/-- `tailStart`. -/
def tailStart (file : Bytes) : Nat :=
  match findLastNewlineOffset file with
  | none => 0
  | some lastNewlineOffset => lastNewlineOffset + 1

/-- Which calls of a repair fail. -/
structure RepairFaults where
  stat : Bool := false
  /-- The open, or a read. -/
  read : Bool := false
  newline : Bool := false
  truncate : Bool := false
  sync : Bool := false
  close : Bool := false
  deriving DecidableEq, Repr

namespace RepairFaults

/-- The `finally` of a repair: a changed file is synced, and closed in any case. -/
def leave (faults : RepairFaults) (modified : Bool) (file : Bytes) : LogFile × Bool :=
  (some file, !((modified && faults.sync) || faults.close))

/-- `ftruncateSync(fd, tailStart)` and the way out. -/
def cut (faults : RepairFaults) (file : Bytes) (tailStart : Nat) : LogFile × Bool :=
  if faults.truncate then (some file, false) else faults.leave true (file.take tailStart)

end RepairFaults

/-- The file after the repair, and whether the call returned. -/
def repairNdjsonTail (faults : RepairFaults) : LogFile → LogFile × Bool
  | none => (none, true)
  | some file =>
      if faults.stat then (some file, false)
      else if file.length = 0 then (some file, true)
      else if faults.read then (some file, false)
      else if readSync file 1 (file.length - 1) = [newline] then faults.leave false file
      else
        let tailLength := file.length - tailStart file
        if tailRecordMaxBytes < tailLength then faults.cut file (tailStart file)
        else if parses (decode (readSync file tailLength (tailStart file))) then
          -- the write is inside the `try`, so its failure cuts the record off as well
          if faults.newline then faults.cut file (tailStart file)
          else faults.leave true (file ++ [newline])
        else faults.cut file (tailStart file)

/-- How the calls of an append around its repair go; a failed write has put `written`
bytes down, and the truncation after a failure may fail as well. -/
inductive AppendOutcome where
  | succeeds
  | directoryFails
  | openFails
  | writeFails (written : Nat) (truncates : Bool)
  | syncFails (truncates : Bool)
  /-- The close, or the `chmod` after it. -/
  | closeFails
  deriving DecidableEq, Repr

/-- The text of a record without its line end. -/
def recordBytes (payload : Members) : Bytes :=
  encode (stringify (.object payload))

/-- What an append does to a repaired file that it has opened. -/
def appendRecord (repaired : Bytes) (payload : Members) : AppendOutcome → Bytes
  | .succeeds | .closeFails => repaired ++ (recordBytes payload ++ [newline])
  | .directoryFails | .openFails => repaired
  | .writeFails written truncates =>
      let partly := repaired ++ (recordBytes payload ++ [newline]).take written
      if truncates then partly.take repaired.length else partly
  | .syncFails truncates =>
      let whole := repaired ++ (recordBytes payload ++ [newline])
      if truncates then whole.take repaired.length else whole

/-- `appendNdjson`: the file after the call, and whether the call returned. -/
def appendNdjson (file : LogFile) (payload : Members) (faults : RepairFaults)
    (outcome : AppendOutcome) : LogFile × Bool :=
  if outcome = .directoryFails then (file, false)
  else
    let repair := repairNdjsonTail faults file
    if repair.2 = false ∨ outcome = .openFails then (repair.1, false)
    else
      -- opening for appending creates the file
      (some (appendRecord (repair.1.getD []) payload outcome), outcome = .succeeds)

/-! ## Records -/

/-- `content.split("\n")`, without the empty lines. -/
def records (file : Bytes) : List Bytes :=
  (file.splitOn newline).filter (fun line => decide (line ≠ []))

/-- The records that end with a line end. -/
def completeRecords (file : Bytes) : List Bytes :=
  (file.splitOn newline).dropLast.filter (fun line => decide (line ≠ []))

/-- A record on a line of its own. -/
structure Line where
  bytes : Bytes
  nonempty : bytes ≠ []
  oneLine : newline ∉ bytes

/-- A log whose records all end with a line end. -/
def logOf (texts : List Bytes) : Bytes :=
  texts.flatMap (· ++ [newline])

/-- What a repair keeps of a torn record. -/
def keptTail (torn : Bytes) : List Bytes :=
  if torn.length ≤ tailRecordMaxBytes ∧ parses (decode torn) = true then [torn] else []

/-! ## The last line end -/

theorem lastIndexOf_append (byte : UInt8) (left right : Bytes) :
    lastIndexOf byte (left ++ right) =
      match lastIndexOf byte right with
      | some index => some (left.length + index)
      | none => lastIndexOf byte left := by
  induction left with
  | nil => cases h : lastIndexOf byte right <;> simp [lastIndexOf, h]
  | cons first left ih =>
      simp only [List.cons_append, lastIndexOf, ih]
      cases lastIndexOf byte right with
      | none => rfl
      | some index => simp only [List.length_cons, Option.some.injEq]; omega

theorem lastIndexOf_notMem {byte : UInt8} {bytes : Bytes} (hnot : byte ∉ bytes) :
    lastIndexOf byte bytes = none := by
  induction bytes with
  | nil => rfl
  | cons first bytes ih =>
      have hfirst : first ≠ byte := fun heq => hnot (heq ▸ List.mem_cons_self)
      simp [lastIndexOf, ih fun hmem => hnot (List.mem_cons_of_mem first hmem), hfirst]

/-- Reading chunk after chunk backwards finds the last line end before a position. -/
theorem findLastNewlineFrom_eq (file : Bytes) {bufferLength : Nat} (hbuffer : 0 < bufferLength)
    (steps position : Nat) (hposition : position ≤ file.length) (hsteps : position ≤ steps) :
    findLastNewlineFrom file bufferLength steps position =
      lastIndexOf newline (file.take position) := by
  induction steps generalizing position with
  | zero =>
      have hzero : position = 0 := by omega
      simp [findLastNewlineFrom, hzero, lastIndexOf]
  | succ steps ih =>
      by_cases hzero : position = 0
      · simp [findLastNewlineFrom, hzero, lastIndexOf]
      · have hchunk : file.take position =
            file.take (position - min bufferLength position) ++
              readSync file (min bufferLength position) (position - min bufferLength position) := by
          rw [readSync, ← List.take_add]
          congr 1
          omega
        have hlength : (file.take (position - min bufferLength position)).length =
            position - min bufferLength position := by
          rw [List.length_take]
          omega
        rw [hchunk, lastIndexOf_append, hlength, findLastNewlineFrom, if_neg hzero]
        simp only
        rw [ih (position - min bufferLength position) (by omega) (by omega)]

theorem findLastNewlineOffset_eq (file : Bytes) :
    findLastNewlineOffset file = lastIndexOf newline file := by
  by_cases hempty : file = []
  · rw [hempty]
    rfl
  · have hlength : 0 < file.length := List.length_pos_iff.mpr hempty
    have hbuffer : 0 < min tailRepairChunkBytes file.length := by
      rw [Nat.lt_min]
      exact ⟨by decide, hlength⟩
    rw [findLastNewlineOffset, findLastNewlineFrom_eq file hbuffer _ _ (Nat.le_refl _)
      (Nat.le_refl _), List.take_length]

/-! ## Repairing the tail -/

theorem logOf_cases (texts : List Bytes) :
    logOf texts = [] ∨ ∃ front, logOf texts = front ++ [newline] := by
  obtain rfl | ⟨texts, last, rfl⟩ := List.eq_nil_or_concat' texts
  · exact Or.inl rfl
  · exact Or.inr ⟨logOf texts ++ last, by simp [logOf]⟩

/-- The torn record starts where the log's last line ends. -/
theorem tailStart_eq (texts : List Bytes) {torn : Bytes} (htorn : newline ∉ torn) :
    tailStart (logOf texts ++ torn) = (logOf texts).length := by
  rw [tailStart, findLastNewlineOffset_eq, lastIndexOf_append, lastIndexOf_notMem htorn]
  obtain hnil | ⟨front, hfront⟩ := logOf_cases texts
  · simp [hnil, lastIndexOf]
  · simp [hfront, lastIndexOf_append, lastIndexOf]

/-- What a repair makes of a torn record: it drops it, or gives it its line end where it
is a JSON text of at most 1 MiB; that it does, unless the write of the line end fails. -/
structure Kept (faults : RepairFaults) (torn : Bytes) (kept : List Bytes) : Prop where
  whole : kept = [] ∨ kept = keptTail torn
  restored : faults.newline = false → kept = keptTail torn

variable {faults : RepairFaults} {texts : List Bytes} {torn : Bytes}

/-- A torn record that is cut off. -/
theorem cut_logOf (hkept : Kept faults torn []) :
    faults.cut (logOf texts ++ torn) (logOf texts).length =
        (some (logOf texts ++ torn), false) ∨
      ∃ kept, Kept faults torn kept ∧
        (faults.cut (logOf texts ++ torn) (logOf texts).length).1 =
          some (logOf (texts ++ kept)) := by
  unfold RepairFaults.cut
  cases faults.truncate with
  | true => exact .inl rfl
  | false =>
      refine .inr ⟨[], hkept, ?_⟩
      simp [RepairFaults.leave]

/-- A repair leaves the file as it was and throws, or makes every record complete. -/
theorem repairNdjsonTail_spec (faults : RepairFaults) (texts : List Bytes) {torn : Bytes}
    (htorn : newline ∉ torn) :
    repairNdjsonTail faults (some (logOf texts ++ torn)) = (some (logOf texts ++ torn), false) ∨
      ∃ kept, Kept faults torn kept ∧
        (repairNdjsonTail faults (some (logOf texts ++ torn))).1 =
          some (logOf (texts ++ kept)) := by
  rw [repairNdjsonTail]
  by_cases hstat : faults.stat = true
  · exact .inl (if_pos hstat)
  rw [if_neg hstat]
  have hnone : keptTail [] = [] := by decide
  by_cases hempty : torn = []
  · have hkept : Kept faults torn [] := by
      subst hempty
      exact ⟨.inl rfl, fun _ => hnone.symm⟩
    subst hempty
    rw [List.append_nil]
    split
    · exact .inr ⟨[], hkept, by rw [List.append_nil]⟩
    · next hlength =>
        obtain hnil | ⟨front, hfront⟩ := logOf_cases texts
        · exact absurd (by rw [hnil]; rfl) hlength
        · have hend : readSync (logOf texts) 1 ((logOf texts).length - 1) = [newline] := by
            simp [hfront, readSync]
          by_cases hread : faults.read = true
          · exact .inl (if_pos hread)
          · rw [if_neg hread, if_pos hend]
            exact .inr ⟨[], hkept, by rw [List.append_nil]; rfl⟩
  · obtain ⟨front, last, rfl⟩ := List.eq_nil_or_concat' torn |>.resolve_left hempty
    have hlast : last ≠ newline := fun heq => htorn (by simp [heq])
    have hnonzero : (logOf texts ++ (front ++ [last])).length ≠ 0 := by simp
    have hend : readSync (logOf texts ++ (front ++ [last]))
        1 ((logOf texts ++ (front ++ [last])).length - 1) ≠ [newline] := by
      have hread : readSync (logOf texts ++ (front ++ [last]))
          1 ((logOf texts ++ (front ++ [last])).length - 1) = [last] := by
        rw [← List.append_assoc]
        simp [readSync]
      rw [hread]
      simpa using hlast
    rw [if_neg hnonzero]
    by_cases hread : faults.read = true
    · exact .inl (if_pos hread)
    rw [if_neg hread, if_neg hend, tailStart_eq texts htorn]
    generalize front ++ [last] = torn
    have htail : (logOf texts ++ torn).length - (logOf texts).length = torn.length := by simp
    have hread : readSync (logOf texts ++ torn) torn.length (logOf texts).length = torn := by
      simp [readSync]
    simp only [htail, hread]
    by_cases hlong : tailRecordMaxBytes < torn.length
    · rw [if_pos hlong]
      have hdropped : keptTail torn = [] := if_neg fun h => absurd h.1 (by omega)
      exact cut_logOf ⟨.inl rfl, fun _ => hdropped.symm⟩
    rw [if_neg hlong]
    by_cases hparses : parses (decode torn) = true
    · rw [if_pos hparses]
      have hwhole : keptTail torn = [torn] := if_pos ⟨by omega, hparses⟩
      cases hnewline : faults.newline with
      | true => exact cut_logOf ⟨.inl rfl, fun hwritten => by simp [hnewline] at hwritten⟩
      | false =>
          refine .inr ⟨[torn], ⟨.inr hwhole.symm, fun _ => hwhole.symm⟩, ?_⟩
          simp [RepairFaults.leave, logOf]
    · rw [if_neg hparses]
      have hdropped : keptTail torn = [] := if_neg fun h => hparses h.2
      exact cut_logOf ⟨.inl rfl, fun _ => hdropped.symm⟩

/-- The same for a log that may not exist yet. -/
theorem getD_repairNdjsonTail (faults : RepairFaults) {file : LogFile} (htorn : newline ∉ torn)
    (hfile : file.getD [] = logOf texts ++ torn) :
    repairNdjsonTail faults file = (file, false) ∨
      ∃ kept, Kept faults torn kept ∧
        (repairNdjsonTail faults file).1.getD [] = logOf (texts ++ kept) := by
  cases file with
  | some bytes =>
      rw [show bytes = logOf texts ++ torn from hfile]
      obtain hthrows | ⟨kept, hkept, hafter⟩ := repairNdjsonTail_spec faults texts htorn
      · exact .inl hthrows
      · exact .inr ⟨kept, hkept, by rw [hafter]; rfl⟩
  | none =>
      obtain ⟨hlog, rfl⟩ := List.append_eq_nil_iff.mp hfile.symm
      have hnone : keptTail [] = [] := by decide
      refine .inr ⟨[], ⟨.inl rfl, fun _ => hnone.symm⟩, ?_⟩
      rw [List.append_nil, hlog]
      rfl

/-! ## What an append leaves -/

theorem splitOn_logOf {texts : List Bytes} (htexts : ∀ text ∈ texts, newline ∉ text) :
    (logOf texts).splitOn newline = texts ++ [[]] := by
  induction texts with
  | nil => rfl
  | cons text rest ih =>
      have hsplit := List.splitOn_append_cons_self_of_not_mem
        (htexts text List.mem_cons_self) (logOf rest)
      rw [show logOf (text :: rest) = text ++ newline :: logOf rest by simp [logOf], hsplit,
        ih fun other hother => htexts other (List.mem_cons_of_mem text hother), List.cons_append]

/-- Every record of a log without a torn one is complete. -/
theorem records_logOf {texts : List Bytes} (htexts : ∀ text ∈ texts, newline ∉ text ∧ text ≠ []) :
    records (logOf texts) = texts := by
  have hfilter : texts.filter (fun line => decide (line ≠ [])) = texts := by
    rw [List.filter_eq_self]
    intro text htext
    simpa using (htexts text htext).2
  rw [records, splitOn_logOf fun text htext => (htexts text htext).1, List.filter_append, hfilter]
  simp

/-- Whatever follows complete records leaves them complete. -/
theorem completeRecords_logOf_append {texts : List Bytes}
    (htexts : ∀ text ∈ texts, newline ∉ text ∧ text ≠ []) (rest : Bytes) :
    completeRecords (logOf texts ++ rest) = texts ++ completeRecords rest := by
  induction texts with
  | nil => rfl
  | cons text texts ih =>
      have htext := htexts text List.mem_cons_self
      have hsplit := List.splitOn_append_cons_self_of_not_mem htext.1 (logOf texts ++ rest)
      have hne : (logOf texts ++ rest).splitOn newline ≠ [] := List.splitOn_ne_nil _ _
      have hlog : logOf (text :: texts) ++ rest = text ++ newline :: (logOf texts ++ rest) := by
        simp [logOf]
      have hkeeps : decide (text ≠ []) = true := decide_eq_true htext.2
      rw [completeRecords, hlog, hsplit, List.dropLast_cons_of_ne_nil hne,
        List.filter_cons, if_pos hkeeps, ← completeRecords,
        ih fun other hother => htexts other (List.mem_cons_of_mem text hother),
        List.cons_append]

theorem completeRecords_logOf {texts : List Bytes}
    (htexts : ∀ text ∈ texts, newline ∉ text ∧ text ≠ []) :
    completeRecords (logOf texts) = texts := by
  have hrest := completeRecords_logOf_append htexts []
  rwa [List.append_nil, show completeRecords [] = [] from rfl, List.append_nil] at hrest

theorem newline_notMem_recordBytes (payload : Members) : newline ∉ recordBytes payload := by
  intro hmem
  obtain ⟨c, hc, hcode⟩ := mem_encode_ascii (by decide) hmem
  have hline : c = '\n' := Char.toNat_inj.mp hcode
  exact notMem_stringify (.object payload) (hline ▸ hc)

theorem recordBytes_ne_nil (payload : Members) : recordBytes payload ≠ [] := by
  intro hnil
  have hdecoded : stringify (.object payload) = [] := by
    have hread := decode_encode (stringify (.object payload))
    rw [show encode (stringify (.object payload)) = [] from hnil] at hread
    exact hread.symm
  have hparses := parses_object payload
  rw [hdecoded] at hparses
  exact absurd hparses (by decide)

theorem keptTail_mem {torn text : Bytes} (htorn : newline ∉ torn) (hmem : text ∈ keptTail torn) :
    newline ∉ text ∧ text ≠ [] := by
  unfold keptTail at hmem
  split at hmem
  · next hkept =>
      rw [List.mem_singleton.mp hmem]
      refine ⟨htorn, ?_⟩
      rintro rfl
      exact absurd hkept.2 (by decide)
  · cases hmem

/-- A torn object is kept only when nothing of it is missing. -/
theorem keptTail_prefix {record : Members} {torn : Bytes} (hstart : torn <+: recordBytes record) :
    keptTail torn =
      if torn = recordBytes record ∧ torn.length ≤ tailRecordMaxBytes then [torn] else [] := by
  have hparses : parses (decode torn) = true ↔ torn = recordBytes record := by
    obtain ⟨taken, htaken, ⟨hbytes, hdecoded⟩ | ⟨hstrict, hdecoded⟩⟩ := decode_cut hstart
    · rw [hdecoded]
      by_cases hwhole : taken = stringify (.object record)
      · rw [hwhole, hbytes, hwhole]
        exact ⟨fun _ => rfl, fun _ => parses_object record⟩
      · have hnot := (parses_object_cut htaken hwhole).1
        refine ⟨fun htrue => absurd htrue (by simp [hnot]), fun heq => ?_⟩
        exact absurd (encode_injective (hbytes ▸ heq)) hwhole
    · have hnot := (parses_object_cut htaken hstrict).2
      rw [hdecoded]
      refine ⟨fun htrue => absurd (hnot.symm.trans htrue) (by decide), fun heq => ?_⟩
      rw [heq, recordBytes, decode_encode] at hdecoded
      exact hdecoded ▸ parses_object record
  unfold keptTail
  simp only [hparses, and_comm]

/-- An append whose write or sync fails and is taken back. -/
inductive AppendOutcome.TakenBack : AppendOutcome → Prop where
  | write (written : Nat) : TakenBack (.writeFails written true)
  | sync : TakenBack (.syncFails true)

theorem appendRecord_takenBack {payload : Members} {outcome : AppendOutcome}
    (houtcome : outcome.TakenBack) (repaired : Bytes) :
    appendRecord repaired payload outcome = repaired := by
  cases houtcome with
  | write written => simp [appendRecord]
  | sync => simp [appendRecord]

/-- An append only adds to the repaired file. -/
theorem appendRecord_extends (repaired : Bytes) (payload : Members) (outcome : AppendOutcome) :
    ∃ added, appendRecord repaired payload outcome = repaired ++ added := by
  unfold appendRecord
  cases outcome with
  | succeeds | closeFails => exact ⟨_, rfl⟩
  | directoryFails | openFails => exact ⟨[], (List.append_nil _).symm⟩
  | writeFails written truncates =>
      cases truncates with
      | true => exact ⟨[], by simp⟩
      | false => exact ⟨_, rfl⟩
  | syncFails truncates =>
      cases truncates with
      | true => exact ⟨[], by simp⟩
      | false => exact ⟨_, rfl⟩

section Durable

variable {lines : List Line} {file : LogFile} {payload : Members} {outcome : AppendOutcome}

theorem lines_kept {kept : List Bytes} (htorn : newline ∉ torn) (hkept : Kept faults torn kept) :
    ∀ text ∈ lines.map (·.bytes) ++ kept, newline ∉ text ∧ text ≠ [] := by
  intro text hmem
  obtain hold | htail := List.mem_append.mp hmem
  · obtain ⟨line, -, rfl⟩ := List.mem_map.mp hold
    exact ⟨line.oneLine, line.nonempty⟩
  · obtain rfl | rfl := hkept.whole
    · cases htail
    · exact keptTail_mem htorn htail

/-- An append whose repair returned writes behind complete records. -/
theorem appendNdjson_repaired (hreached : outcome ≠ .directoryFails ∧ outcome ≠ .openFails)
    (hrepaired : (repairNdjsonTail faults file).2 = true) :
    appendNdjson file payload faults outcome =
      (some (appendRecord ((repairNdjsonTail faults file).1.getD []) payload outcome),
        decide (outcome = .succeeds)) := by
  simp [appendNdjson, hreached.1, hreached.2, hrepaired]

/-- An append that returned had its repair return and its own calls succeed. -/
theorem succeeds_of_returned (hreturned : (appendNdjson file payload faults outcome).2 = true) :
    outcome = .succeeds ∧ (repairNdjsonTail faults file).2 = true := by
  unfold appendNdjson at hreturned
  split at hreturned
  · cases hreturned
  · simp only at hreturned
    split at hreturned
    · cases hreturned
    · next hrepaired =>
        refine ⟨of_decide_eq_true hreturned, ?_⟩
        simpa using fun hfalse => hrepaired (.inl hfalse)

/-- Whatever fails, what is in the file afterwards starts with the old complete records. -/
theorem appendNdjson_extends (payload : Members) (faults : RepairFaults) (outcome : AppendOutcome)
    (htorn : newline ∉ torn) (hfile : file.getD [] = logOf (lines.map (·.bytes)) ++ torn) :
    ∃ more, (appendNdjson file payload faults outcome).1.getD [] =
      logOf (lines.map (·.bytes)) ++ more := by
  have hrepair : ∃ more, (repairNdjsonTail faults file).1.getD [] =
      logOf (lines.map (·.bytes)) ++ more := by
    obtain hthrows | ⟨kept, -, hafter⟩ := getD_repairNdjsonTail faults htorn hfile
    · exact ⟨torn, by rw [hthrows, hfile]⟩
    · exact ⟨logOf kept, by rw [hafter]; simp [logOf]⟩
  unfold appendNdjson
  split
  · exact ⟨torn, hfile⟩
  · simp only
    split
    · exact hrepair
    · obtain ⟨more, hmore⟩ := hrepair
      obtain ⟨added, hadded⟩ := appendRecord_extends
        ((repairNdjsonTail faults file).1.getD []) payload outcome
      refine ⟨more ++ added, ?_⟩
      rw [Option.getD_some, hadded, hmore, List.append_assoc]

/-- An append keeps every complete record in every case; one that returns has completed or
dropped the torn one and added its own, and one whose failed write or sync is taken back
has added none. -/
theorem appendNdjson_durable (lines : List Line) (torn : Bytes) (htorn : newline ∉ torn)
    (file : LogFile) (hfile : file.getD [] = logOf (lines.map (·.bytes)) ++ torn)
    (payload : Members) (faults : RepairFaults) (outcome : AppendOutcome) :
    (∃ more, completeRecords ((appendNdjson file payload faults outcome).1.getD []) =
      lines.map (·.bytes) ++ more) ∧
    ((appendNdjson file payload faults outcome).2 = true →
      ∃ after kept, (appendNdjson file payload faults outcome).1 = some after ∧
        Kept faults torn kept ∧
        after = logOf (lines.map (·.bytes) ++ kept ++ [recordBytes payload]) ∧
        records after = lines.map (·.bytes) ++ kept ++ [recordBytes payload]) ∧
    (outcome.TakenBack → (repairNdjsonTail faults file).2 = true →
      ∃ after kept, appendNdjson file payload faults outcome = (some after, false) ∧
        Kept faults torn kept ∧
        after = logOf (lines.map (·.bytes) ++ kept) ∧
        completeRecords after = lines.map (·.bytes) ++ kept) ∧
    (∀ record : Members, torn <+: recordBytes record → keptTail torn =
      if torn = recordBytes record ∧ torn.length ≤ tailRecordMaxBytes then [torn] else []) := by
  have hlines : ∀ text ∈ lines.map (·.bytes), newline ∉ text ∧ text ≠ [] := by
    intro text hmem
    obtain ⟨line, -, rfl⟩ := List.mem_map.mp hmem
    exact ⟨line.oneLine, line.nonempty⟩
  have hrepair : (repairNdjsonTail faults file).2 = true → ∃ kept, Kept faults torn kept ∧
      (repairNdjsonTail faults file).1.getD [] = logOf (lines.map (·.bytes) ++ kept) := by
    intro hreturned
    obtain hthrows | hkept := getD_repairNdjsonTail faults htorn hfile
    · rw [hthrows] at hreturned
      cases hreturned
    · exact hkept
  refine ⟨?_, ?_, ?_, fun record => keptTail_prefix⟩
  · obtain ⟨more, hmore⟩ := appendNdjson_extends payload faults outcome htorn hfile
    exact ⟨_, by rw [hmore, completeRecords_logOf_append hlines]⟩
  · intro hreturned
    obtain ⟨rfl, hrepaired⟩ := succeeds_of_returned hreturned
    obtain ⟨kept, hkept, hafter⟩ := hrepair hrepaired
    have hreached : AppendOutcome.succeeds ≠ .directoryFails ∧ AppendOutcome.succeeds ≠ .openFails :=
      ⟨nofun, nofun⟩
    refine ⟨_, kept, ?_, hkept, rfl, records_logOf ?_⟩
    · rw [appendNdjson_repaired hreached hrepaired, hafter]
      simp [appendRecord, logOf]
    · intro text hmem
      obtain hold | hnew := List.mem_append.mp hmem
      · exact lines_kept htorn hkept text hold
      · rw [List.mem_singleton.mp hnew]
        exact ⟨newline_notMem_recordBytes payload, recordBytes_ne_nil payload⟩
  · intro houtcome hrepaired
    obtain ⟨kept, hkept, hafter⟩ := hrepair hrepaired
    refine ⟨_, kept, ?_, hkept, rfl, completeRecords_logOf (lines_kept htorn hkept)⟩
    have hreached : outcome ≠ .directoryFails ∧ outcome ≠ .openFails := by
      cases houtcome <;> exact ⟨nofun, nofun⟩
    have hthrows : decide (outcome = .succeeds) = false := by
      cases houtcome <;> rfl
    rw [appendNdjson_repaired hreached hrepaired, appendRecord_takenBack houtcome, hafter, hthrows]

end Durable

/-- A whole record and one torn in the middle, before an append that returns and before one
whose sync fails. -/
theorem appendNdjson_durable_torn :
    (∃ after kept, (appendNdjson (some [0x7B, 0x7D, 0x0A, 0x7B]) .nil {} .succeeds).1 = some after ∧
      Kept {} [0x7B] kept ∧ records after = [[0x7B, 0x7D]] ++ kept ++ [[0x7B, 0x7D]]) ∧
    ∃ after kept, appendNdjson (some [0x7B, 0x7D, 0x0A, 0x7B]) .nil {} (.syncFails true) =
        (some after, false) ∧
      Kept {} [0x7B] kept ∧ completeRecords after = [[0x7B, 0x7D]] ++ kept := by
  let line : Line := ⟨[0x7B, 0x7D], by decide, by decide⟩
  constructor
  · obtain ⟨-, hsucceeds, -⟩ := appendNdjson_durable [line] [0x7B] (by decide)
      (some [0x7B, 0x7D, 0x0A, 0x7B]) rfl .nil {} .succeeds
    obtain ⟨after, kept, hafter, hkept, -, hrecords⟩ := hsucceeds (by decide)
    exact ⟨after, kept, hafter, hkept, hrecords⟩
  · obtain ⟨-, -, hfails, -⟩ := appendNdjson_durable [line] [0x7B] (by decide)
      (some [0x7B, 0x7D, 0x0A, 0x7B]) rfl .nil {} (.syncFails true)
    obtain ⟨after, kept, hafter, hkept, -, hrecords⟩ := hfails .sync (by decide)
    exact ⟨after, kept, hafter, hkept, hrecords⟩

/-- A failed append that was taken back may still complete a record: the repair
has given the torn one its line end. -/
theorem appendNdjson_failed_completes :
    completeRecords [0x7B, 0x7D] = [] ∧
    appendNdjson (some [0x7B, 0x7D]) .nil {} (.writeFails 0 true) =
      (some [0x7B, 0x7D, 0x0A], false) ∧
    completeRecords [0x7B, 0x7D, 0x0A] = [[0x7B, 0x7D]] := by
  decide

end SimulatorBroker.Events
