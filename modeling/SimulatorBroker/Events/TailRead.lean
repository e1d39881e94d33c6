import SimulatorBroker.Events.Append
import SimulatorBroker.Events.Follow
import SimulatorBroker.Text.Fragment

/-!
# Reading the end of the event log

The tail reader takes chunks from the end of the log until they hold enough records.  What it
reads first may begin anywhere: inside a complete record this does no harm, since no proper end
of a record is a JSON text, but a torn record has no such protection.
-/

namespace SimulatorBroker.Events.Tail

open SimulatorBroker.Text

/-! ## The readers -/

/-- `parseNdjsonRecords`: the lines of the content that `JSON.parse` accepts. -/
def parseNdjsonRecords (content : List Char) : List Value :=
  (content.splitOn '\n').filterMap fun line => if line = [] then none else parse line

/-- `readNdjsonRecords(filePath, { repair: false })`. -/
def readNdjsonRecords : LogFile → List Value
  | none => []
  | some file => parseNdjsonRecords (decode file)

/-- The loop of `readNdjsonTailRecords`; `steps` bounds its turns. -/
def tailRecordsFrom (chunkSize : Nat) (file : Bytes) (limit : Nat) :
    Nat → Nat → Bytes → List Value → List Value
  | 0, _, _, records => records
  | steps + 1, position, chunks, records =>
      if position = 0 then records
      else
        let bytesToRead := min chunkSize position
        let position := position - bytesToRead
        let chunks := readSync file bytesToRead position ++ chunks
        let records := parseNdjsonRecords (decode chunks)
        if limit ≤ records.length then records
        else tailRecordsFrom chunkSize file limit steps position chunks records

/-- `readNdjsonTailRecords`. -/
def readNdjsonTailRecords : LogFile → Nat → List Value
  | none, _ => []
  | some file, limit =>
      if limit = 0 ∨ file.length = 0 then []
      else
        takeLast limit
          (tailRecordsFrom tailRepairChunkBytes file limit file.length file.length [] [])

/-- What `readEventsBroker` returns, with null for a missing identifier. -/
structure EventPage where
  cursor : Value
  events : List Value
  nextCursor : Value
  scannedCursor : Value

def eventIdName : Units :=
  "eventId".toList.flatMap charUnits

/-- `event?.eventId ?? null`. -/
def eventIdOf : Option Value → Value
  | some (.object members) => ((members.find? (·.1 == eventIdName)).map (·.2)).getD .null
  | _ => .null

/-- `readEventsBroker` with a limit and no other option, on the path that `canUseTail` selects. -/
def readEventsBroker (canUseTail : Bool) (file : LogFile) (limit : Nat) : EventPage :=
  let events := if canUseTail then readNdjsonTailRecords file limit else readNdjsonRecords file
  let scanned := events
  let filtered := if limit = 0 then [] else takeLast limit scanned
  { cursor := eventIdOf filtered.getLast?
    events := filtered
    nextCursor := eventIdOf scanned.getLast?
    scannedCursor := eventIdOf scanned.getLast? }

/-! ## Logs -/

/-- A record of the log: the text of an object on one line. -/
structure Record where
  text : List Char
  isObject : ObjectText text
  oneLine : '\n' ∉ text

/-- The text of complete records. -/
def logText (records : List Record) : List Char :=
  records.flatMap fun record => record.text ++ ['\n']

/-- Complete records and what there is of a torn one. -/
def logBytes (records : List Record) (torn : Bytes) : Bytes :=
  encode (logText records) ++ torn

/-- What the last bytes of a torn record, as many as some whole chunks, are read as. -/
def fragment (torn : Bytes) (chunks : Nat) : Option Value :=
  parse (decode (torn.drop (torn.length - chunks * tailRepairChunkBytes)))

/-- The first whole number of chunks inside a torn record that is read as a value. -/
def FirstFragment (torn : Bytes) (value : Value) : Prop :=
  ∃ chunks, 0 < chunks ∧ chunks * tailRepairChunkBytes < torn.length
    ∧ fragment torn chunks = some value
    ∧ ∀ fewer, 0 < fewer → fewer < chunks → fragment torn fewer = none

/-- The last record of a log; a torn record counts when it is complete but for its line end. -/
def lastRecord (records : List Record) (torn : Bytes) : Option Value :=
  (parse (decode torn)).or (records.getLast?.bind fun record => parse record.text)

/-- The tail reader returns the last records, and with it a read of events returns the same. -/
def TailAgrees (file : LogFile) (limit : Nat) : Prop :=
  readNdjsonTailRecords file limit = takeLast limit (readNdjsonRecords file)
    ∧ readEventsBroker true file limit = readEventsBroker false file limit

/-! ## Lines -/

theorem parse_nil : parse [] = none := rfl

theorem parse_replacement (text : List Char) : parse (replacement :: text) = none := by
  rw [← Option.not_isSome_iff_eq_none, parse_isSome]
  have hread : readChar .start replacement = none := by decide
  simp [parses, hread]

theorem parseNdjsonRecords_line {line : List Char} (hline : '\n' ∉ line) (rest : List Char) :
    parseNdjsonRecords (line ++ '\n' :: rest) = (parse line).toList ++ parseNdjsonRecords rest := by
  rw [parseNdjsonRecords, List.splitOn_append_cons_self_of_not_mem hline, List.filterMap_cons]
  by_cases hempty : line = []
  · simp [hempty, parse_nil, parseNdjsonRecords]
  · rw [if_neg hempty]
    cases parse line <;> rfl

theorem parseNdjsonRecords_last {line : List Char} (hline : '\n' ∉ line) :
    parseNdjsonRecords line = (parse line).toList := by
  rw [parseNdjsonRecords, List.splitOn_eq_singleton hline]
  by_cases hempty : line = []
  · simp [hempty, parse_nil]
  · rw [List.filterMap_cons, if_neg hempty]
    cases parse line <;> rfl

theorem logText_cons (record : Record) (records : List Record) :
    logText (record :: records) = record.text ++ '\n' :: logText records := by
  simp [logText]

/-- All records of a log. -/
theorem parseNdjsonRecords_logText (records : List Record) {torn : List Char}
    (htorn : '\n' ∉ torn) :
    parseNdjsonRecords (logText records ++ torn) =
      records.filterMap (parse ·.text) ++ (parse torn).toList := by
  induction records with
  | nil => simpa [logText] using parseNdjsonRecords_last htorn
  | cons record records ih =>
      rw [logText_cons, List.append_assoc, List.cons_append,
        parseNdjsonRecords_line record.oneLine, ih, List.filterMap_cons]
      cases parse record.text <;> rfl

/-! ## Contents that begin inside a complete record -/

theorem parse_stray (count : Nat) {taken left : List Char} (hobject : ObjectText (taken ++ left)) :
    parse (List.replicate count replacement ++ left) = none
      ∨ parse (List.replicate count replacement ++ left) = parse (taken ++ left) := by
  cases count with
  | zero => exact parse_end hobject
  | succ count => exact Or.inl (parse_replacement _)

/-- What stands after the first characters of a log, with replacement characters before it, holds
the last records of the log and no other. -/
theorem suffix_of_logText {records : List Record} {taken left torn : List Char} (count : Nat)
    (hsplit : logText records = taken ++ left) (htorn : '\n' ∉ torn) :
    parseNdjsonRecords (List.replicate count replacement ++ left ++ torn) <:+
      parseNdjsonRecords (logText records ++ torn) := by
  have hstray : '\n' ∉ List.replicate count replacement := by
    rw [List.mem_replicate]
    rintro ⟨-, h⟩
    revert h
    decide
  induction records generalizing taken left with
  | nil =>
      obtain ⟨-, rfl⟩ := List.append_eq_nil_iff.1 hsplit.symm
      have hline : '\n' ∉ List.replicate count replacement ++ [] ++ torn := by
        simp [hstray, htorn]
      rw [parseNdjsonRecords_last hline]
      cases count with
      | zero => simpa [logText] using (parseNdjsonRecords_last htorn) ▸ List.suffix_rfl
      | succ count =>
          rw [List.replicate_succ, List.cons_append, List.cons_append, parse_replacement]
          exact List.nil_suffix
  | cons record records ih =>
      have hfull : parseNdjsonRecords (logText (record :: records) ++ torn) =
          (parse record.text).toList ++ parseNdjsonRecords (logText records ++ torn) := by
        rw [logText_cons, List.append_assoc, List.cons_append,
          parseNdjsonRecords_line record.oneLine]
      rw [hfull]
      rw [logText_cons, ← List.singleton_append, ← List.append_assoc] at hsplit
      rcases List.append_eq_append_iff.1 hsplit with ⟨more, -, hrest⟩ | ⟨more, hline, hleft⟩
      · exact (ih hrest).trans (List.suffix_append _ _)
      · rcases List.eq_nil_or_concat more with rfl | ⟨line, last, rfl⟩
        · rw [List.nil_append] at hleft
          exact (@ih [] _ (hleft ▸ rfl)).trans (List.suffix_append _ _)
        · rw [List.concat_eq_append, ← List.append_assoc] at hline
          obtain ⟨htext, hlast⟩ := List.append_inj' hline rfl
          obtain rfl : '\n' = last := by simpa using hlast
          have hobject : ObjectText (taken ++ line) := htext ▸ record.isObject
          have hplain : '\n' ∉ List.replicate count replacement ++ line := by
            have hmem : '\n' ∉ line := fun hmem =>
              record.oneLine (htext ▸ List.mem_append_right taken hmem)
            simp [hstray, hmem]
          have hcontent : List.replicate count replacement ++ left ++ torn =
              (List.replicate count replacement ++ line) ++ '\n' :: (logText records ++ torn) := by
            simp [hleft]
          rw [hcontent, parseNdjsonRecords_line hplain]
          rcases parse_stray count hobject with hnone | hsame
          · rw [hnone]
            exact List.suffix_append _ _
          · rw [hsame, ← htext]

/-! ## Contents of a torn record -/

theorem newline_ne_replacement : '\n' ≠ replacement := by decide

/-- No part of a record has a line end in it. -/
theorem newline_notMem_decode {text : List Char} (hline : '\n' ∉ text) {torn before part : Bytes}
    (htorn : torn <+: encode text) (hpart : torn = before ++ part) : '\n' ∉ decode part := by
  obtain ⟨more, hmore⟩ := htorn
  have hsplit : encode text = before ++ (part ++ more) := by
    rw [← hmore, hpart, List.append_assoc]
  obtain ⟨taken, left, stray, htext, hrest, hstray⟩ := encode_end hsplit
  have hleft : '\n' ∉ left := fun hmem => hline (htext ▸ List.mem_append_right taken hmem)
  have hreplaced : ∀ n, '\n' ∉ List.replicate n replacement := by
    intro n hmem
    exact newline_ne_replacement (List.mem_replicate.1 hmem).2
  rcases List.append_eq_append_iff.1 hrest with ⟨rest, hstrayRest, -⟩ | ⟨rest, rfl, hleftRest⟩
  · have hall : ∀ byte ∈ part, Continues byte := fun byte hmem =>
      hstray byte (hstrayRest ▸ List.mem_append_left rest hmem)
    have hdecoded := decode_stray hall []
    rw [List.append_nil] at hdecoded
    rw [hdecoded]
    simpa [decode, decodeFrom] using hreplaced part.length
  · rw [decode_stray hstray]
    obtain ⟨kept, hkept, hcases⟩ := decode_cut ⟨more, hleftRest.symm⟩
    have hplain : '\n' ∉ kept := fun hmem => hleft (hkept.subset hmem)
    rcases hcases with ⟨-, hdecoded⟩ | ⟨-, hdecoded⟩
    · rw [hdecoded]
      simp [hreplaced stray.length, hplain]
    · rw [hdecoded]
      simp [hreplaced stray.length, hplain, newline_ne_replacement]

/-! ## The loop -/

theorem takeLast_of_suffix {α : Type} {items all : List α} {count : Nat} (hsuffix : items <:+ all)
    (hcount : count ≤ items.length) : takeLast count items = takeLast count all := by
  obtain ⟨before, rfl⟩ := hsuffix
  have hlength : (before ++ items).length - count = before.length + (items.length - count) := by
    rw [List.length_append]
    omega
  rw [takeLast, takeLast, hlength, List.drop_length_add_append]

theorem readSync_drop {file : Bytes} {bytesToRead position : Nat} (hread : bytesToRead ≤ position) :
    readSync file bytesToRead (position - bytesToRead) ++ file.drop position =
      file.drop (position - bytesToRead) := by
  have hposition : position = position - bytesToRead + bytesToRead := by omega
  have hdrop : file.drop position = (file.drop (position - bytesToRead)).drop bytesToRead := by
    rw [List.drop_drop, ← hposition]
  rw [readSync, hdrop, List.take_append_drop]

/-- One turn of the loop, with what the chunks read so far hold. -/
theorem tailRecordsFrom_succ {chunkSize : Nat} {file : Bytes} {limit steps position : Nat}
    (hposition : position ≠ 0) (records : List Value) :
    tailRecordsFrom chunkSize file limit (steps + 1) position (file.drop position) records =
      let start := position - min chunkSize position
      let found := parseNdjsonRecords (decode (file.drop start))
      if limit ≤ found.length then found
      else tailRecordsFrom chunkSize file limit steps start (file.drop start) found := by
  rw [tailRecordsFrom, if_neg hposition]
  dsimp only
  rw [readSync_drop (Nat.min_le_right _ _)]

/-- Once the chunks reach back into complete records, the loop ends with the last records. -/
theorem takeLast_tailRecordsFrom {chunkSize : Nat} (hchunk : 0 < chunkSize) {file : Bytes}
    {limit bound : Nat}
    (hsuffix : ∀ position ≤ bound, parseNdjsonRecords (decode (file.drop position)) <:+
      parseNdjsonRecords (decode file))
    (steps position : Nat) (records : List Value) (hsteps : position ≤ steps)
    (hbound : position - min chunkSize position ≤ bound)
    (hdone : position = 0 → records = parseNdjsonRecords (decode file)) :
    takeLast limit
        (tailRecordsFrom chunkSize file limit steps position (file.drop position) records) =
      takeLast limit (parseNdjsonRecords (decode file)) := by
  induction steps generalizing position records with
  | zero =>
      obtain rfl : position = 0 := by omega
      rw [tailRecordsFrom, hdone rfl]
  | succ steps ih =>
      by_cases hposition : position = 0
      · rw [tailRecordsFrom, if_pos hposition, hdone hposition]
      · rw [tailRecordsFrom_succ hposition]
        dsimp only
        split_ifs with henough
        · exact takeLast_of_suffix (hsuffix _ hbound) henough
        · refine ih _ _ (by omega) (by omega) fun hzero => ?_
          rw [hzero, List.drop_zero]

/-- The loop while it is inside a torn record, where each content holds at most one value. -/
theorem tailRecordsFrom_torn {file torn : Bytes} {limit : Nat} (hlimit : 0 < limit)
    (hlength : torn.length ≤ file.length)
    (hfragment : ∀ chunks, chunks * tailRepairChunkBytes < torn.length →
      parseNdjsonRecords (decode (file.drop (file.length - chunks * tailRepairChunkBytes))) =
        (fragment torn chunks).toList)
    (hsuffix : ∀ position ≤ file.length - torn.length,
      parseNdjsonRecords (decode (file.drop position)) <:+ parseNdjsonRecords (decode file))
    (steps chunks : Nat) (records : List Value) (hsteps : file.length ≤ steps + chunks)
    (hinside : chunks * tailRepairChunkBytes < torn.length) :
    let position := file.length - chunks * tailRepairChunkBytes
    let found := tailRecordsFrom tailRepairChunkBytes file limit steps position
      (file.drop position) records
    (∀ value more, limit = 1 → chunks < more → more * tailRepairChunkBytes < torn.length →
        fragment torn more = some value →
          (∀ fewer, chunks < fewer → fewer < more → fragment torn fewer = none) →
            found = [value]) ∧
      ((limit = 1 → ∀ more, chunks < more → more * tailRepairChunkBytes < torn.length →
          fragment torn more = none) →
        takeLast limit found = takeLast limit (parseNdjsonRecords (decode file))) := by
  have hbytes : ∀ count, count * tailRepairChunkBytes = count * 65536 := fun _ => rfl
  have hchunk : tailRepairChunkBytes = 65536 := rfl
  induction steps generalizing chunks records with
  | zero =>
      have := hbytes chunks
      omega
  | succ steps ih =>
      have hhere := hbytes chunks
      have hthere := hbytes (chunks + 1)
      dsimp only at ih ⊢
      have hposition : file.length - chunks * tailRepairChunkBytes ≠ 0 := by omega
      by_cases hnext : (chunks + 1) * tailRepairChunkBytes < torn.length
      · have hstart : file.length - chunks * tailRepairChunkBytes
            - min tailRepairChunkBytes (file.length - chunks * tailRepairChunkBytes) =
              file.length - (chunks + 1) * tailRepairChunkBytes := by omega
        rw [tailRecordsFrom_succ hposition]
        dsimp only
        rw [hstart, hfragment (chunks + 1) hnext]
        split_ifs with henough
        · cases hvalue : fragment torn (chunks + 1) with
          | none =>
              rw [hvalue] at henough
              exact absurd henough (Nat.not_le.2 hlimit)
          | some found =>
              have hone : limit = 1 := by
                rw [hvalue] at henough
                exact le_antisymm henough hlimit
              constructor
              · intro value more _ hmore _ hsome hfewer
                by_cases hsame : more = chunks + 1
                · rw [hsame, hvalue] at hsome
                  rw [Option.some.inj hsome]
                  rfl
                · have hnone := hfewer (chunks + 1) (by omega) (by omega)
                  rw [hvalue] at hnone
                  cases hnone
              · intro hquiet
                have hnone := hquiet hone (chunks + 1) (by omega) hnext
                rw [hvalue] at hnone
                cases hnone
        · obtain ⟨hfirst, hquiet⟩ := ih (chunks + 1) (fragment torn (chunks + 1)).toList
            (by omega) hnext
          constructor
          · intro value more hone hmore hinside hsome hfewer
            have hne : more ≠ chunks + 1 := by
              rintro rfl
              rw [hsome] at henough
              exact henough (by simp [hone])
            exact hfirst value more hone (by omega) hinside hsome fun fewer hless =>
              hfewer fewer (by omega)
          · intro hnone
            exact hquiet fun hone more hmore => hnone hone more (by omega)
      · constructor
        · intro value more _ hmore hinside
          have := hbytes more
          omega
        · intro _
          exact takeLast_tailRecordsFrom (by omega) hsuffix (steps + 1) _ records (by omega)
            (by omega) fun hzero => absurd hzero hposition

end SimulatorBroker.Events.Tail
