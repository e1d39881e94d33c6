import Mathlib.Data.List.TakeWhile
import SimulatorBroker.Text.Utf8

/-!
# PAX records

`parsePaxRecords` of the validator of the CLI tarball, and the payloads that it accepts: each record
counts its own bytes, length and newline included.
-/

namespace SimulatorBroker.CliTar

open SimulatorBroker.Text (Bytes decode)

/-- A text as JavaScript has it after decoding. -/
abbrev Chars : Type := List Char

/-- What an archive for users must fulfil. -/
inductive PortableRule where
  | safeRoot
  | payloadEntries
  | uniquePaths
  | payloadType
  | trailingSlash
  | underRoot
  | safeSegments
  | noPaxMetadata
  | noAppleDouble
  | magic
  | version
  | uid
  | gid
  | uname
  | gname
  | oneRoot
  | rootDirectory
  deriving DecidableEq, Repr

/-- The assertion that fails, for the entry of that name. -/
inductive TarFault where
  | incompleteBlocks
  | shortTrailer
  | dataAfterTrailer
  | missingTrailer
  | invalidField (fieldName : String) (entryName : Chars)
  | invalidChecksum (entryName : Chars)
  | truncatedEntry (entryName : Chars)
  | malformedPaxLength (entryName : Chars)
  | truncatedPaxRecord (entryName : Chars)
  | unendedPaxRecord (entryName : Chars)
  | malformedPaxRecord (entryName : Chars)
  | notPortable (rule : PortableRule) (entryName : Chars)
  deriving DecidableEq, Repr

/-! ## Numerals -/

/-- `Number.parseInt(text, base)` of a text of digits. -/
def numeral (base : Nat) (text : Chars) : Nat :=
  text.foldl (fun value digit => base * value + (digit.toNat - '0'.toNat)) 0

/-- `/^[1-9][0-9]*$/`. -/
def isPaxLength : Chars → Bool
  | [] => false
  | first :: rest => decide ('1' ≤ first ∧ first ≤ '9') && rest.all Char.isDigit

theorem foldl_numeral_le (base : Nat) (hbase : 0 < base) (text : Chars) (value : Nat) :
    value ≤ text.foldl (fun value digit => base * value + (digit.toNat - '0'.toNat)) value := by
  induction text generalizing value with
  | nil => exact Nat.le_refl _
  | cons digit text ih =>
      have hfirst : value ≤ base * value := Nat.le_mul_of_pos_left value hbase
      exact (hfirst.trans (Nat.le_add_right _ _)).trans (ih _)

theorem numeral_pos {text : Chars} (hlength : isPaxLength text = true) : 0 < numeral 10 text := by
  cases text with
  | nil => cases hlength
  | cons first rest =>
      obtain ⟨hfirst, -⟩ := Bool.and_eq_true_iff.mp hlength
      have hdigit : 0 < first.toNat - '0'.toNat := by
        have hlower : '1'.toNat ≤ first.toNat := (of_decide_eq_true hfirst).1
        exact Nat.sub_pos_of_lt hlower
      have hrest := foldl_numeral_le 10 (by decide) rest (first.toNat - '0'.toNat)
      exact hdigit.trans_le (by simpa [numeral] using hrest)

/-! ## Records -/

structure PaxRecord where
  key : Chars
  value : Chars
  deriving DecidableEq, Repr

/-- `buffer.toString("ascii")`, which drops the highest bit of each byte. -/
def asciiText (bytes : Bytes) : Chars :=
  bytes.map fun byte => Char.ofNat (byte.toNat % 0x80)

/-- The key and the value at the first `=`, which is not the first character. -/
def splitPaxRecord (record : Chars) : Option PaxRecord :=
  match record.takeWhile (· ≠ '='), record.dropWhile (· ≠ '=') with
  | key, _ :: value => if key = [] then none else some { key, value }
  | _, [] => none

/-- `parsePaxRecords` from an offset on. -/
def parsePaxRecords (entryName : Chars) (payload : Bytes) : Except TarFault (List PaxRecord) :=
  if payload = [] then .ok []
  else
    let lengthBytes := payload.takeWhile (· ≠ 0x20)
    let recordLength := numeral 10 (asciiText lengthBytes)
    if lengthBytes.length = payload.length then .error (.malformedPaxLength entryName)
    else if isPaxLength (asciiText lengthBytes) = false then
      .error (.malformedPaxLength entryName)
    else if payload.length < recordLength then .error (.truncatedPaxRecord entryName)
    else if payload[recordLength - 1]? ≠ some 0x0A then .error (.unendedPaxRecord entryName)
    else
      match splitPaxRecord
        (decode ((payload.take (recordLength - 1)).drop (lengthBytes.length + 1))) with
      | none => .error (.malformedPaxRecord entryName)
      | some record => do
          let records ← parsePaxRecords entryName (payload.drop recordLength)
          return record :: records
termination_by payload.length
decreasing_by
  rename_i hsome _ hlength _ _
  have hpos : 0 < recordLength := numeral_pos (Bool.not_eq_false _ ▸ hlength)
  rw [List.length_drop]
  exact Nat.sub_lt (List.length_pos_iff.mpr hsome) hpos

/-! ## The format -/

/-- A record: its length in decimal digits, a blank, what it says and a newline. -/
structure IsPaxRecord (bytes : Bytes) (record : PaxRecord) : Prop where
  parts : ∃ lengthBytes body, bytes = lengthBytes ++ 0x20 :: (body ++ [0x0A]) ∧
    0x20 ∉ lengthBytes ∧ isPaxLength (asciiText lengthBytes) = true ∧
      numeral 10 (asciiText lengthBytes) = bytes.length ∧
        decode body = record.key ++ '=' :: record.value
  keyed : '=' ∉ record.key ∧ record.key ≠ []

/-- Records one after the other. -/
inductive IsPaxPayload : Bytes → List PaxRecord → Prop where
  | empty : IsPaxPayload [] []
  | record {bytes rest : Bytes} {record : PaxRecord} {records : List PaxRecord}
      (first : IsPaxRecord bytes record) (others : IsPaxPayload rest records) :
      IsPaxPayload (bytes ++ rest) (record :: records)

/-- A list is cut at the first mark. -/
theorem cut_at_mark {α : Type} [DecidableEq α] {mark : α} {text left right : List α} :
    text.takeWhile (· ≠ mark) = left ∧ text.dropWhile (· ≠ mark) = mark :: right ↔
      text = left ++ mark :: right ∧ mark ∉ left := by
  constructor
  · rintro ⟨rfl, hright⟩
    constructor
    · rw [← hright, List.takeWhile_append_dropWhile]
    · intro hmem
      simpa using List.mem_takeWhile_imp hmem
  · rintro ⟨rfl, hleft⟩
    have hkept : ∀ element ∈ left, decide (element ≠ mark) = true := by
      intro element hmem
      simpa using fun heq : element = mark => hleft (heq ▸ hmem)
    constructor
    · rw [List.takeWhile_append_of_pos hkept, List.takeWhile_cons_of_neg (by simp),
        List.append_nil]
    · rw [List.dropWhile_append_of_pos hkept, List.dropWhile_cons_of_neg (by simp)]

/-- Where something is left, it starts with the mark. -/
theorem exists_cut {α : Type} [DecidableEq α] {mark : α} {text : List α}
    (hmore : text.dropWhile (· ≠ mark) ≠ []) :
    ∃ right, text.dropWhile (· ≠ mark) = mark :: right := by
  cases hdrop : text.dropWhile (· ≠ mark) with
  | nil => exact absurd hdrop hmore
  | cons first right =>
      have hfirst := List.head?_dropWhile_not (fun element => decide (element ≠ mark)) text
      rw [hdrop] at hfirst
      simp only [List.head?_cons, ne_eq, decide_not, Bool.not_eq_eq_eq_not, Bool.not_false,
        decide_eq_true_eq] at hfirst
      rw [hfirst]
      exact ⟨right, rfl⟩

theorem splitPaxRecord_eq_some {text : Chars} {record : PaxRecord} :
    splitPaxRecord text = some record ↔
      text = record.key ++ '=' :: record.value ∧ '=' ∉ record.key ∧ record.key ≠ [] := by
  unfold splitPaxRecord
  rw [← and_assoc, ← cut_at_mark]
  cases hdrop : text.dropWhile (· ≠ '=') with
  | nil =>
      simp
  | cons first value =>
      obtain ⟨right, hright⟩ := exists_cut (hdrop.trans_ne (List.cons_ne_nil _ _))
      obtain ⟨rfl, rfl⟩ := List.cons.inj (hdrop.symm.trans hright)
      dsimp only
      split
      · rename_i hempty
        constructor
        · rintro ⟨⟩
        · rintro ⟨⟨hkey, -⟩, hsome⟩
          exact absurd (hkey.symm.trans hempty) hsome
      · rename_i hsome
        constructor
        · rintro ⟨⟩
          exact ⟨⟨rfl, rfl⟩, hsome⟩
        · rintro ⟨⟨hkey, hvalue⟩, -⟩
          cases hvalue
          rw [hkey]

theorem digits_of_isPaxLength {text : Chars} (hlength : isPaxLength text = true) :
    ∀ c ∈ text, c.isDigit = true := by
  cases text with
  | nil => cases hlength
  | cons first rest =>
      obtain ⟨hfirst, hrest⟩ := Bool.and_eq_true_iff.mp hlength
      obtain ⟨hlower, hupper⟩ := of_decide_eq_true hfirst
      rintro c (_ | ⟨-, hmem⟩)
      · have hzero : '0' ≤ first := UInt32.le_trans (by decide : '0'.val ≤ '1'.val) hlower
        simpa [Char.isDigit] using ⟨hzero, hupper⟩
      · exact List.all_eq_true.mp hrest c hmem

/-- The digits of a length are no newline, not even with the highest bit set. -/
theorem newline_notMem_length {lengthBytes : Bytes}
    (hlength : isPaxLength (asciiText lengthBytes) = true) : 0x0A ∉ lengthBytes := by
  intro hmem
  have hdigit : ∀ c ∈ asciiText lengthBytes, c.isDigit = true := digits_of_isPaxLength hlength
  have hnewline := hdigit _ (List.mem_map_of_mem hmem)
  revert hnewline
  decide

variable {entryName : Chars} {lengthBytes body rest : Bytes} {record : PaxRecord}

/-- One round of the loop. -/
theorem parsePaxRecords_record (hdigits : 0x20 ∉ lengthBytes)
    (hlength : isPaxLength (asciiText lengthBytes) = true)
    (hcount : numeral 10 (asciiText lengthBytes) = lengthBytes.length + body.length + 2) :
    parsePaxRecords entryName (lengthBytes ++ 0x20 :: (body ++ 0x0A :: rest)) =
      (splitPaxRecord (decode body)).elim (.error (.malformedPaxRecord entryName)) fun record =>
        (parsePaxRecords entryName rest).map (record :: ·) := by
  have hcut := cut_at_mark.mpr (⟨rfl, hdigits⟩ :
    lengthBytes ++ 0x20 :: (body ++ 0x0A :: rest) = _ ∧ _)
  rw [parsePaxRecords, if_neg (by simp)]
  have hwhole : (lengthBytes ++ 0x20 :: (body ++ 0x0A :: rest)).length =
      lengthBytes.length + body.length + 2 + rest.length := by
    simp
    omega
  have hlast : lengthBytes.length + body.length + 2 - 1 = (lengthBytes ++ 0x20 :: body).length := by
    simp
    omega
  have hparts : lengthBytes ++ 0x20 :: (body ++ 0x0A :: rest) =
      (lengthBytes ++ 0x20 :: body) ++ 0x0A :: rest := by
    simp
  have hend : (lengthBytes ++ 0x20 :: (body ++ 0x0A :: rest))[(lengthBytes ++ 0x20 :: body).length]? =
      some 0x0A := by
    rw [hparts, List.getElem?_append_right (Nat.le_refl _), Nat.sub_self]
    rfl
  have hbody : ((lengthBytes ++ 0x20 :: (body ++ 0x0A :: rest)).take
      (lengthBytes ++ 0x20 :: body).length).drop (lengthBytes.length + 1) = body := by
    rw [hparts, List.take_left, List.drop_append]
    simp
  have hrest : (lengthBytes ++ 0x20 :: (body ++ 0x0A :: rest)).drop
      (lengthBytes.length + body.length + 2) = rest := by
    have hone : lengthBytes.length + body.length + 2 - (lengthBytes ++ 0x20 :: body).length = 1 := by
      simp
      omega
    rw [hparts, List.drop_append, List.drop_of_length_le (by simp; omega), hone]
    rfl
  simp only [hcut.1, hcount, hwhole, hlength, hlast, hend, hbody, hrest]
  rw [if_neg (by omega), if_neg (by simp), if_neg (by omega), if_neg (by simp)]
  cases splitPaxRecord (decode body) with
  | none => rfl
  | some record => cases parsePaxRecords entryName rest <;> rfl

/-- A newline where the length says so comes after the blank. -/
theorem exists_body {tail : Bytes} (hlength : isPaxLength (asciiText lengthBytes) = true)
    (hend : (lengthBytes ++ 0x20 :: tail)[numeral 10 (asciiText lengthBytes) - 1]? = some 0x0A) :
    ∃ body rest, tail = body ++ 0x0A :: rest ∧
      numeral 10 (asciiText lengthBytes) = lengthBytes.length + body.length + 2 := by
  have hpos := numeral_pos hlength
  rw [List.getElem?_append] at hend
  split at hend
  · exact absurd (List.mem_of_getElem? hend) (newline_notMem_length hlength)
  · rename_i hlater
    cases hindex : numeral 10 (asciiText lengthBytes) - 1 - lengthBytes.length with
    | zero =>
        rw [hindex] at hend
        cases hend
    | succ index =>
        rw [hindex, List.getElem?_cons_succ] at hend
        obtain ⟨hbound, hnewline⟩ := List.getElem?_eq_some_iff.mp hend
        refine ⟨tail.take index, tail.drop (index + 1), ?_, ?_⟩
        · rw [← hnewline, ← List.drop_eq_getElem_cons hbound, List.take_append_drop]
        · rw [List.length_take, Nat.min_eq_left hbound.le]
          omega

/-- What is accepted begins with a record. -/
theorem parsePaxRecords_inv {payload : Bytes} {records : List PaxRecord} (hsome : payload ≠ [])
    (hparse : parsePaxRecords entryName payload = .ok records) :
    ∃ bytes rest record others, payload = bytes ++ rest ∧ bytes ≠ [] ∧ IsPaxRecord bytes record ∧
      parsePaxRecords entryName rest = .ok others ∧ records = record :: others := by
  have hwhole := hparse
  rw [parsePaxRecords, if_neg hsome] at hparse
  dsimp only at hparse
  split at hparse
  · cases hparse
  · rename_i hmore
    split at hparse
    · cases hparse
    · rename_i hlength
      split at hparse
      · cases hparse
      · split at hparse
        · cases hparse
        · rename_i hend
          have hblank : payload.dropWhile (· ≠ 0x20) ≠ [] := by
            intro hnone
            have hsplit := congrArg List.length
              (List.takeWhile_append_dropWhile (p := (· ≠ (0x20 : UInt8))) (l := payload))
            rw [hnone, List.append_nil] at hsplit
            exact hmore hsplit
          obtain ⟨tail, htail⟩ := exists_cut hblank
          obtain ⟨hpayload, hdigits⟩ := cut_at_mark.mp ⟨rfl, htail⟩
          generalize payload.takeWhile (· ≠ 0x20) = lengthBytes at hpayload hdigits hlength hend
          subst hpayload
          rw [Bool.not_eq_false] at hlength
          obtain ⟨body, rest, rfl, hcount⟩ := exists_body hlength (not_not.mp hend)
          rw [parsePaxRecords_record hdigits hlength hcount] at hwhole
          cases hrecord : splitPaxRecord (decode body) with
          | none =>
              rw [hrecord] at hwhole
              cases hwhole
          | some record =>
              obtain ⟨hdecode, hkeyed⟩ := splitPaxRecord_eq_some.mp hrecord
              cases hothers : parsePaxRecords entryName rest with
              | error fault =>
                  rw [hrecord, hothers] at hwhole
                  cases hwhole
              | ok others =>
                  rw [hrecord, hothers] at hwhole
                  cases hwhole
                  refine ⟨lengthBytes ++ 0x20 :: (body ++ [0x0A]), rest, record, others, by simp,
                    by simp, ⟨⟨lengthBytes, body, rfl, hdigits, hlength, ?_, hdecode⟩, hkeyed⟩, hothers,
                    rfl⟩
                  rw [hcount]
                  simp
                  omega

/-- A payload is accepted exactly if it is records one after the other. -/
theorem parsePaxRecords_eq_ok {payload : Bytes} {records : List PaxRecord} :
    parsePaxRecords entryName payload = .ok records ↔ IsPaxPayload payload records := by
  constructor
  · intro hparse
    induction hlength : payload.length using Nat.strong_induction_on generalizing payload records with
    | _ length ih =>
        by_cases hsome : payload = []
        · subst hsome
          rw [parsePaxRecords, if_pos rfl] at hparse
          cases hparse
          exact .empty
        · obtain ⟨bytes, rest, record, others, rfl, hbytes, hrecord, hrest, rfl⟩ :=
            parsePaxRecords_inv hsome hparse
          apply IsPaxPayload.record hrecord
          refine ih _ ?_ hrest rfl
          subst hlength
          have hpos := List.length_pos_iff.mpr hbytes
          rw [List.length_append]
          omega
  · intro hpayload
    induction hpayload with
    | empty => rw [parsePaxRecords, if_pos rfl]
    | record first others ih =>
        obtain ⟨⟨lengthBytes, body, rfl, hdigits, hlength, hcount, hdecode⟩, hkeyed⟩ := first
        have hrecord := splitPaxRecord_eq_some.mpr ⟨hdecode, hkeyed⟩
        have hlengths : numeral 10 (asciiText lengthBytes) =
            lengthBytes.length + body.length + 2 := by
          rw [hcount]
          simp
          omega
        rw [List.append_assoc, List.cons_append, List.append_assoc, List.singleton_append,
          parsePaxRecords_record hdigits hlength hlengths, hrecord, ih]
        rfl

end SimulatorBroker.CliTar
