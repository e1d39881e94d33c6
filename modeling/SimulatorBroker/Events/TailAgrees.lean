import SimulatorBroker.Events.TailRead

/-!
# When the tail reader agrees

With a limit of two or more the tail reader always agrees with the full reader: a torn record
holds at most one value for it.  With a limit of one it returns what it makes of the end of the
torn record, if the torn record is longer than a chunk and some whole number of chunks of it is
a JSON text.
-/

namespace SimulatorBroker.Events.Tail

open SimulatorBroker.Text

/-- What there is of a torn record. -/
def tornBytes (last : Record) (cut : Nat) : Bytes :=
  (encode last.text).take cut

theorem tornBytes_leads (last : Record) (cut : Nat) : tornBytes last cut <+: encode last.text :=
  List.take_prefix cut _

section

variable (records : List Record) (last : Record) (cut : Nat)

theorem newline_notMem_torn : '\n' ∉ decode (tornBytes last cut) :=
  newline_notMem_decode last.oneLine (tornBytes_leads last cut) (List.nil_append _).symm

/-! ## The full reader -/

theorem readNdjsonRecords_eq :
    readNdjsonRecords (some (logBytes records (tornBytes last cut))) =
      records.filterMap (parse ·.text) ++ (parse (decode (tornBytes last cut))).toList := by
  rw [readNdjsonRecords, logBytes, decode_encode_append,
    parseNdjsonRecords_logText records (newline_notMem_torn last cut)]

theorem Record.parse_isSome (record : Record) : ∃ value, parse record.text = some value := by
  have hparses := record.isObject.parses
  rw [← Text.parse_isSome] at hparses
  exact Option.isSome_iff_exists.1 hparses

theorem getLast?_readNdjsonRecords :
    (readNdjsonRecords (some (logBytes records (tornBytes last cut)))).getLast? =
      lastRecord records (tornBytes last cut) := by
  rw [readNdjsonRecords_eq, lastRecord]
  cases parse (decode (tornBytes last cut)) with
  | some value => simp
  | none =>
      rw [Option.toList_none, List.append_nil, Option.none_or]
      rcases List.eq_nil_or_concat records with rfl | ⟨before, record, rfl⟩
      · rfl
      · obtain ⟨value, hvalue⟩ := record.parse_isSome
        simp [hvalue]

/-! ## The contents that the tail reader takes -/

theorem content_suffix {position : Nat}
    (hposition : position ≤
      (logBytes records (tornBytes last cut)).length - (tornBytes last cut).length) :
    parseNdjsonRecords (decode ((logBytes records (tornBytes last cut)).drop position)) <:+
      parseNdjsonRecords (decode (logBytes records (tornBytes last cut))) := by
  have hinside : position ≤ (encode (logText records)).length := by
    simpa [logBytes] using hposition
  have hsplit : encode (logText records) =
      (encode (logText records)).take position ++ (encode (logText records)).drop position :=
    (List.take_append_drop position _).symm
  obtain ⟨taken, left, stray, htext, hrest, hstray⟩ := encode_end hsplit
  rw [logBytes, List.drop_append_of_le_length hinside, hrest, List.append_assoc,
    decode_stray hstray, decode_encode_append, decode_encode_append, ← List.append_assoc]
  exact suffix_of_logText stray.length htext (newline_notMem_torn last cut)

theorem content_torn {count : Nat} (hcount : count < (tornBytes last cut).length) :
    parseNdjsonRecords (decode ((logBytes records (tornBytes last cut)).drop
        ((logBytes records (tornBytes last cut)).length - count))) =
      (parse (decode ((tornBytes last cut).drop ((tornBytes last cut).length - count)))).toList := by
  have hposition : (logBytes records (tornBytes last cut)).length - count =
      (encode (logText records)).length + ((tornBytes last cut).length - count) := by
    rw [logBytes, List.length_append]
    omega
  rw [hposition, logBytes, List.drop_length_add_append]
  exact parseNdjsonRecords_last (newline_notMem_decode last.oneLine (tornBytes_leads last cut)
    (List.take_append_drop _ _).symm)

/-! ## The tail reader -/

theorem FirstFragment.exists {torn : Bytes} {count : Nat} (hcount : 0 < count)
    (hinside : count * tailRepairChunkBytes < torn.length)
    (hvalue : (fragment torn count).isSome = true) : ∃ value, FirstFragment torn value := by
  induction count using Nat.strong_induction_on with
  | _ count ih =>
      by_cases hfewer : ∀ fewer, 0 < fewer → fewer < count → fragment torn fewer = none
      · obtain ⟨value, hvalue⟩ := Option.isSome_iff_exists.1 hvalue
        exact ⟨value, count, hcount, hinside, hvalue, hfewer⟩
      · simp only [not_forall] at hfewer
        obtain ⟨fewer, hpos, hless, hsome⟩ := hfewer
        have hshort : fewer * tailRepairChunkBytes ≤ count * tailRepairChunkBytes :=
          Nat.mul_le_mul_right _ hless.le
        exact ih fewer hless hpos (hshort.trans_lt hinside) (Option.isSome_iff_ne_none.2 hsome)

theorem FirstFragment.inside {torn : Bytes} {value : Value} (hfirst : FirstFragment torn value) :
    tailRepairChunkBytes < torn.length := by
  obtain ⟨count, hpos, hinside, -⟩ := hfirst
  exact (Nat.le_mul_of_pos_left _ hpos).trans_lt hinside

/-- A limit of one takes the first value that a torn record gives; otherwise the last records are
returned. -/
theorem readNdjsonTailRecords_cases {limit : Nat} (hlimit : 0 < limit) :
    let torn := tornBytes last cut
    let file := some (logBytes records torn)
    (limit = 1 → ∀ value, FirstFragment torn value →
        readNdjsonTailRecords file limit = [value]) ∧
      ((limit = 1 → ∀ value, ¬ FirstFragment torn value) →
        readNdjsonTailRecords file limit = takeLast limit (readNdjsonRecords file)) := by
  dsimp only
  have hlength : (tornBytes last cut).length ≤ (logBytes records (tornBytes last cut)).length := by
    simp [logBytes]
  have hsuffix : ∀ position ≤
      (logBytes records (tornBytes last cut)).length - (tornBytes last cut).length,
        parseNdjsonRecords (decode ((logBytes records (tornBytes last cut)).drop position)) <:+
          parseNdjsonRecords (decode (logBytes records (tornBytes last cut))) :=
    fun _ hposition => content_suffix records last cut hposition
  by_cases hempty : logBytes records (tornBytes last cut) = []
  · have htorn : (tornBytes last cut).length = 0 := by
      rw [hempty] at hlength
      simpa using hlength
    constructor
    · intro _ value hfirst
      have := hfirst.inside
      omega
    · intro _
      rw [hempty]
      simp [readNdjsonTailRecords, readNdjsonRecords, parseNdjsonRecords, decode, decodeFrom,
        takeLast]
  · have hrun : readNdjsonTailRecords (some (logBytes records (tornBytes last cut))) limit =
        takeLast limit (tailRecordsFrom tailRepairChunkBytes
          (logBytes records (tornBytes last cut)) limit
          (logBytes records (tornBytes last cut)).length
          (logBytes records (tornBytes last cut)).length
          ((logBytes records (tornBytes last cut)).drop
            (logBytes records (tornBytes last cut)).length) []) := by
      rw [List.drop_length]
      simp [readNdjsonTailRecords, hlimit.ne', hempty]
    rw [hrun]
    by_cases htorn : (tornBytes last cut).length = 0
    · constructor
      · intro _ value hfirst
        have := hfirst.inside
        omega
      · intro _
        refine takeLast_tailRecordsFrom (by decide) hsuffix _ _ _ le_rfl ?_ fun hzero => ?_
        · omega
        · exact absurd (List.length_eq_zero_iff.1 hzero) hempty
    · have hzero : (logBytes records (tornBytes last cut)).length - 0 * tailRepairChunkBytes =
          (logBytes records (tornBytes last cut)).length := by simp
      obtain ⟨hfirst, hquiet⟩ := tailRecordsFrom_torn hlimit hlength
        (fun count hcount => content_torn records last cut hcount) hsuffix
        (logBytes records (tornBytes last cut)).length 0 [] (by simp) (by omega)
      rw [hzero] at hfirst hquiet
      constructor
      · rintro hone value ⟨count, hpos, hinside, hvalue, hfewer⟩
        rw [hfirst value count hone hpos hinside hvalue hfewer, hone]
        rfl
      · intro hnone
        refine hquiet fun hone count hpos hinside => ?_
        by_contra hvalue
        obtain ⟨value, hvalue⟩ :=
          FirstFragment.exists hpos hinside (Option.isSome_iff_ne_none.2 hvalue)
        exact hnone hone value hvalue

/-! ## Reading events -/

theorem getLast?_takeLast {α : Type} {items : List α} {limit : Nat} (hlimit : 0 < limit) :
    (takeLast limit items).getLast? = items.getLast? := by
  rcases List.eq_nil_or_concat items with rfl | ⟨before, item, rfl⟩
  · simp [takeLast]
  · rw [takeLast, List.getLast?_drop]
    have hshort : ¬ (before.concat item).length ≤ (before.concat item).length - limit := by
      simp
      omega
    rw [if_neg hshort]

/-- A read of events sees nothing but the last records. -/
theorem readEventsBroker_eq {file : LogFile} {limit : Nat} (hlimit : 0 < limit)
    (htail : readNdjsonTailRecords file limit = takeLast limit (readNdjsonRecords file)) :
    readEventsBroker true file limit = readEventsBroker false file limit := by
  have htwice : takeLast limit (takeLast limit (readNdjsonRecords file)) =
      takeLast limit (readNdjsonRecords file) := by
    simp only [takeLast, List.length_drop, List.drop_drop]
    congr 1
    omega
  simp only [readEventsBroker, if_true, htail, hlimit.ne', if_false, Bool.false_eq_true, htwice,
    getLast?_takeLast hlimit]

/-- The tail reader agrees with the full reader exactly when, for a limit of one, what it makes of
the end of a torn record is the last record. -/
theorem tailAgrees_iff (limit : Nat) (hlimit : 0 < limit) :
    TailAgrees (some (logBytes records (tornBytes last cut))) limit ↔
      (limit = 1 → ∀ value, FirstFragment (tornBytes last cut) value →
        lastRecord records (tornBytes last cut) = some value) := by
  obtain ⟨hfirst, hquiet⟩ := readNdjsonTailRecords_cases records last cut hlimit
  rw [← getLast?_readNdjsonRecords]
  constructor
  · rintro ⟨htail, -⟩ hone value hfragment
    rw [hfirst hone value hfragment] at htail
    rw [← getLast?_takeLast hlimit, ← htail]
    rfl
  · intro hlast
    have htail : readNdjsonTailRecords (some (logBytes records (tornBytes last cut))) limit =
        takeLast limit (readNdjsonRecords (some (logBytes records (tornBytes last cut)))) := by
      by_cases hone : limit = 1
      · by_cases hfragment : ∃ value, FirstFragment (tornBytes last cut) value
        · obtain ⟨value, hvalue⟩ := hfragment
          obtain ⟨before, hbefore⟩ := List.getLast?_eq_some_iff.1 (hlast hone value hvalue)
          rw [hfirst hone value hvalue, hbefore, hone]
          simp [takeLast]
        · exact hquiet fun _ => not_exists.1 hfragment
      · exact hquiet fun h => absurd h hone
    exact ⟨htail, readEventsBroker_eq hlimit htail⟩

end

/-! ## A torn record of two kinds -/

/-- The record with no members. -/
def emptyRecord : Record where
  text := ['{', '}']
  isObject := ⟨by decide, [], ['}'], by simp, rfl⟩
  oneLine := by decide

/-- A short torn record is left out by both readers. -/
theorem tailAgrees_shortTorn :
    TailAgrees (some (logBytes [emptyRecord] (tornBytes emptyRecord 1))) 1 :=
  (tailAgrees_iff [emptyRecord] emptyRecord 1 1 (by decide)).2 fun _ _ hfirst => by
    have hinside := hfirst.inside
    exact absurd hinside (by decide)

/-- The beginning of a record whose only member is a string. -/
def memberStart : List Char := ['{', '"', 'a', '"', ':', '"']

theorem read_ones_string (isKey : Bool) (stack : List Frame) (count : Nat) :
    read ⟨.string isKey, stack⟩ (List.replicate count '1') = some ⟨.string isKey, stack⟩ := by
  induction count with
  | zero => rfl
  | succ count ih =>
      rw [List.replicate_succ, read_cons]
      exact ih

theorem read_ones_integer (stack : List Frame) (count : Nat) :
    read ⟨.integer, stack⟩ (List.replicate count '1') = some ⟨.integer, stack⟩ := by
  induction count with
  | zero => rfl
  | succ count ih =>
      rw [List.replicate_succ, read_cons]
      exact ih

theorem parses_ones {count : Nat} (hcount : 0 < count) :
    parses (List.replicate count '1') = true := by
  obtain ⟨count, rfl⟩ := Nat.exists_eq_add_of_lt hcount
  have hread : read .start (List.replicate (count + 1) '1') = some ⟨.integer, []⟩ := by
    rw [List.replicate_succ, read_cons]
    exact read_ones_integer [] count
  rw [Nat.zero_add, parses, hread]
  rfl

theorem read_member (count : Nat) (rest : List Char) :
    read .start (memberStart ++ List.replicate count '1' ++ rest) =
      read ⟨.string false, [.object]⟩ rest := by
  have hstart : read .start memberStart = some ⟨.string false, [.object]⟩ := by decide
  rw [read_append, read_append, hstart, Option.bind_some, read_ones_string, Option.bind_some]

/-- A record whose only member is a string of digits. -/
def digitsRecord (count : Nat) : Record where
  text := memberStart ++ List.replicate count '1' ++ ['"', '}']
  isObject := by
    constructor
    · rw [parses, read_member]
      rfl
    · exact ⟨[], ['"', 'a', '"', ':', '"'] ++ List.replicate count '1' ++ ['"', '}'], by simp, rfl⟩
  oneLine := by
    simp [memberStart, List.mem_replicate]

theorem encode_ones (count : Nat) :
    encode (List.replicate count '1') = List.replicate count 0x31 := by
  induction count with
  | zero => rfl
  | succ count ih =>
      rw [List.replicate_succ, encode_cons, ih]
      rfl

theorem encode_memberStart_length : (encode memberStart).length = 6 := by decide

theorem tornBytes_digitsRecord (count : Nat) :
    tornBytes (digitsRecord count) (6 + count) =
      encode memberStart ++ encode (List.replicate count '1') := by
  have htext : encode (digitsRecord count).text =
      (encode memberStart ++ encode (List.replicate count '1')) ++ encode ['"', '}'] := by
    simp [digitsRecord]
  rw [tornBytes, htext, List.take_left']
  rw [List.length_append, encode_memberStart_length, encode_ones, List.length_replicate]

/-- A record torn after a chunk of digits is read as the number that the digits spell: the tail
reader returns a record that the log does not have. -/
theorem not_tailAgrees_digits :
    ¬ TailAgrees
      (some (logBytes [] (tornBytes (digitsRecord tailRepairChunkBytes)
        (6 + tailRepairChunkBytes)))) 1 := by
  have hbytes := tornBytes_digitsRecord tailRepairChunkBytes
  have hlength : (tornBytes (digitsRecord tailRepairChunkBytes)
      (6 + tailRepairChunkBytes)).length = 6 + tailRepairChunkBytes := by
    rw [hbytes, List.length_append, encode_memberStart_length, encode_ones, List.length_replicate]
  have hfragment : (fragment (tornBytes (digitsRecord tailRepairChunkBytes)
      (6 + tailRepairChunkBytes)) 1).isSome = true := by
    rw [fragment, hlength, Nat.one_mul, Nat.add_sub_cancel, hbytes,
      List.drop_left' encode_memberStart_length, decode_encode, parse_isSome]
    exact parses_ones (by decide)
  obtain ⟨value, hfirst⟩ := FirstFragment.exists Nat.one_pos (by rw [hlength]; omega) hfragment
  obtain ⟨htail, -⟩ := readNdjsonTailRecords_cases [] (digitsRecord tailRepairChunkBytes)
    (6 + tailRepairChunkBytes) Nat.one_pos
  have hdecoded : decode (tornBytes (digitsRecord tailRepairChunkBytes)
      (6 + tailRepairChunkBytes)) =
        memberStart ++ List.replicate tailRepairChunkBytes '1' ++ [] := by
    rw [hbytes, ← encode_append, decode_encode, List.append_nil]
  have htorn : parse (decode (tornBytes (digitsRecord tailRepairChunkBytes)
      (6 + tailRepairChunkBytes))) = none := by
    rw [← Option.not_isSome_iff_eq_none, parse_isSome, hdecoded, parses, read_member]
    decide
  rintro ⟨hagrees, -⟩
  rw [htail rfl value hfirst, readNdjsonRecords_eq, htorn] at hagrees
  cases hagrees

end SimulatorBroker.Events.Tail
