import SimulatorBroker.Events.Follow

/-!
# Every event once

A cursor splits the log into what has been read and what is still to be read.
Every poll moves the split forward by what it writes, so the events are written
in the order of the log, each once, and a poll that writes fewer events than the
limit has caught up.
-/

namespace SimulatorBroker.Events

variable {log done rest : List EventRecord} {limit : Nat}

/-! ## Lists -/

theorem lastId_append (left right : List EventRecord) :
    lastId (left ++ right) = (lastId right).or (lastId left) := by
  simp [lastId, List.getLast?_append, Option.map_or]

theorem lastId_nil : lastId [] = none := rfl

theorem lastId_eq_none : lastId log = none ↔ log = [] := by
  simp [lastId]

/-- The records up to the one that fills the page. -/
theorem filter_take_split (select : EventRecord → Bool) (hlimit : 0 < limit)
    (hmore : limit < (log.filter select).length) :
    ∃ consumed later, log = consumed ++ later ∧
      consumed.filter select = (log.filter select).take limit ∧
      consumed.getLast? = ((log.filter select).take limit).getLast? := by
  induction log generalizing limit with
  | nil => simp at hmore
  | cons event events ih =>
      cases hselect : select event with
      | false =>
          rw [List.filter_cons_of_neg (by simp [hselect])] at hmore ⊢
          obtain ⟨consumed, later, rfl, hfilter, hlast⟩ := ih hlimit hmore
          refine ⟨event :: consumed, later, rfl, ?_, ?_⟩
          · rw [List.filter_cons_of_neg (by simp [hselect]), hfilter]
          · have hsome : consumed.getLast?.isSome := by
              rw [hlast, List.getLast?_isSome, ne_eq, List.take_eq_nil_iff]
              rintro (hzero | hnil)
              · omega
              · simp [hnil] at hmore
            obtain ⟨last, hconsumed⟩ := Option.isSome_iff_exists.mp hsome
            rw [List.getLast?_cons, ← hlast, hconsumed]
            rfl
      | true =>
          rw [List.filter_cons_of_pos hselect] at hmore ⊢
          cases limit with
          | zero => omega
          | succ limit =>
              rw [List.take_succ_cons]
              rw [List.length_cons, Nat.succ_lt_succ_iff] at hmore
              cases limit with
              | zero =>
                  refine ⟨[event], events, rfl, ?_, ?_⟩ <;> simp [hselect]
              | succ limit =>
                  obtain ⟨consumed, later, rfl, hfilter, hlast⟩ := ih (Nat.succ_pos limit) hmore
                  refine ⟨event :: consumed, later, rfl, ?_, ?_⟩
                  · rw [List.filter_cons_of_pos hselect, hfilter]
                  · rw [List.getLast?_cons, List.getLast?_cons, hlast]

/-! ## One page -/

/-- The scan starts right after the cursor. -/
theorem scannedEvents_split (hids : ((done ++ rest).map (·.eventId)).Nodup) :
    scannedEvents (done ++ rest) (lastId done) = .ok rest := by
  cases hlast : done.getLast? with
  | none =>
      obtain rfl : done = [] := by simpa using hlast
      rfl
  | some last =>
      obtain ⟨before, rfl⟩ := List.getLast?_eq_some_iff.mp hlast
      have hlastId : lastId (before ++ [last]) = some last.eventId := by simp [lastId]
      have hfind : ((before ++ [last]) ++ rest).findIdx?
          (fun event => decide (event.eventId = last.eventId)) = some before.length := by
        rw [List.findIdx?_eq_some_iff_getElem]
        refine ⟨by simp, by simp, fun index hindex => ?_⟩
        have hne : (before[index]).eventId ≠ last.eventId := by
          rw [List.append_assoc, List.map_append, List.nodup_append] at hids
          exact hids.2.2 _ (List.mem_map_of_mem (List.getElem_mem _)) _ (by simp)
        simpa [List.getElem_append_left, hindex] using hne
      rw [hlastId, scannedEvents, hfind]
      simp

/-- A page in head mode: the next matching events, and the cursor behind the last
record it is done with. -/
structure HeadPage (accepts : EventRecord → Bool) (limit : Nat) (done rest : List EventRecord)
    (page : EventPage) (consumed later : List EventRecord) : Prop where
  split : rest = consumed ++ later
  events : page.events = consumed.filter accepts
  limited : page.events = (rest.filter accepts).take limit
  nextCursor : page.nextCursor = lastId (done ++ consumed)
  started : page.nextCursor = none → page.scannedCursor = none ∧ page.cursor = none

theorem readEventsBroker_head (options : ReadOptions) (hlimit : options.limit = some limit)
    (hpositive : 0 < limit) (hmode : options.limitMode = .head)
    (hcursor : options.afterEventId = some (lastId done))
    (hids : ((done ++ rest).map (·.eventId)).Nodup) :
    ∃ page consumed later, readEventsBroker options (done ++ rest) = .ok page ∧
      HeadPage options.accepts limit done rest page consumed later := by
  have hload : loadEventRecords options (done ++ rest) = done ++ rest := by
    simp [loadEventRecords, canUseTailEventRead, hcursor]
  obtain ⟨limit, rfl⟩ : ∃ count, limit = count + 1 := ⟨limit - 1, by omega⟩
  have hread : readEventsBroker options (done ++ rest) =
      if ((rest.filter options.accepts).take (limit + 1)).length <
          (rest.filter options.accepts).length then
        .ok (pageOf (lastId done)
          ((lastId ((rest.filter options.accepts).take (limit + 1))).or (lastId done)) rest
          ((rest.filter options.accepts).take (limit + 1)))
      else
        .ok (pageOf (lastId done) ((lastId rest).or (lastId done)) rest
          ((rest.filter options.accepts).take (limit + 1))) := by
    unfold readEventsBroker
    rw [hload, hcursor]
    simp only [Option.join_some, scannedEvents_split hids, hlimit, hmode]
    rfl
  rw [hread]
  split
  · rename_i hfull
    have hmore : limit + 1 < (rest.filter options.accepts).length := by
      rw [List.length_take] at hfull
      omega
    obtain ⟨consumed, later, hsplit, hfilter, hlast⟩ :=
      filter_take_split options.accepts hpositive hmore
    have hlastId : lastId consumed = lastId ((rest.filter options.accepts).take (limit + 1)) := by
      simp only [lastId, hlast]
    refine ⟨_, consumed, later, rfl, hsplit, hfilter.symm, rfl, ?_, ?_⟩
    · rw [lastId_append, hlastId]
      rfl
    · intro hnone
      have hempty : lastId ((rest.filter options.accepts).take (limit + 1)) = none :=
        (Option.or_eq_none_iff.mp hnone).1
      rw [lastId_eq_none, List.take_eq_nil_iff] at hempty
      obtain hzero | hnil := hempty
      · omega
      · simp [hnil] at hmore
  · rename_i hfull
    have hall : (rest.filter options.accepts).take (limit + 1) = rest.filter options.accepts := by
      rw [List.length_take] at hfull
      exact List.take_of_length_le (by omega)
    refine ⟨_, rest, [], rfl, by simp, ?_, rfl, ?_, ?_⟩
    · exact hall
    · rw [lastId_append]
      rfl
    · intro hnone
      obtain ⟨hrest, hdone⟩ := Option.or_eq_none_iff.mp hnone
      obtain rfl := lastId_eq_none.mp hrest
      simp [pageOf, hdone, lastId_nil]

/-! ## Polling -/

/-- What a stream writes first. -/
def openingEvents (options : StreamOptions) (first : List EventRecord) : List EventRecord :=
  match options.afterEventId with
  | none => takeLast options.limit (first.filter options.accepts)
  | some _ => []

/-- How many records of the log the stream is done with before it follows. -/
def followStart (options : StreamOptions) (first : List EventRecord) : Nat :=
  match options.afterEventId with
  | none => first.length
  | some afterEventId => first.findIdx (fun event => decide (event.eventId = afterEventId)) + 1

/-- The matching events of a log that are to be followed. -/
def followedEvents (options : StreamOptions) (first log : List EventRecord) : List EventRecord :=
  (log.drop (followStart options first)).filter options.accepts

/-- Where a stream stands: it is done with `done`, and has written of it what
lies behind `start`. -/
structure Following (options : StreamOptions) (opening : List EventRecord) (start : Nat)
    (state : StreamState) (done : List EventRecord) : Prop where
  cursor : state.cursor = lastId done
  head : state.didInitialRead = true ∨ state.cursor.isSome = true
  started : start ≤ done.length
  written : state.written = opening ++ (done.drop start).filter options.accepts

variable {options : StreamOptions} {opening first : List EventRecord} {start : Nat}
  {state : StreamState} {later : List (List EventRecord)}

/-- One poll writes the next matching events, up to the limit. -/
theorem Following.poll (hfollowing : Following options opening start state done)
    (hfollow : options.follow = true) (hlimit : 0 < options.limit)
    (hids : ((done ++ rest).map (·.eventId)).Nodup) :
    ∃ state' consumed later, streamPoll options state (done ++ rest) = .ok state' ∧
      rest = consumed ++ later ∧
      Following options opening start state' (done ++ consumed) ∧
      consumed.filter options.accepts = (rest.filter options.accepts).take options.limit := by
  have hmode : (pollOptions options state).limitMode = .head := by
    obtain hread | hcursor := hfollowing.head
    · simp [pollOptions, hfollow, hread]
    · simp [pollOptions, hfollow, hcursor]
  obtain ⟨page, consumed, later, hread, hpage⟩ :=
    readEventsBroker_head (pollOptions options state) rfl hlimit hmode
      (congrArg some hfollowing.cursor) hids
  have haccepts : (pollOptions options state).accepts = options.accepts := rfl
  rw [haccepts] at hpage
  have hcursor : (page.nextCursor.or page.scannedCursor).or page.cursor =
      lastId (done ++ consumed) := by
    cases hnext : page.nextCursor with
    | none =>
        obtain ⟨hscanned, hpageCursor⟩ := hpage.started hnext
        rw [hscanned, hpageCursor, ← hpage.nextCursor, hnext]
        rfl
    | some cursor =>
        rw [← hpage.nextCursor, hnext]
        rfl
  refine ⟨{
      cursor := (page.nextCursor.or page.scannedCursor).or page.cursor
      didInitialRead := true
      written := state.written ++ page.events },
    consumed, later, ?_, hpage.split, ⟨hcursor, .inl rfl, ?_, ?_⟩, ?_⟩
  · unfold streamPoll
    rw [hread]
    rfl
  · rw [List.length_append]
    exact Nat.le_trans hfollowing.started (Nat.le_add_right _ _)
  · rw [List.drop_append_of_le_length hfollowing.started, List.filter_append, ← hpage.events,
      ← List.append_assoc, ← hfollowing.written]
  · rw [← hpage.events, hpage.limited]

/-- Poll after poll on growing logs. -/
theorem Following.polls (hfollow : options.follow = true) (hlimit : 0 < options.limit)
    {logs : List (List EventRecord)} (hfollowing : Following options opening start state done)
    (hgrows : ((done ++ rest) :: logs).Pairwise (· <+: ·))
    (hids : ∀ log ∈ logs, (log.map (·.eventId)).Nodup) :
    ∃ state' done' rest', logs.foldlM (streamPoll options) state = .ok state' ∧
      ((done ++ rest) :: logs).getLast (by simp) = done' ++ rest' ∧
      Following options opening start state' done' ∧
      ∀ bound, (∀ log ∈ logs, bound ≤ ((log.drop start).filter options.accepts).length) →
        min bound (((done.drop start).filter options.accepts).length +
          logs.length * options.limit) ≤ ((done'.drop start).filter options.accepts).length := by
  induction logs generalizing state done rest with
  | nil =>
      refine ⟨state, done, rest, rfl, rfl, hfollowing, fun bound _ => ?_⟩
      simp only [List.length_nil, Nat.zero_mul, Nat.add_zero]
      exact Nat.min_le_right _ _
  | cons log logs ih =>
      obtain ⟨hstart, hrest⟩ := List.pairwise_cons.mp hgrows
      obtain ⟨appended, rfl⟩ := hstart log (by simp)
      rw [List.append_assoc] at hrest hids ⊢
      have hidsHere : ((done ++ (rest ++ appended)).map (·.eventId)).Nodup := hids _ (by simp)
      obtain ⟨polled, consumed, later, hpoll, hsplit, hpolled, hconsumed⟩ :=
        hfollowing.poll hfollow hlimit hidsHere
      rw [hsplit, ← List.append_assoc] at hrest
      obtain ⟨state', done', rest', hfold, hlast, hend, hprogress⟩ :=
        ih hpolled hrest fun other hother => hids other (List.mem_cons_of_mem _ hother)
      refine ⟨state', done', rest', ?_, ?_, hend, fun bound hbound => ?_⟩
      · rw [List.foldlM_cons, hpoll]
        exact hfold
      · rw [List.getLast_cons (by simp), hsplit, ← List.append_assoc]
        exact hlast
      · refine Nat.le_trans ?_ (hprogress bound fun other hother =>
          hbound other (List.mem_cons_of_mem _ hother))
        have hfirst := hbound (done ++ (rest ++ appended)) (by simp)
        rw [List.drop_append_of_le_length hfollowing.started, List.filter_append,
          List.length_append] at hfirst
        rw [List.drop_append_of_le_length hfollowing.started, List.filter_append,
          List.length_append, hconsumed, List.length_take, List.length_cons, Nat.succ_mul]
        omega

/-! ## The whole stream -/

theorem findIdx_append_self {before after : List EventRecord} {event : EventRecord}
    (hids : ((before ++ event :: after).map (·.eventId)).Nodup) :
    (before ++ event :: after).findIdx (fun other => decide (other.eventId = event.eventId)) =
      before.length := by
  rw [List.findIdx_eq (by simp)]
  refine ⟨by simp, fun index hindex => ?_⟩
  have hne : (before[index]).eventId ≠ event.eventId := by
    rw [List.map_append, List.nodup_append] at hids
    exact hids.2.2 _ (List.mem_map_of_mem (List.getElem_mem _)) _ (by simp)
  simpa [List.getElem_append_left, hindex] using hne

/-- A cursor that is in the log splits it. -/
theorem split_at_cursor {event : EventRecord} (hids : (log.map (·.eventId)).Nodup)
    (hmem : event ∈ log) :
    ∃ done rest, log = done ++ rest ∧ lastId done = some event.eventId ∧
      done.length = log.findIdx (fun other => decide (other.eventId = event.eventId)) + 1 := by
  obtain ⟨before, after, rfl⟩ := List.append_of_mem hmem
  exact ⟨before ++ [event], after, by simp, by simp [lastId], by simp [findIdx_append_self hids]⟩

/-- With a starting cursor the stream follows from the start. -/
theorem following_cursor {afterEventId : EventId} (hcursor : options.afterEventId = some afterEventId)
    (hids : (first.map (·.eventId)).Nodup) (hmem : ∃ event ∈ first, event.eventId = afterEventId) :
    ∃ done rest, first = done ++ rest ∧
      Following options (openingEvents options first) (followStart options first)
        { cursor := options.afterEventId } done := by
  obtain ⟨event, hevent, rfl⟩ := hmem
  obtain ⟨done, rest, hsplit, hlast, hlength⟩ := split_at_cursor hids hevent
  have hstart : followStart options first = done.length := by simp [followStart, hcursor, hlength]
  refine ⟨done, rest, hsplit, ⟨?_, ?_, ?_, ?_⟩⟩
  · rw [hcursor, hlast]
  · simp [hcursor]
  · rw [hstart]
  · simp [hstart, openingEvents, hcursor]

/-- Without one, the first read writes the last matching events and goes to the
end of the log. -/
theorem following_opening (first : List EventRecord) (hcursor : options.afterEventId = none) (hlimit : 0 < options.limit) :
    ∃ state, streamPoll options { cursor := options.afterEventId } first = .ok state ∧
      Following options (openingEvents options first) (followStart options first) state first := by
  obtain ⟨limit, hcount⟩ : ∃ count, options.limit = count + 1 := ⟨options.limit - 1, by omega⟩
  have hread : readEventsBroker (pollOptions options { cursor := options.afterEventId }) first =
      .ok (pageOf none ((lastId first).or none) first
        (takeLast options.limit (first.filter options.accepts))) := by
    have hload : loadEventRecords (pollOptions options { cursor := options.afterEventId }) first =
        first := by
      simp [loadEventRecords, canUseTailEventRead, pollOptions]
    unfold readEventsBroker
    rw [hload]
    simp only [pollOptions, hcursor, Option.join_some, scannedEvents, hcount, Option.isSome_none,
      Bool.or_self, Bool.and_false, Bool.false_eq_true, if_false]
    rfl
  refine ⟨{
      cursor := (((lastId first).or none).or ((lastId first).or none)).or
        ((lastId (takeLast options.limit (first.filter options.accepts))).or none)
      didInitialRead := true
      written := [] ++ takeLast options.limit (first.filter options.accepts) },
    ?_, ⟨?_, .inl rfl, ?_, ?_⟩⟩
  · unfold streamPoll
    rw [hread]
    rfl
  · cases hlast : lastId first with
    | none =>
        obtain rfl := lastId_eq_none.mp hlast
        simp [takeLast, lastId_nil]
    | some cursor => rfl
  · simp [followStart, hcursor]
  · simp [followStart, openingEvents, hcursor]

theorem matchingEvents_grow {before after : List EventRecord} (hstart : before <+: after) (start : Nat)
    (select : EventRecord → Bool) :
    (before.drop start).filter select <+: (after.drop start).filter select :=
  (List.IsPrefix.drop hstart start).filter select

theorem prefix_getLast {α : Type} {logs : List (List α)} (hgrows : logs.Pairwise (· <+: ·))
    {log : List α} (hmem : log ∈ logs) : log <+: logs.getLast (List.ne_nil_of_mem hmem) := by
  have hne := List.ne_nil_of_mem hmem
  rw [← List.dropLast_append_getLast hne] at hgrows hmem
  obtain hmem | hmem := List.mem_append.mp hmem
  · exact (List.pairwise_append.mp hgrows).2.2 log hmem _ (by simp)
  · rw [List.mem_singleton] at hmem
    exact hmem ▸ List.prefix_rfl

/-- What a stream that follows writes from where it stands. -/
theorem Following.delivers (rest : List EventRecord) (hfollow : options.follow = true)
    (hlimit : 0 < options.limit) {logs : List (List EventRecord)}
    (hfollowing : Following options opening start state done)
    (hgrows : ((done ++ rest) :: logs).Pairwise (· <+: ·))
    (hids : ∀ log ∈ logs, (log.map (·.eventId)).Nodup) :
    ∃ state' delivered, logs.foldlM (streamPoll options) state = .ok state' ∧
      state'.written = opening ++ delivered ∧
      delivered <+:
        ((((done ++ rest) :: logs).getLast (by simp)).drop start).filter options.accepts ∧
      ∀ earlier log polls, logs = earlier ++ log :: polls →
        ((log.drop start).filter options.accepts).take ((polls.length + 1) * options.limit) <+:
          delivered := by
  obtain ⟨state', done', rest', hfold, hlast, hend, -⟩ :=
    hfollowing.polls hfollow hlimit hgrows hids
  have hdelivered : (done'.drop start).filter options.accepts <+:
      ((((done ++ rest) :: logs).getLast (by simp)).drop start).filter options.accepts := by
    rw [hlast]
    exact matchingEvents_grow (List.prefix_append done' rest') start _
  refine ⟨state', _, hfold, hend.written, hdelivered, ?_⟩
  rintro earlier log polls rfl
  rw [← List.cons_append, List.pairwise_append] at hgrows
  obtain ⟨hearlier, hpolls, hbetween⟩ := hgrows
  obtain ⟨middle, seen, unseen, hmiddle, hseen, hstands, -⟩ :=
    hfollowing.polls hfollow hlimit hearlier fun other hother =>
      hids other (List.mem_append_left _ hother)
  have hrest : ((seen ++ unseen) :: log :: polls).Pairwise (· <+: ·) := by
    refine List.pairwise_cons.mpr ⟨fun other hother => ?_, hpolls⟩
    rw [← hseen]
    exact hbetween _ (List.getLast_mem _) other hother
  obtain ⟨final, doneFinal, -, hfinal, -, hfinalStands, hprogress⟩ :=
    hstands.polls hfollow hlimit hrest fun other hother =>
      hids other (List.mem_append_right _ hother)
  have hsame : final = state' := by
    rw [List.foldlM_append, hmiddle] at hfold
    exact Except.ok.inj (hfinal.symm.trans hfold)
  subst hsame
  have hwritten : (doneFinal.drop start).filter options.accepts =
      (done'.drop start).filter options.accepts :=
    List.append_cancel_left (hfinalStands.written.symm.trans hend.written)
  have hbound := hprogress ((log.drop start).filter options.accepts).length fun other hother => ?_
  · have hlog : log <+: ((done ++ rest) :: (earlier ++ log :: polls)).getLast (by simp) := by
      refine prefix_getLast ?_ (by simp)
      rw [← List.cons_append]
      exact List.pairwise_append.mpr ⟨hearlier, hpolls, hbetween⟩
    refine List.prefix_of_prefix_length_le
      ((List.take_prefix _ _).trans (matchingEvents_grow hlog start _)) hdelivered ?_
    rw [hwritten, List.length_cons] at hbound
    rw [List.length_take]
    omega
  · refine List.IsPrefix.length_le (matchingEvents_grow ?_ start _)
    obtain rfl | hother := List.mem_cons.mp hother
    · exact List.prefix_rfl
    · exact (List.pairwise_cons.mp hpolls).1 other hother

/-- First the last matching events of the first log, or nothing if there is a
starting cursor; then the matching events behind that point in the order of the
log, each once, and every one of them as soon as enough polls have seen it. -/
theorem streamEventsLocal_delivers (hfollow : options.follow = true)
    (hlimit : 0 < options.limit) (hgrows : (first :: later).Pairwise (· <+: ·))
    (hids : ∀ log ∈ first :: later, (log.map (·.eventId)).Nodup)
    (hcursor : ∀ afterEventId, options.afterEventId = some afterEventId →
      ∃ event ∈ first, event.eventId = afterEventId) :
    ∃ state delivered, streamEventsLocal options (first :: later) = .ok state ∧
      state.written = openingEvents options first ++ delivered ∧
      delivered <+: followedEvents options first ((first :: later).getLast (by simp)) ∧
      ∀ earlier log polls, first :: later = earlier ++ log :: polls →
        (followedEvents options first log).take ((polls.length + 1) * options.limit) <+:
          delivered := by
  have hstream : streamEventsLocal options (first :: later) =
      (first :: later).foldlM (streamPoll options) { cursor := options.afterEventId } := by
    simp [streamEventsLocal, hfollow]
  rw [hstream]
  cases hafter : options.afterEventId with
  | some afterEventId =>
      obtain ⟨done, rest, rfl, hfollowing⟩ :=
        following_cursor hafter (hids first (by simp)) (hcursor afterEventId hafter)
      rw [hafter] at hfollowing
      have hagain : ((done ++ rest) :: (done ++ rest) :: later).Pairwise (· <+: ·) := by
        refine List.pairwise_cons.mpr ⟨fun log hlog => ?_, hgrows⟩
        obtain rfl | hlog := List.mem_cons.mp hlog
        · exact List.prefix_rfl
        · exact (List.pairwise_cons.mp hgrows).1 log hlog
      exact hfollowing.delivers rest hfollow hlimit hagain hids
  | none =>
      obtain ⟨opened, hopened, hfollowing⟩ := following_opening first hafter hlimit
      rw [hafter] at hopened
      obtain ⟨state, delivered, hfold, hwritten, hstart, hpolls⟩ :=
        hfollowing.delivers [] hfollow hlimit (by simpa using hgrows)
          fun log hlog => hids log (List.mem_cons_of_mem _ hlog)
      refine ⟨state, delivered, ?_, hwritten, ?_, ?_⟩
      · rw [List.foldlM_cons, hopened]
        exact hfold
      · simpa [followedEvents] using hstart
      · intro earlier log polls hsplit
        cases earlier with
        | nil =>
            obtain ⟨rfl, -⟩ := List.cons_eq_cons.mp hsplit
            have hempty : followedEvents options first first = [] := by
              simp [followedEvents, followStart, hafter]
            simp [hempty]
        | cons other earlier =>
            obtain ⟨rfl, rfl⟩ := List.cons_eq_cons.mp hsplit
            exact hpolls earlier log polls rfl

/-! ## Pages -/

/-- The records behind a cursor. -/
def recordsAfter (log : List EventRecord) : Option EventId → List EventRecord
  | none => log
  | some cursor => log.drop (log.findIdx (fun event => decide (event.eventId = cursor)) + 1)

theorem readPages_split (done rest : List EventRecord) {options : ReadOptions}
    (hlimit : options.limit = some limit)
    (hpositive : 0 < limit) (hmode : options.limitMode = .head)
    (hids : ((done ++ rest).map (·.eventId)).Nodup) (count : Nat) :
    ∃ pages, readPages options (done ++ rest) count (lastId done) = .ok pages ∧
      (∀ page ∈ pages, page.length ≤ limit) ∧
      pages.flatten = (rest.filter options.accepts).take (count * limit) := by
  induction count generalizing done rest with
  | zero => exact ⟨[], rfl, by simp, by simp⟩
  | succ count ih =>
      obtain ⟨page, consumed, later, hread, hpage⟩ :=
        readEventsBroker_head { options with afterEventId := some (lastId done) } hlimit hpositive
          hmode rfl hids
      have haccepts : ReadOptions.accepts { options with afterEventId := some (lastId done) } =
          options.accepts := rfl
      rw [haccepts] at hpage
      have hsame : done ++ rest = (done ++ consumed) ++ later := by
        rw [hpage.split, List.append_assoc]
      obtain ⟨pages, hpages, hbounded, hflatten⟩ := ih (done ++ consumed) later (hsame ▸ hids)
      refine ⟨page.events :: pages, ?_, ?_, ?_⟩
      · unfold readPages
        rw [hread]
        rw [← hsame, ← hpage.nextCursor] at hpages
        simp only [bind, Except.bind, hpages]
        rfl
      · intro events hevents
        obtain rfl | hevents := List.mem_cons.mp hevents
        · rw [hpage.limited]
          exact List.length_take_le _ _
        · exact hbounded events hevents
      · have hconsumed : consumed.filter options.accepts =
            (rest.filter options.accepts).take limit := hpage.events.symm.trans hpage.limited
        have hlater : later.filter options.accepts = (rest.filter options.accepts).drop limit := by
          have hjoined := List.take_append_drop limit (rest.filter options.accepts)
          rw [← hconsumed] at hjoined
          conv at hjoined => rhs; rw [hpage.split, List.filter_append]
          exact (List.append_cancel_left hjoined).symm
        rw [List.flatten_cons, hflatten, hlater, hpage.limited, Nat.succ_mul, Nat.add_comm,
          List.take_add]

/-- Page after page in head mode partitions the matching records behind the
cursor. -/
theorem readPages_partition {options : ReadOptions} (hlimit : options.limit = some limit)
    (hpositive : 0 < limit) (hmode : options.limitMode = .head)
    (hids : (log.map (·.eventId)).Nodup) {cursor : Option EventId}
    (hcursor : ∀ eventId, cursor = some eventId → ∃ event ∈ log, event.eventId = eventId)
    (count : Nat) :
    ∃ pages, readPages options log count cursor = .ok pages ∧
      (∀ page ∈ pages, page.length ≤ limit) ∧
      pages.flatten = ((recordsAfter log cursor).filter options.accepts).take (count * limit) := by
  cases cursor with
  | none => exact readPages_split [] log hlimit hpositive hmode hids count
  | some eventId =>
      obtain ⟨event, hevent, rfl⟩ := hcursor eventId rfl
      obtain ⟨done, rest, rfl, hlast, hlength⟩ := split_at_cursor hids hevent
      have hafter : recordsAfter (done ++ rest) (some event.eventId) = rest := by
        simp only [recordsAfter, ← hlength, List.drop_left]
      rw [hafter, ← hlast]
      exact readPages_split done rest hlimit hpositive hmode hids count

/-! ## Exactly once -/

/-- First the last matching events of the first log, or nothing if there is a
starting cursor; then the matching events behind that point in the order of the
log, each once, and every one of them as soon as enough polls have seen it.
Reading the log page after page delivers the same. -/
theorem eventLog_exactlyOnce (options : StreamOptions) (hlimit : 0 < options.limit)
    (first : List EventRecord) (later : List (List EventRecord))
    (hfollow : options.follow = true) (hgrows : (first :: later).Pairwise (· <+: ·))
    (hids : ∀ log ∈ first :: later, (log.map (·.eventId)).Nodup)
    (hcursor : ∀ afterEventId, options.afterEventId = some afterEventId →
      ∃ event ∈ first, event.eventId = afterEventId) :
    (∃ state delivered, streamEventsLocal options (first :: later) = .ok state ∧
      state.written = openingEvents options first ++ delivered ∧
      delivered <+: followedEvents options first ((first :: later).getLast (by simp)) ∧
      ∀ earlier log polls, first :: later = earlier ++ log :: polls →
        (followedEvents options first log).take ((polls.length + 1) * options.limit) <+:
          delivered) ∧
    ∀ read : ReadOptions, read.limit = some options.limit → read.limitMode = .head → ∀ count,
      ∃ pages, readPages read first count options.afterEventId = .ok pages ∧
        (∀ page ∈ pages, page.length ≤ options.limit) ∧
        pages.flatten = ((recordsAfter first options.afterEventId).filter read.accepts).take
          (count * options.limit) :=
  ⟨streamEventsLocal_delivers hfollow hlimit hgrows hids hcursor, fun _ hread hmode count =>
    readPages_partition hread hlimit hmode (hids first (by simp)) hcursor count⟩

/-- Three matching events arrive at once, and the limit is two. -/
theorem eventLog_exactlyOnce_burst :
    let event (eventId : EventId) : EventRecord := { eventId, type := some "lease.acquired" }
    let skipped (eventId : EventId) : EventRecord := { eventId, type := some "pin.created" }
    let options : StreamOptions := { limit := 2, type := some "lease.acquired" }
    let first := [event 1, skipped 2]
    let second := first ++ [event 3, event 4, skipped 5, event 6]
    (∃ state delivered, streamEventsLocal options [first, second, second] = .ok state ∧
      state.written = openingEvents options first ++ delivered ∧
      delivered <+: followedEvents options first second ∧
      ∀ earlier log polls, [first, second, second] = earlier ++ log :: polls →
        (followedEvents options first log).take ((polls.length + 1) * options.limit) <+:
          delivered) ∧
    ∀ read : ReadOptions, read.limit = some options.limit → read.limitMode = .head → ∀ count,
      ∃ pages, readPages read first count options.afterEventId = .ok pages ∧
        (∀ page ∈ pages, page.length ≤ options.limit) ∧
        pages.flatten = ((recordsAfter first options.afterEventId).filter read.accepts).take
          (count * options.limit) := by
  intro event skipped options first second
  refine eventLog_exactlyOnce options (by decide) first [second, second] rfl ?_ ?_ ?_
  · simp [first, second]
  · intro log hlog
    simp only [List.mem_cons, List.not_mem_nil, or_false] at hlog
    obtain rfl | rfl | rfl := hlog <;> decide
  · simp [options]

end SimulatorBroker.Events
