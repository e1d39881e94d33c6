import SimulatorBroker.Text.Utf8
import SimulatorBroker.Text.Value

/-!
# The body of a request

`parseBody` of the service: what it collects from the events of a request, and how it settles.
-/

namespace SimulatorBroker.Service

open SimulatorBroker.Text (Value encode parse)

/-! ## Events and outcomes -/

/-- What `Number` makes of the `Content-Length` header. -/
inductive ContentLength where
  | missing
  | invalid
  | bytes (declared : Nat)
  deriving DecidableEq, Repr

/-- A `BrokerError`, or the error the request was given. -/
inductive BodyError (ε : Type) where
  | broker (reasonCode message : String)
  | transport (error : ε)
  deriving DecidableEq, Repr

inductive BodyOutcome (ε : Type) where
  | resolved (value : Value)
  | rejected (error : BodyError ε)

/-- The events that `parseBody` listens to, those of the abort signal and of its timer included. -/
inductive BodyEvent (ε : Type) where
  | abort
  | aborted
  | data (chunk : List Char)
  | ended
  | error (error : ε)
  | timeout

variable {ε : Type}

def requestBodyError (message : String) : BodyError ε :=
  .broker "invalid-command-request" message

/-- The variables of `parseBody`, what it has settled with, and what it has done to the request. -/
structure BodyReader (ε : Type) where
  body : List Char := []
  bodyBytes : Nat := 0
  settled : Option (BodyOutcome ε) := none
  paused : Bool := false
  destroyed : Bool := false

namespace BodyReader

/-! ## The listeners -/

def finish (reader : BodyReader ε) (outcome : BodyOutcome ε) : BodyReader ε :=
  if reader.settled.isSome then reader else { reader with settled := some outcome }

def tooLarge (maxBytes : Nat) : BodyOutcome ε :=
  .rejected (requestBodyError s!"Broker service request body exceeds {maxBytes} bytes.")

/-- `onAbort` and `onAborted`. -/
def onAbort (reader : BodyReader ε) : BodyReader ε :=
  reader.finish (.rejected (requestBodyError "Broker service request body was aborted."))

def onData (maxBytes : Nat) (reader : BodyReader ε) (chunk : List Char) : BodyReader ε :=
  let bodyBytes := reader.bodyBytes + (encode chunk).length
  if maxBytes < bodyBytes then
    finish { reader with bodyBytes, paused := true } (tooLarge maxBytes)
  else { reader with bodyBytes, body := reader.body ++ chunk }

/-- The value of a body, which may be missing. -/
def parsedBody (body : List Char) : Option Value :=
  if body = [] then some (.object []) else parse body

def onEnd (reader : BodyReader ε) : BodyReader ε :=
  match parsedBody reader.body with
  | some value => reader.finish (.resolved value)
  | none =>
      reader.finish
        (.rejected (.broker "invalid-json" "Broker service received invalid JSON."))

def onTimeout (reader : BodyReader ε) : BodyReader ε :=
  finish { reader with destroyed := true }
    (.rejected (requestBodyError "Broker service request body timed out."))

def handle (maxBytes : Nat) (reader : BodyReader ε) : BodyEvent ε → BodyReader ε
  | .abort | .aborted => reader.onAbort
  | .data chunk => reader.onData maxBytes chunk
  | .ended => reader.onEnd
  | .error error => reader.finish (.rejected (.transport error))
  | .timeout => reader.onTimeout

/-- One event.  Settling removes the listeners. -/
def step (maxBytes : Nat) (reader : BodyReader ε) (event : BodyEvent ε) : BodyReader ε :=
  if reader.settled.isSome then reader else reader.handle maxBytes event

/-- What `parseBody` does before it listens. -/
def listen (maxBytes : Nat) (signalAborted : Bool) (contentLength : ContentLength) :
    BodyReader ε :=
  if signalAborted then onAbort {}
  else
    match contentLength with
    | .missing => {}
    | .invalid =>
        finish {} (.rejected (requestBodyError
          "Broker service request Content-Length must be a non-negative integer."))
    | .bytes declared => if maxBytes < declared then finish {} (tooLarge maxBytes) else {}

def run (maxBytes : Nat) (reader : BodyReader ε) (events : List (BodyEvent ε)) : BodyReader ε :=
  events.foldl (step maxBytes) reader

end BodyReader

/-- `parseBody(request, { maxBytes, signal })`: what it has settled with after these events. -/
def parseBody (maxBytes : Nat) (signalAborted : Bool) (contentLength : ContentLength)
    (events : List (BodyEvent ε)) : Option (BodyOutcome ε) :=
  (BodyReader.run maxBytes (.listen maxBytes signalAborted contentLength) events).settled

/-! ## Runs -/

/-- The events begin with the chunks of a text, and its end. -/
inductive Delivers : List (BodyEvent ε) → List Char → Prop where
  | ended (rest : List (BodyEvent ε)) : Delivers (.ended :: rest) []
  | data {chunk text : List Char} {events : List (BodyEvent ε)} (hrest : Delivers events text) :
      Delivers (.data chunk :: events) (chunk ++ text)

def ContentLength.Within (maxBytes : Nat) : ContentLength → Prop
  | .missing => True
  | .invalid => False
  | .bytes declared => declared ≤ maxBytes

namespace BodyReader

variable {maxBytes : Nat} {reader : BodyReader ε} {events : List (BodyEvent ε)} {value : Value}

@[simp]
theorem run_cons (event : BodyEvent ε) :
    run maxBytes reader (event :: events) = run maxBytes (step maxBytes reader event) events :=
  rfl

/-- A body is settled once. -/
theorem run_of_settled (hsettled : reader.settled.isSome = true) (events : List (BodyEvent ε)) :
    run maxBytes reader events = reader := by
  induction events with
  | nil => rfl
  | cons event events ih => rw [run_cons, step, if_pos hsettled, ih]

theorem settled_finish (hopen : reader.settled = none) (outcome : BodyOutcome ε) :
    (reader.finish outcome).settled = some outcome := by
  rw [finish, if_neg (by simp [hopen])]

theorem run_cons_of_open (hopen : reader.settled = none) (event : BodyEvent ε) :
    run maxBytes reader (event :: events) = run maxBytes (reader.handle maxBytes event) events := by
  rw [run_cons, step, if_neg (by simp [hopen])]

theorem not_resolved_of_rejected {error : BodyError ε}
    (hrejected : reader.settled = some (.rejected error)) :
    (run maxBytes reader events).settled ≠ some (.resolved value) := by
  rw [run_of_settled (by rw [hrejected]; rfl), hrejected]
  rintro ⟨⟩

/-- A body that is still read: its bytes are counted and are not too many. -/
structure Reading (maxBytes : Nat) (reader : BodyReader ε) : Prop where
  unsettled : reader.settled = none
  counted : reader.bodyBytes = (encode reader.body).length
  within : reader.bodyBytes ≤ maxBytes

theorem reading_start : Reading maxBytes ({} : BodyReader ε) :=
  ⟨rfl, rfl, Nat.zero_le maxBytes⟩

theorem length_encode_append (left right : List Char) :
    (encode (left ++ right)).length = (encode left).length + (encode right).length := by
  simp [encode]

theorem Reading.data (hreading : Reading maxBytes reader) {chunk : List Char}
    (hlength : (encode (reader.body ++ chunk)).length ≤ maxBytes) :
    handle maxBytes reader (.data chunk) =
        { reader with
          bodyBytes := (encode (reader.body ++ chunk)).length, body := reader.body ++ chunk } ∧
      Reading maxBytes (handle maxBytes reader (.data chunk)) := by
  have hbytes : reader.bodyBytes + (encode chunk).length =
      (encode (reader.body ++ chunk)).length := by
    rw [length_encode_append, hreading.counted]
  have hhandle : handle maxBytes reader (.data chunk) =
      { reader with
        bodyBytes := (encode (reader.body ++ chunk)).length, body := reader.body ++ chunk } := by
    show onData maxBytes reader chunk = _
    unfold onData
    rw [hbytes]
    exact if_neg (Nat.not_lt.mpr hlength)
  refine ⟨hhandle, ?_⟩
  rw [hhandle]
  exact ⟨hreading.unsettled, rfl, hlength⟩

theorem Reading.tooMuch (hreading : Reading maxBytes reader) {chunk : List Char}
    (hlength : maxBytes < (encode (reader.body ++ chunk)).length) :
    (handle maxBytes reader (.data chunk)).settled = some (tooLarge maxBytes) := by
  rw [length_encode_append, ← hreading.counted] at hlength
  show (onData maxBytes reader chunk).settled = _
  unfold onData
  rw [if_pos hlength, finish, if_neg (by simp [hreading.unsettled])]

theorem Reading.ended (hreading : Reading maxBytes reader) :
    (handle maxBytes reader .ended).settled = some (.resolved value) ↔
      parsedBody reader.body = some value := by
  show (onEnd reader).settled = _ ↔ _
  unfold onEnd
  cases parsedBody reader.body with
  | none => simp [settled_finish hreading.unsettled]
  | some found => simp [settled_finish hreading.unsettled]

/-- Any other event ends the reading without a value. -/
theorem Reading.other (hreading : Reading maxBytes reader) {event : BodyEvent ε}
    (hdata : ∀ chunk, event ≠ .data chunk) (hended : event ≠ .ended) :
    ∃ error, (handle maxBytes reader event).settled = some (.rejected error) := by
  have hopen := hreading.unsettled
  cases event with
  | abort => exact ⟨_, settled_finish hopen _⟩
  | aborted => exact ⟨_, settled_finish hopen _⟩
  | data chunk => exact absurd rfl (hdata chunk)
  | ended => exact absurd rfl hended
  | error error => exact ⟨_, settled_finish hopen _⟩
  | timeout => exact ⟨_, by rw [handle, onTimeout, finish, if_neg (by simp [hopen])]⟩

theorem Reading.settles_ended (hreading : Reading maxBytes reader) :
    (handle maxBytes reader .ended).settled.isSome = true := by
  show (onEnd reader).settled.isSome = true
  unfold onEnd
  split <;> simp [settled_finish hreading.unsettled]

/-- Behind what has been read, the events bring the rest of a body that has this value. -/
def Completes (maxBytes : Nat) (body : List Char) (events : List (BodyEvent ε)) (value : Value) :
    Prop :=
  ∃ text, Delivers events text ∧ (encode (body ++ text)).length ≤ maxBytes ∧
    parsedBody (body ++ text) = some value

theorem Completes.within {body : List Char} (hcompletes : Completes maxBytes body events value) :
    (encode body).length ≤ maxBytes := by
  obtain ⟨text, -, hwithin, -⟩ := hcompletes
  rw [length_encode_append] at hwithin
  exact Nat.le_of_add_right_le hwithin

theorem completes_data_iff {body chunk : List Char} :
    Completes maxBytes body (.data chunk :: events) value ↔
      Completes maxBytes (body ++ chunk) events value := by
  constructor
  · rintro ⟨_, hdelivers, hwithin, hparsed⟩
    cases hdelivers with
    | data hrest =>
        rw [← List.append_assoc] at hwithin hparsed
        exact ⟨_, hrest, hwithin, hparsed⟩
  · rintro ⟨text, hdelivers, hwithin, hparsed⟩
    rw [List.append_assoc] at hwithin hparsed
    exact ⟨chunk ++ text, .data hdelivers, hwithin, hparsed⟩

theorem completes_ended_iff {body : List Char} :
    Completes maxBytes body (.ended :: events) value ↔
      (encode body).length ≤ maxBytes ∧ parsedBody body = some value := by
  constructor
  · rintro ⟨_, hdelivers, hwithin, hparsed⟩
    cases hdelivers with
    | ended =>
        rw [List.append_nil] at hwithin hparsed
        exact ⟨hwithin, hparsed⟩
  · rintro ⟨hwithin, hparsed⟩
    rw [← List.append_nil body] at hwithin hparsed
    exact ⟨[], .ended events, hwithin, hparsed⟩

theorem Reading.resolved_iff (hreading : Reading maxBytes reader) :
    (run maxBytes reader events).settled = some (.resolved value) ↔
      Completes maxBytes reader.body events value := by
  induction events generalizing reader with
  | nil =>
      constructor
      · intro hresolved
        cases hreading.unsettled.symm.trans hresolved
      · rintro ⟨text, ⟨⟩, -⟩
  | cons event events ih =>
      rw [run_cons_of_open hreading.unsettled]
      by_cases hdata : ∃ chunk, event = .data chunk
      · obtain ⟨chunk, rfl⟩ := hdata
        rw [completes_data_iff]
        by_cases hlength : (encode (reader.body ++ chunk)).length ≤ maxBytes
        · obtain ⟨hhandle, hnext⟩ := hreading.data hlength
          rw [ih hnext, hhandle]
        · have hrejected := hreading.tooMuch (Nat.lt_of_not_le hlength)
          exact iff_of_false (not_resolved_of_rejected hrejected) fun hcompletes =>
            hlength hcompletes.within
      · by_cases hended : event = .ended
        · subst hended
          rw [run_of_settled hreading.settles_ended, hreading.ended, completes_ended_iff,
            ← hreading.counted]
          exact (and_iff_right hreading.within).symm
        · obtain ⟨error, hrejected⟩ := hreading.other (not_exists.mp hdata) hended
          refine iff_of_false (not_resolved_of_rejected hrejected) ?_
          rintro ⟨text, hdelivers, -⟩
          cases hdelivers with
          | ended => exact hended rfl
          | data hrest => exact hdata ⟨_, rfl⟩

end BodyReader

/-- A body is accepted with a value exactly if no abort came first, its declared length is no more
than the limit, its chunks and their end come before anything else, their bytes together are no
more than the limit, and the text they make has that value. -/
theorem parseBody_resolves_iff {maxBytes : Nat} {signalAborted : Bool}
    {contentLength : ContentLength} {events : List (BodyEvent ε)} {value : Value} :
    parseBody maxBytes signalAborted contentLength events = some (.resolved value) ↔
      signalAborted = false ∧ contentLength.Within maxBytes ∧
        ∃ text, Delivers events text ∧ (encode text).length ≤ maxBytes ∧
          BodyReader.parsedBody text = some value := by
  unfold parseBody
  cases signalAborted with
  | true =>
      constructor
      · intro hresolved
        exact absurd hresolved (BodyReader.not_resolved_of_rejected rfl)
      · rintro ⟨⟨⟩, -⟩
  | false =>
      rw [eq_self_iff_true, true_and]
      cases contentLength with
      | missing =>
          exact BodyReader.reading_start.resolved_iff.trans (and_iff_right trivial).symm
      | invalid =>
          constructor
          · intro hresolved
            exact absurd hresolved (BodyReader.not_resolved_of_rejected rfl)
          · rintro ⟨⟨⟩, -⟩
      | bytes declared =>
          unfold ContentLength.Within
          by_cases hdeclared : declared ≤ maxBytes
          · have hlisten : @BodyReader.listen ε maxBytes false (.bytes declared) = {} :=
              if_neg (Nat.not_lt.mpr hdeclared)
            rw [hlisten, BodyReader.reading_start.resolved_iff]
            exact (and_iff_right hdeclared).symm
          · have hlisten : (@BodyReader.listen ε maxBytes false (.bytes declared)).settled =
                some (BodyReader.tooLarge maxBytes) := by
              show (if maxBytes < declared then _ else _ : BodyReader ε).settled = _
              rw [if_pos (Nat.lt_of_not_le hdeclared)]
              rfl
            constructor
            · intro hresolved
              exact absurd hresolved (BodyReader.not_resolved_of_rejected hlisten)
            · rintro ⟨hwithin, -⟩
              exact absurd hwithin hdeclared

end SimulatorBroker.Service
