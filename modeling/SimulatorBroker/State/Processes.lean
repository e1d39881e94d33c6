import Mathlib.Data.List.Infix
import SimulatorBroker.State.Records

/-!
# The process table

How `containment.mjs` reads a `ps` sample: the `etime` column, defunct records,
the sampler's own `ps` process, and whether the record under a lease's owner pid
is still the process that took the lease.
-/

namespace SimulatorBroker.State

/-! ## Text -/

/-- `/\s/`, the characters that `String.prototype.trim` removes. -/
def isWhiteSpace (char : Char) : Bool :=
  let code := char.toNat
  decide (0x09 ≤ code ∧ code ≤ 0x0D) || code == 0x20 || code == 0xA0 || code == 0x1680
    || decide (0x2000 ≤ code ∧ code ≤ 0x200A) || code == 0x2028 || code == 0x2029
    || code == 0x202F || code == 0x205F || code == 0x3000 || code == 0xFEFF

/-- `String.prototype.trimEnd`. -/
def trimEnd (text : List Char) : List Char :=
  (text.reverse.dropWhile isWhiteSpace).reverse

/-- `String.prototype.trim`. -/
def trimChars (text : List Char) : List Char :=
  trimEnd (text.dropWhile isWhiteSpace)

def trimString (text : String) : String :=
  String.ofList (trimChars text.toList)

/-- `normalizeStringArray(value)`. -/
def normalizeStringArray (values : List String) : List String :=
  (values.map trimString).filter fun value => value ≠ ""

/-- `normalizeRegisteredCommand(value)`. -/
def normalizeRegisteredCommand (command : Option RegisteredCommand) : Option RegisteredCommand :=
  match command with
  | none => none
  | some (.words words) =>
      if normalizeStringArray words = [] then none else some (.words (normalizeStringArray words))
  | some (.line text) => if trimString text = "" then none else some (.line (trimString text))

/-- `text.includes(part)`. -/
def includesText (text part : String) : Bool :=
  decide (part.toList <:+: text.toList)

/-- `/^\d+$/`. -/
def isDigits (text : List Char) : Bool :=
  !text.isEmpty && text.all Char.isDigit

/-- The value of a digit string. -/
def digitsValue (text : List Char) : Nat :=
  text.foldl (fun value digit => 10 * value + (digit.toNat - '0'.toNat)) 0

/-! ## The `etime` column -/

/-- The `[dd-]hh:mm:ss` text without its days, in seconds. -/
def clockSeconds : List Nat → Option Nat
  | [hours, minutes, seconds] => some ((hours * 60 + minutes) * 60 + seconds)
  | [minutes, seconds] => some (minutes * 60 + seconds)
  | [seconds] => some seconds
  | _ => none

def timeOfDaySeconds (text : List Char) : Option Nat :=
  let parts := text.splitOn ':'
  if parts.all isDigits then clockSeconds (parts.map digitsValue) else none

def parseElapsedMilliseconds (elapsed : Option String) : Option Nat :=
  let rawValue := trimChars (elapsed.getD "").toList
  if rawValue.isEmpty then none
  else if '-' ∈ rawValue then
    match (rawValue.splitOn '-').take 2 with
    | [dayPortion, trailing] =>
        if isDigits dayPortion then
          (timeOfDaySeconds trailing).map fun seconds =>
            (digitsValue dayPortion * 86400 + seconds) * 1000
        else none
    | _ => none
  else (timeOfDaySeconds rawValue).map fun seconds => seconds * 1000

example : parseElapsedMilliseconds (some " 1-02:03:04") = some 93784000 := by decide

/-! ## Records of a sample -/

def processLooksDefunct (record : ProcessRecord) : Bool :=
  ((trimChars (record.stat.getD "").toList).head?.map Char.toUpper == some 'Z')
    || includesText record.command "<defunct>"

private def literal (text : String) (rest : List Char) : Option (List Char) :=
  if text.toList.isPrefixOf rest then some (rest.drop text.length) else none

private def blanks : List Char → Option (List Char)
  | [] => none
  | char :: rest => if isWhiteSpace char then some (rest.dropWhile isWhiteSpace) else none

/-- The two patterns of `PROCESS_SAMPLER_COMMAND_PATTERNS` from their `ps` on. -/
def startsWithSampler (text : List Char) : Bool :=
  let columns := "pid=,ppid=,pgid=,rss=,vsz=,etime=,stat=,command="
  ((literal "ps" text >>= blanks >>= literal "-axo" >>= blanks >>= literal columns).isSome)
    || ((literal "ps" text >>= blanks >>= literal "-axww" >>= blanks >>= literal "-o" >>= blanks
      >>= literal columns).isSome)

/-- A sampler pattern matches at the start, after a blank or after a slash. -/
def matchesSampler (text : List Char) : Bool :=
  startsWithSampler text || text.tails.any fun
    | char :: rest => (isWhiteSpace char || char == '/') && startsWithSampler rest
    | [] => false

def isProcessSamplerCommand (command : String) : Bool :=
  matchesSampler (trimChars command.toList)

example : isProcessSamplerCommand
    "/bin/ps -axo pid=,ppid=,pgid=,rss=,vsz=,etime=,stat=,command=" = true := by decide

/-- A sample without the sampler's own records. -/
def normalizeProcessTable (records : List ProcessRecord) : List ProcessRecord :=
  records.filter fun record => decide (0 < record.pid) && !isProcessSamplerCommand record.command

/-- `byPid.get(pid)`; a later record of the same pid replaces an earlier one. -/
def recordOfPid (processes : List ProcessRecord) (pid : Pid) : Option ProcessRecord :=
  processes.reverse.find? fun record => record.pid = pid

/-! ## The owner of a lease -/

/-- `COMMAND_PID_IDENTITY_TOLERANCE_MS`. -/
def commandPidIdentityToleranceMs : Nat := 15000

def processLifetimeMatchesTimestamp (record : ProcessRecord) (startedAt observedAt : Timestamp) :
    Bool :=
  match parseElapsedMilliseconds record.elapsed with
  | none => false
  | some elapsedMilliseconds =>
      decide (startedAt ≤ observedAt) &&
        decide (observedAt - startedAt ≤ elapsedMilliseconds + commandPidIdentityToleranceMs)

/-- `normalizePositiveInteger(value)`. -/
def positive? (value : Option Nat) : Option Nat :=
  value.filter fun number => decide (0 < number)

/-- `runtime.ownerPid` of `buildLeaseRuntimeMetadata(lease)`. -/
def Lease.runtimeOwnerPid (lease : Lease) : Option Pid :=
  positive? (some (lease.runtime.ownerPid.getD lease.ownerPid))

/-- `runtime.ownerRegisteredAt ?? lease.startedAt`. -/
def Lease.ownerSince (lease : Lease) : Timestamp :=
  lease.runtime.ownerRegisteredAt.getD lease.startedAt

def ownerPidMatchesLease (record : ProcessRecord) (lease : Lease) (observedAt : Timestamp) : Bool :=
  if processLooksDefunct record then false
  else
    match positive? lease.runtime.ownerPgid with
    | some registeredOwnerPgid =>
        record.pgid == some registeredOwnerPgid &&
          processLifetimeMatchesTimestamp record lease.ownerSince observedAt
    | none => processLifetimeMatchesTimestamp record lease.ownerSince observedAt

/-- `validatedOwnerPid !== null` in `discoverLeaseOwnedProcesses`: the pid is
owned for the reason `owner-pid` exactly then. -/
def ownerPidValidated (lease : Lease) (records : List ProcessRecord) (observedAt : Timestamp) :
    Bool :=
  match lease.runtimeOwnerPid with
  | none => false
  | some ownerPid =>
      match recordOfPid (normalizeProcessTable records) ownerPid with
      | none => false
      | some record => ownerPidMatchesLease record lease observedAt

/-- `leaseHasContainmentProcessMetadata(lease)`. -/
def Lease.hasContainmentProcessMetadata (lease : Lease) : Bool :=
  (positive? lease.runtime.commandPid).isSome
    || (positive? lease.runtime.commandPgid).isSome
    || (positive? lease.runtime.memoryCeilingBytes).isSome
    || (positive? lease.runtime.ownerPgid).isSome
    || !(normalizeStringArray lease.runtime.simulatorProcessNames).isEmpty

/-! ## A living owner -/

/-- The record shows the owner that took the lease, alive at `clock`: it is not
defunct, it keeps the registered process group, and its elapsed time puts its
start no later than the registration, up to the tolerance of the broker. -/
structure ProcessRecord.ShowsOwner (record : ProcessRecord) (lease : Lease) (clock : Timestamp) :
    Prop where
  notDefunct : processLooksDefunct record = false
  pgid : ∀ registered, positive? lease.runtime.ownerPgid = some registered →
    record.pgid = some registered
  notSampler : isProcessSamplerCommand record.command = false
  lifetime : ∃ elapsed, parseElapsedMilliseconds record.elapsed = some elapsed ∧
    clock ≤ lease.ownerSince + elapsed + commandPidIdentityToleranceMs

/-- A sample shows the owner of a lease alive: its pid is there, and whatever is
there under its pid is that owner. -/
structure OwnerSampled (lease : Lease) (clock : Timestamp) (records : List ProcessRecord) :
    Prop where
  positive : 0 < lease.runtime.ownerPid.getD lease.ownerPid
  present : ∃ record ∈ records, record.pid = lease.runtime.ownerPid.getD lease.ownerPid
  shows : ∀ record ∈ records, record.pid = lease.runtime.ownerPid.getD lease.ownerPid →
    record.ShowsOwner lease clock

/-- The identity check accepts an owner that lives at the time of the sample,
unless it observes from before the owner registered. -/
theorem OwnerSampled.ownerPidValidated {lease : Lease} {clock observedAt : Timestamp}
    {records : List ProcessRecord} (hsampled : OwnerSampled lease clock records)
    (hobserved : observedAt ≤ clock) (hsince : lease.ownerSince ≤ observedAt) :
    ownerPidValidated lease records observedAt = true := by
  have hpid : lease.runtimeOwnerPid = some (lease.runtime.ownerPid.getD lease.ownerPid) := by
    simp [Lease.runtimeOwnerPid, positive?, hsampled.positive]
  obtain ⟨shown, hshown, hshownPid⟩ := hsampled.present
  have hkept : ∀ record ∈ records,
      record.pid = lease.runtime.ownerPid.getD lease.ownerPid →
      record ∈ normalizeProcessTable records := by
    intro record hrecord hrecordPid
    have hpos := hsampled.positive
    simp [normalizeProcessTable, hrecord, hrecordPid, hpos,
      (hsampled.shows record hrecord hrecordPid).notSampler]
  cases hfind : recordOfPid (normalizeProcessTable records)
      (lease.runtime.ownerPid.getD lease.ownerPid) with
  | none =>
      have habsent := List.find?_eq_none.mp hfind shown
        (List.mem_reverse.mpr (hkept shown hshown hshownPid))
      simp [hshownPid] at habsent
  | some record =>
      have hmem : record ∈ normalizeProcessTable records :=
        List.mem_reverse.mp (List.mem_of_find?_eq_some hfind)
      have hrecordPid : record.pid = lease.runtime.ownerPid.getD lease.ownerPid := by
        simpa using List.find?_some hfind
      have hshows := hsampled.shows record (List.mem_of_mem_filter hmem) hrecordPid
      obtain ⟨elapsed, helapsed, hlifetime⟩ := hshows.lifetime
      have hmatch : processLifetimeMatchesTimestamp record lease.ownerSince observedAt = true := by
        have hspan : observedAt - lease.ownerSince ≤ elapsed + commandPidIdentityToleranceMs :=
          Nat.sub_le_iff_le_add'.mpr (by
            rw [← Nat.add_assoc]
            exact hobserved.trans hlifetime)
        simp [processLifetimeMatchesTimestamp, helapsed, hsince, hspan]
      unfold State.ownerPidValidated
      rw [hpid]
      simp only [hfind, ownerPidMatchesLease, hshows.notDefunct]
      cases hpgid : positive? lease.runtime.ownerPgid with
      | none => simp [hmatch]
      | some registered => simp [hshows.pgid registered hpgid, hmatch]

end SimulatorBroker.State
