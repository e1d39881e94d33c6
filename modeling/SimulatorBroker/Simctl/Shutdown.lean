import SimulatorBroker.Effects.Loop
import SimulatorBroker.State.Processes
import SimulatorBroker.Text.Value

/-!
# Shutting a simulator down

`shutdownDevice` of the system adapter, its wait loop, and the callers that erase or delete the
simulator then.  A command is run through a runner that answers with the printed text, with a
result when failures are allowed, or throws.
-/

namespace SimulatorBroker.Simctl

open Effects State Text

def simctlCommandTimeoutMs : Nat := 120000

def simctlInventoryMaxBufferBytes : Nat := 32 * 1024 * 1024

/-! ## Commands -/

/-- The options of one command. -/
structure CommandOptions where
  allowFailure : Bool := false
  maxBuffer : Option Nat := none
  timeoutMs : Nat := simctlCommandTimeoutMs
  deriving DecidableEq, Repr

/-- What the runner answers: the text printed, or the result of a failure that was allowed. -/
inductive CommandReply where
  | text (stdout : String)
  | result (exitCode : Int) (stderr stdout : String) (timedOut : Bool) (timeoutMs : Nat)
  deriving DecidableEq, Repr

/-- What is thrown: the failure of a command, or the syntax error of `JSON.parse`. -/
inductive SimctlError where
  | command (message : String) (exitCode : Int) (stderr stdout : String) (timedOut : Bool)
      (timeoutMs : Nat)
  | syntaxError
  deriving DecidableEq, Repr

namespace SimctlError

def timedOut : SimctlError → Bool
  | .command _ _ _ _ timedOut _ => timedOut
  | .syntaxError => false

end SimctlError

namespace CommandReply

def timedOut : CommandReply → Bool
  | .text _ => false
  | .result _ _ _ timedOut _ => timedOut

/-- The two streams of a result, on lines of their own. -/
def output : CommandReply → String
  | .text _ => "\n"
  | .result _ stderr stdout _ _ => stderr ++ "\n" ++ stdout

end CommandReply

/-! ## Texts of a result -/

/-- The text after a word, which is matched in either case. -/
def afterWord : List Char → List Char → Option (List Char)
  | [], text => some text
  | _ :: _, [] => none
  | letter :: word, character :: text =>
      if character.toLower == letter then afterWord word text else none

/-- The first word, white space, and the second word, somewhere in the text. -/
def mentions (first second : String) (needsSpace : Bool) (text : String) : Bool :=
  text.toList.tails.any fun rest =>
    match afterWord first.toList rest with
    | none => false
    | some after =>
        (!needsSpace || (after.head?.map isWhiteSpace).getD false) &&
          (afterWord second.toList (after.dropWhile isWhiteSpace)).isSome

def isAlreadyShutdownResult (result : CommandReply) : Bool :=
  mentions "current state:" "shutdown" false result.output ||
    mentions "already" "shutdown" true result.output

def isShuttingDownResult (result : CommandReply) : Bool :=
  mentions "current state:" "shutting down" false result.output

def commandResultFailed : CommandReply → Bool
  | .text _ => false
  | .result exitCode _ _ _ _ => exitCode != 0

/-! ## Inventories -/

def units (text : String) : Units :=
  text.toList.flatMap charUnits

/-- `value?.name`, of an own property. -/
def property (name : String) : Value → Option Value
  | .object members => (members.find? (·.1 == units name)).map (·.2)
  | _ => none

/-- `Object.values(value)`; the characters of a string are no arrays. -/
def objectValues : Value → List Value
  | .object members => members.map (·.2)
  | .array elements => elements
  | _ => []

/-- `candidate?.udid === simulatorId`. -/
def hasUdid (simulatorId : String) (candidate : Value) : Bool :=
  match property "udid" candidate with
  | some (.string content) => content == units simulatorId
  | _ => false

/-- The record of the simulator in one group; a group that is no array is passed over. -/
def deviceInGroup (simulatorId : String) : Value → Option Value
  | .array devices => devices.find? (hasUdid simulatorId)
  | _ => none

/-- The first record of the simulator. -/
def listedDevice (devicesJson : Value) (simulatorId : String) : Option Value :=
  (objectValues ((property "devices" devicesJson).getD .null)).findSome?
    (deviceInGroup simulatorId)

/-- `value ?? fallback`. -/
def orElse (fallback : Value) : Option Value → Value
  | none => fallback
  | some .null => fallback
  | some value => value

/-- A record without a state counts as one in state `Shutdown`. -/
def deviceStateFromInventory (devicesJson : Value) (simulatorId : String) : Option Value :=
  (listedDevice devicesJson simulatorId).map fun device =>
    orElse (.string (units "Shutdown")) (property "state" device)

/-- `state === text`. -/
def isState (text : String) : Option Value → Bool
  | some (.string content) => content == units text
  | _ => false

/-! ## The adapter -/

/-- What the adapter asks of its surroundings. -/
inductive SimctlOp where
  | now
  | sleep (milliseconds : Nat)
  | runCommand (args : List String) (options : CommandOptions)

def simctlSignature : Signature where
  Op := SimctlOp
  Ret
    | .now => Nat
    | .sleep _ => Unit
    | .runCommand _ _ => CommandReply

abbrev Adapter (α : Type) : Type := Program simctlSignature SimctlError α

def now : Adapter Nat := Program.request (σ := simctlSignature) .now

def sleep (milliseconds : Nat) : Adapter Unit :=
  Program.request (σ := simctlSignature) (.sleep milliseconds)

def runCommand (args : List String) (options : CommandOptions) : Adapter CommandReply :=
  Program.request (σ := simctlSignature) (.runCommand args options)

/-- Of a text nothing is thrown: it is no failure. -/
def throwSimctlResult {α : Type} (args : List String) : CommandReply → Adapter α
  | .text _ => throw .syntaxError
  | .result exitCode stderr stdout timedOut timeoutMs =>
      let command := "simctl " ++ " ".intercalate args
      let message :=
        if timedOut then command ++ " timed out after " ++ toString timeoutMs ++ "ms"
        else command ++ " failed"
      throw (.command message exitCode stderr stdout timedOut timeoutMs)

def throwWaitTimeout {α : Type} (simulatorId : String) : Adapter α :=
  throw (.command ("simctl shutdown " ++ simulatorId ++ " timed out after "
    ++ toString simctlCommandTimeoutMs ++ "ms") 124 "" "" true simctlCommandTimeoutMs)

/-- `JSON.parse` of a reply; a result that is no text is no JSON either. -/
def parseReply : CommandReply → Adapter Value
  | .text stdout =>
      match parse stdout.toList with
      | some value => pure value
      | none => throw .syntaxError
  | .result _ _ _ _ _ => throw .syntaxError

/-- A timeout of a nested command is the timeout of the wait. -/
def waiting {α : Type} (simulatorId : String) (body : Adapter α) : Adapter α :=
  tryCatch body fun error =>
    if error.timedOut then throwWaitTimeout simulatorId else throw error

def remainingMs (deadline : Nat) : Adapter Nat := do
  let time ← now
  pure (deadline - time)

/-- How a part of a round ends: the wait returns, it breaks out of the loop, or it goes on. -/
inductive WaitEnd where
  | returned
  | broken
  | goesOn
  deriving DecidableEq, Repr

/-- One inventory. -/
def listState (simulatorId : String) (listTimeoutMs : Nat) : Adapter (Option Value) := do
  let listed ← waiting simulatorId do
    let reply ← runCommand ["list", "--json", "devices"] {
      maxBuffer := some simctlInventoryMaxBufferBytes, timeoutMs := listTimeoutMs }
    parseReply reply
  pure (deviceStateFromInventory listed simulatorId)

/-- The one retry of the command. -/
def retryShutdown (simulatorId : String) (deadline : Nat) : Adapter WaitEnd := do
  let retryTimeoutMs ← remainingMs deadline
  if retryTimeoutMs = 0 then pure .broken
  else
    let retry ← waiting simulatorId
      (runCommand ["shutdown", simulatorId] { allowFailure := true, timeoutMs := retryTimeoutMs })
    if retry.timedOut then throwWaitTimeout simulatorId
    else if !commandResultFailed retry || isAlreadyShutdownResult retry then pure .returned
    else if !isShuttingDownResult retry then throwSimctlResult ["shutdown", simulatorId] retry
    else pure .goesOn

/-- What the listed state calls for; the flag is set once the command has been retried. -/
def judgeState (simulatorId : String) (deadline : Nat) (retriedShutdown : Bool)
    (state : Option Value) : Adapter (Bool × WaitEnd) :=
  if isState "Shutdown" state then pure (retriedShutdown, .returned)
  else if isState "Shutting Down" state then pure (retriedShutdown, .goesOn)
  else if retriedShutdown then throwWaitTimeout simulatorId
  else do
    let ended ← retryShutdown simulatorId deadline
    pure (true, ended)

/-- The end of a round; the flag says that the wait has returned, not broken out. -/
def pauseRound (deadline : Nat) (retriedShutdown : Bool) : Adapter (Bool ⊕ Bool) := do
  let sleepMs ← remainingMs deadline
  if sleepMs = 0 then pure (.inr false)
  else
    sleep (min 250 sleepMs)
    pure (.inl retriedShutdown)

def afterJudgement (deadline : Nat) : Bool × WaitEnd → Adapter (Bool ⊕ Bool)
  | (_, .returned) => pure (.inr true)
  | (_, .broken) => pure (.inr false)
  | (retriedShutdown, .goesOn) => pauseRound deadline retriedShutdown

/-- One round of the `while` loop. -/
def waitRound (simulatorId : String) (deadline : Nat) (retriedShutdown : Bool) :
    Adapter (Bool ⊕ Bool) := do
  let time ← now
  if ¬ time < deadline then pure (.inr false)
  else
    let listTimeoutMs ← remainingMs deadline
    if listTimeoutMs = 0 then pure (.inr false)
    else
      let state ← listState simulatorId listTimeoutMs
      let judged ← judgeState simulatorId deadline retriedShutdown state
      afterJudgement deadline judged

/-- What follows the loop. -/
def finishWait (simulatorId : String) : Option Bool → Adapter (Option Unit)
  | none => pure none
  | some true => pure (some ())
  | some false => throwWaitTimeout simulatorId

/-- `waitForShutdown`, for so many rounds of its loop. -/
def waitForShutdown (rounds : Nat) (simulatorId : String) : Adapter (Option Unit) := do
  let started ← now
  let waited ← Program.rounds
    (waitRound simulatorId (started + simctlCommandTimeoutMs)) rounds false
  finishWait simulatorId waited

/-- `shutdownDevice`, with so many rounds for its wait. -/
def shutdownDevice (rounds : Nat) (simulatorId : String) : Adapter (Option Unit) := do
  let result ← runCommand ["shutdown", simulatorId] { allowFailure := true }
  if !commandResultFailed result || isAlreadyShutdownResult result then pure (some ())
  else if isShuttingDownResult result then waitForShutdown rounds simulatorId
  else throwSimctlResult ["shutdown", simulatorId] result

/-! ## Its callers -/

/-- The words stand somewhere in the text, in either case. -/
def contains (words text : String) : Bool :=
  text.toList.tails.any fun rest => (afterWord words.toList rest).isSome

def isAlreadyDeletedResult (result : CommandReply) : Bool :=
  contains "invalid device" result.output || contains "unable to find a device" result.output

def eraseDevice (simulatorId : String) : Adapter Unit := do
  let _ ← runCommand ["erase", simulatorId] {}
  pure ()

def deleteDevice (simulatorId : String) : Adapter Unit := do
  let result ← runCommand ["delete", simulatorId] { allowFailure := true }
  if commandResultFailed result && !isAlreadyDeletedResult result then
    throwSimctlResult ["delete", simulatorId] result
  else pure ()

/-- What a caller does with a simulator once its shutdown has returned. -/
def onceShutDown (rounds : Nat) (simulatorId : String) (removal : String → Adapter Unit) :
    Adapter (Option Unit) := do
  let returned ← shutdownDevice rounds simulatorId
  if returned.isSome then removal simulatorId
  pure returned

def deleteAliasSimulator (rounds : Nat) (simulatorId : String) : Adapter (Option Unit) :=
  onceShutDown rounds simulatorId deleteDevice

end SimulatorBroker.Simctl
