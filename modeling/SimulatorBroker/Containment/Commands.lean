import Mathlib.Algebra.GroupWithZero.Nat
import SimulatorBroker.State.Processes

/-!
# Executable names of commands

How `containment.mjs` compares the command that was registered for a lease with the
command line of a process.
-/

namespace SimulatorBroker.Containment

open State

abbrev Word : Type := List Char

/-! ## Shell words -/

structure ShellState where
  tokens : List Word := []
  current : Word := []
  quote : Option Char := none
  escaping : Bool := false
  deriving DecidableEq, Repr

namespace ShellState

def pushCurrent (state : ShellState) : ShellState :=
  if state.current.isEmpty then state
  else { state with tokens := state.tokens ++ [state.current], current := [] }

def add (state : ShellState) (character : Char) : ShellState :=
  { state with current := state.current ++ [character] }

def read (state : ShellState) (character : Char) : ShellState :=
  if state.escaping then { state.add character with escaping := false }
  else if character = '\\' ∧ state.quote ≠ some '\'' then { state with escaping := true }
  else match state.quote with
    | some quote => if character = quote then { state with quote := none } else state.add character
    | none =>
        if character = '\'' ∨ character = '"' then { state with quote := some character }
        else if isWhiteSpace character then state.pushCurrent
        else state.add character

def finish (state : ShellState) : List Word :=
  ((if state.escaping then state.add '\\' else state).pushCurrent).tokens

end ShellState

def splitShellWords (text : List Char) : List Word :=
  (text.foldl ShellState.read {}).finish

/-! ## Tokens -/

def dropWhileEnd (p : Char → Bool) (text : Word) : Word :=
  (text.reverse.dropWhile p).reverse

def isQuote (character : Char) : Bool :=
  character == '\'' || character == '"'

def normalizeCommandToken (token : Word) : Word :=
  dropWhileEnd (· == '\\') (dropWhileEnd isQuote ((trimChars token).dropWhile isQuote))

def normalizeCommandTokens (tokens : List Word) : List Word :=
  (tokens.map normalizeCommandToken).filter fun token => !token.isEmpty

def commandTokens : RegisteredCommand → List Word
  | .words words => normalizeCommandTokens (words.map String.toList)
  | .line text => normalizeCommandTokens (splitShellWords text.toList)

/-- `COMMAND_ASSIGNMENT_PATTERN`. -/
def isAssignment : Word → Bool
  | [] => false
  | first :: rest =>
      (first.isAlpha || first == '_') &&
        (rest.dropWhile fun character => character.isAlphanum || character == '_').head? == some '='

/-- `path.basename`. -/
def basename (path : Word) : Word :=
  ((dropWhileEnd (· == '/') path).reverse.takeWhile (· != '/')).reverse

/-- The base name without its leading dashes. -/
def executableOf (token : Word) : Word :=
  (basename token).dropWhile (· == '-')

/-- What `pushExecutable` adds. -/
def pushedExecutable (token : Word) : List Word :=
  if (executableOf token).isEmpty then [] else [executableOf token]

/-! ## Wrappers -/

/-- `COMMAND_WRAPPER_NAMES`. -/
def isCommandWrapper (name : Word) : Bool :=
  name == "env".toList || name == "exec".toList

/-- `ENV_WRAPPER_VALUE_OPTIONS`. -/
def isEnvValueOption (token : Word) : Bool :=
  ["-C", "--chdir", "-P", "-S", "--split-string", "-u", "--unset"].any (·.toList == token)

/-- The text that an option of `env` wants split, given the token after it. -/
def splitArgument (token : Word) (next : Option Word) : Option Word :=
  if token = "-S".toList ∨ token = "--split-string".toList then some (next.getD [])
  else if "-S".toList.isPrefixOf token then some (token.drop 2)
  else if "--split-string=".toList.isPrefixOf token then some (token.drop 15)
  else none

/-- `/^[acl]+$/`. -/
def isExecOptions (text : Word) : Bool :=
  !text.isEmpty && text.all fun character =>
    character == 'a' || character == 'c' || character == 'l'

/-- The loop over the tokens after a wrapper; `nested` names the executables of a command
inside it. -/
def wrappedExecutableNames (nested : List Word → List Word) (wrapper : Word) :
    List Word → List Word
  | [] => []
  | token :: rest =>
      let isOption := token.head? == some '-'
      if token = "--".toList ∨ isAssignment token then
        wrappedExecutableNames nested wrapper rest
      else if wrapper = "env".toList ∧ isOption then
        match splitArgument token rest.head? with
        | some argument => nested (normalizeCommandTokens (splitShellWords argument))
        | none =>
            match isEnvValueOption token, rest with
            | true, _ :: rest => wrappedExecutableNames nested wrapper rest
            | _, rest => wrappedExecutableNames nested wrapper rest
      else if wrapper = "exec".toList ∧ token = "-a".toList then
        match rest with
        | [] => []
        | name :: rest => pushedExecutable name ++ wrappedExecutableNames nested wrapper rest
      else if wrapper = "exec".toList ∧ "-a".toList.isPrefixOf token then
        pushedExecutable (token.drop 2) ++ wrappedExecutableNames nested wrapper rest
      else if wrapper = "exec".toList ∧ isOption ∧ isExecOptions (token.drop 1) then
        match (token.drop 1).contains 'a', rest with
        | true, [] => []
        | true, name :: rest => pushedExecutable name ++ wrappedExecutableNames nested wrapper rest
        | false, rest => wrappedExecutableNames nested wrapper rest
      else if isCommandWrapper (executableOf token) then
        nested (normalizeCommandTokens (token :: rest))
      else pushedExecutable token

/-- A command inside a wrapper is shorter than the whole, so the fuel lasts. -/
def executableNamesWithin : Nat → List Word → List Word
  | 0, _ => []
  | fuel + 1, tokens =>
      match tokens.dropWhile isAssignment with
      | [] => []
      | first :: rest =>
          if isCommandWrapper (executableOf first) then
            (pushedExecutable first ++
              wrappedExecutableNames (executableNamesWithin fuel) (executableOf first) rest).eraseDups
          else pushedExecutable first

def commandExecutableNames (command : Option RegisteredCommand) : List Word :=
  match command with
  | none => []
  | some command =>
      let tokens := commandTokens command
      executableNamesWithin ((tokens.map fun token => token.length + 1).sum + 1) tokens

def commandExecutableName (command : Option RegisteredCommand) : Option Word :=
  (commandExecutableNames command).head?

example : commandExecutableNames (some (.line "A=1 env -u B nice 'x y'")) =
    ["env".toList, "nice".toList] := by decide +kernel

/-- Every word of the command line may be the end of the executable's path. -/
def processExecutableCandidates (command : String) : List Word :=
  let text := trimChars command.toList
  if text.isEmpty then []
  else
    let prefixes := (List.range text.length).filterMap fun index =>
      if (text[index]?.map isWhiteSpace).getD false then some (trimEnd (text.take index)) else none
    (commandExecutableNames (some (.line command)) ++
      ((prefixes.filter fun start => !start.isEmpty).flatMap pushedExecutable)).eraseDups

/-! ## Shells -/

/-- `SHELL_PROCESS_NAMES`. -/
def shellProcessNames : List String :=
  ["bash", "dash", "fish", "ksh", "sh", "zsh"]

def looksLikeShellProcess (command : String) : Bool :=
  let firstWord := (trimChars command.toList).takeWhile fun character => !isWhiteSpace character
  shellProcessNames.any (·.toList == executableOf firstWord)

example : looksLikeShellProcess "/bin/zsh -l" = true := by decide

end SimulatorBroker.Containment
