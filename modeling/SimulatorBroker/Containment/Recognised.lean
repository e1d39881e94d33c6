import Mathlib.Data.List.TakeWhile
import SimulatorBroker.Containment.Verdict

/-!
# A registered command is recognised

Which words a process that runs a registered command may show first: the command's own name, or
after `env` and `exec` what is left of it.  Containment takes a live process that shows such a word
for the registered command, so the command and whatever it started are owned.
-/

namespace SimulatorBroker.Containment

open State

/-! ## What a command shows -/

/-- A word after a wrapper that starts no command, with the value it takes. -/
inductive Consumes : Word → List Word → Prop where
  | dashes {wrapper : Word} : Consumes wrapper ["--".toList]
  | assignment {wrapper word : Word} (assigns : isAssignment word = true) :
      Consumes wrapper [word]
  | envOption {word : Word} (dashes : word ≠ "--".toList) (option : word.head? = some '-')
      (whole : splitArgument word none = none) (alone : isEnvValueOption word = false) :
      Consumes "env".toList [word]
  | envValue {word value : Word} (dashes : word ≠ "--".toList) (option : word.head? = some '-')
      (whole : splitArgument word none = none) (takes : isEnvValueOption word = true) :
      Consumes "env".toList [word, value]
  | execFlags {word : Word} (dashes : word ≠ "--".toList) (option : word.head? = some '-')
      (unjoined : "-a".toList.isPrefixOf word = false)
      (flags : isExecOptions (word.drop 1) = true) (unnamed : (word.drop 1).contains 'a' = false) :
      Consumes "exec".toList [word]

/-- An option of `exec` that gives the program a name. -/
inductive Renames : List Word → Word → Prop where
  | next {name : Word} : Renames ["-a".toList, name] name
  | joined {word : Word} (joined : "-a".toList.isPrefixOf word = true) (longer : word ≠ "-a".toList) :
      Renames [word] (word.drop 2)
  | flags {word name : Word} (dashes : word ≠ "--".toList) (option : word.head? = some '-')
      (unjoined : "-a".toList.isPrefixOf word = false)
      (flags : isExecOptions (word.drop 1) = true) (named : (word.drop 1).contains 'a' = true) :
      Renames [word, name] name

/-- The first word of a process that the tokens start, at the start of a command or after the name
of a wrapper. -/
inductive Shows : Option Word → List Word → Word → Prop where
  | program {shown : Word} {rest : List Word} (plain : isAssignment shown = false) :
      Shows none (shown :: rest) shown
  | assignment {word shown : Word} {rest : List Word} (assigns : isAssignment word = true)
      (inner : Shows none rest shown) : Shows none (word :: rest) shown
  | wrapper {name shown : Word} {rest : List Word} (plain : isAssignment name = false)
      (wraps : isCommandWrapper (executableOf name) = true)
      (inner : Shows (some (executableOf name)) rest shown) : Shows none (name :: rest) shown
  | consumed {wrapper shown : Word} {words rest : List Word} (consumes : Consumes wrapper words)
      (inner : Shows (some wrapper) rest shown) : Shows (some wrapper) (words ++ rest) shown
  | renamed {shown : Word} {words rest : List Word} (renames : Renames words shown) :
      Shows (some "exec".toList) (words ++ rest) shown
  | unrenamed {name shown : Word} {words rest : List Word} (renames : Renames words name)
      (inner : Shows (some "exec".toList) rest shown) :
      Shows (some "exec".toList) (words ++ rest) shown
  | split {word argument shown : Word} {rest : List Word} (dashes : word ≠ "--".toList)
      (option : word.head? = some '-')
      (splits : splitArgument word rest.head? = some argument)
      (inner : Shows none (normalizeCommandTokens (splitShellWords argument)) shown) :
      Shows (some "env".toList) (word :: rest) shown
  | command {wrapper shown : Word} {rest : List Word} (plain : isAssignment shown = false)
      (program : shown.head? ≠ some '-') (unwrapped : isCommandWrapper (executableOf shown) = false) :
      Shows (some wrapper) (shown :: rest) shown
  | nested {wrapper name shown : Word} {rest : List Word} (plain : isAssignment name = false)
      (program : name.head? ≠ some '-') (wraps : isCommandWrapper (executableOf name) = true)
      (inner : Shows none (normalizeCommandTokens (name :: rest)) shown) :
      Shows (some wrapper) (name :: rest) shown

/-! ## After a wrapper -/

theorem isAssignment_option {word : Word} (hoption : word.head? = some '-') :
    isAssignment word = false := by
  cases word with
  | nil => rfl
  | cons first rest =>
      cases hoption
      rfl

theorem splitArgument_eq_none {word : Word} {next : Option Word} :
    splitArgument word next = none ↔ splitArgument word none = none := by
  unfold splitArgument
  by_cases hnext : word = "-S".toList ∨ word = "--split-string".toList
  · rw [if_pos hnext, if_pos hnext]
    exact iff_of_false nofun nofun
  · rw [if_neg hnext, if_neg hnext]

theorem mem_pushedExecutable {shown : Word} (hname : executableOf shown ≠ []) :
    executableOf shown ∈ pushedExecutable shown := by
  simp [pushedExecutable, hname]

variable {inside : List Word → List Word} {wrapper word value : Word} {words rest : List Word}
  {name : Word}

theorem wrapped_skipped (hskips : word = "--".toList ∨ isAssignment word = true) :
    wrappedExecutableNames inside wrapper (word :: rest) =
      wrappedExecutableNames inside wrapper rest := by
  delta wrappedExecutableNames wrappedExecutableNames._f
  dsimp only
  rw [if_pos hskips]

section Options

variable (hdashes : word ≠ "--".toList) (hoption : word.head? = some '-')

include hdashes hoption

theorem not_skipped : ¬ (word = "--".toList ∨ isAssignment word = true) := by
  rintro (heq | hassigns)
  · exact hdashes heq
  · rw [isAssignment_option hoption] at hassigns
    cases hassigns

theorem wrapped_split {argument : Word}
    (hsplits : splitArgument word rest.head? = some argument) :
    wrappedExecutableNames inside "env".toList (word :: rest) =
      inside (normalizeCommandTokens (splitShellWords argument)) := by
  have hskips := not_skipped hdashes hoption
  delta wrappedExecutableNames wrappedExecutableNames._f
  dsimp only
  rw [if_neg hskips, if_pos ⟨rfl, beq_iff_eq.mpr hoption⟩, hsplits]

theorem wrapped_envOption (hwhole : splitArgument word none = none)
    (halone : isEnvValueOption word = false) :
    wrappedExecutableNames inside "env".toList (word :: rest) =
      wrappedExecutableNames inside "env".toList rest := by
  have hskips := not_skipped hdashes hoption
  delta wrappedExecutableNames wrappedExecutableNames._f
  dsimp only
  rw [if_neg hskips, if_pos ⟨rfl, beq_iff_eq.mpr hoption⟩, splitArgument_eq_none.mpr hwhole, halone]

theorem wrapped_envValue (hwhole : splitArgument word none = none)
    (htakes : isEnvValueOption word = true) :
    wrappedExecutableNames inside "env".toList (word :: value :: rest) =
      wrappedExecutableNames inside "env".toList rest := by
  have hskips := not_skipped hdashes hoption
  delta wrappedExecutableNames wrappedExecutableNames._f
  dsimp only
  rw [if_neg hskips, if_pos ⟨rfl, beq_iff_eq.mpr hoption⟩, splitArgument_eq_none.mpr hwhole, htakes]

theorem wrapped_execJoined (hjoined : "-a".toList.isPrefixOf word = true)
    (hlonger : word ≠ "-a".toList) :
    wrappedExecutableNames inside "exec".toList (word :: rest) =
      pushedExecutable (word.drop 2) ++ wrappedExecutableNames inside "exec".toList rest := by
  have hskips := not_skipped hdashes hoption
  delta wrappedExecutableNames wrappedExecutableNames._f
  dsimp only
  rw [if_neg hskips, if_neg (by rintro ⟨⟨⟩, -⟩), if_neg (by rintro ⟨-, heq⟩; exact hlonger heq),
    if_pos ⟨rfl, hjoined⟩]

theorem wrapped_execFlags (hunjoined : "-a".toList.isPrefixOf word = false)
    (hflags : isExecOptions (word.drop 1) = true) (hunnamed : (word.drop 1).contains 'a' = false) :
    wrappedExecutableNames inside "exec".toList (word :: rest) =
      wrappedExecutableNames inside "exec".toList rest := by
  have hskips := not_skipped hdashes hoption
  delta wrappedExecutableNames wrappedExecutableNames._f
  dsimp only
  rw [if_neg hskips, if_neg (by rintro ⟨⟨⟩, -⟩), if_neg (by rintro ⟨-, rfl⟩; cases hunjoined),
    if_neg (by rintro ⟨-, heq⟩; rw [hunjoined] at heq; cases heq),
    if_pos ⟨rfl, beq_iff_eq.mpr hoption, hflags⟩, hunnamed]

theorem wrapped_execNamed (hunjoined : "-a".toList.isPrefixOf word = false)
    (hflags : isExecOptions (word.drop 1) = true) (hnamed : (word.drop 1).contains 'a' = true) :
    wrappedExecutableNames inside "exec".toList (word :: value :: rest) =
      pushedExecutable value ++ wrappedExecutableNames inside "exec".toList rest := by
  have hskips := not_skipped hdashes hoption
  delta wrappedExecutableNames wrappedExecutableNames._f
  dsimp only
  rw [if_neg hskips, if_neg (by rintro ⟨⟨⟩, -⟩), if_neg (by rintro ⟨-, rfl⟩; cases hunjoined),
    if_neg (by rintro ⟨-, heq⟩; rw [hunjoined] at heq; cases heq),
    if_pos ⟨rfl, beq_iff_eq.mpr hoption, hflags⟩, hnamed]

end Options

theorem wrapped_execName :
    wrappedExecutableNames inside "exec".toList ("-a".toList :: value :: rest) =
      pushedExecutable value ++ wrappedExecutableNames inside "exec".toList rest := by
  delta wrappedExecutableNames wrappedExecutableNames._f
  dsimp only
  rw [if_neg (by decide), if_neg (by rintro ⟨⟨⟩, -⟩), if_pos ⟨rfl, rfl⟩]

/-- A word that is no option and no assignment is a command. -/
theorem wrapped_program (hplain : isAssignment word = false) (hprogram : word.head? ≠ some '-') :
    wrappedExecutableNames inside wrapper (word :: rest) =
      if isCommandWrapper (executableOf word) then inside (normalizeCommandTokens (word :: rest))
      else pushedExecutable word := by
  have hdash : ¬ (word.head? == some '-') = true := fun heq => hprogram (beq_iff_eq.mp heq)
  have hskips : ¬ (word = "--".toList ∨ isAssignment word = true) := by
    rintro (rfl | hassigns)
    · exact hprogram rfl
    · rw [hplain] at hassigns
      cases hassigns
  have hname : word ≠ "-a".toList := by
    rintro rfl
    exact hprogram rfl
  have hjoined : ¬ "-a".toList.isPrefixOf word = true := by
    intro heq
    obtain ⟨rest, rfl⟩ := List.isPrefixOf_iff_prefix.mp heq
    exact hprogram rfl
  delta wrappedExecutableNames wrappedExecutableNames._f
  dsimp only
  rw [if_neg hskips, if_neg fun heq => hdash heq.2, if_neg fun heq => hname heq.2,
    if_neg fun heq => hjoined heq.2, if_neg fun heq => hdash heq.2.1]

theorem mem_wrapped_consumed (hconsumes : Consumes wrapper words)
    (hname : name ∈ wrappedExecutableNames inside wrapper rest) :
    name ∈ wrappedExecutableNames inside wrapper (words ++ rest) := by
  cases hconsumes with
  | dashes =>
      rw [List.cons_append, wrapped_skipped (Or.inl rfl)]
      exact hname
  | assignment assigns =>
      rw [List.cons_append, wrapped_skipped (Or.inr assigns)]
      exact hname
  | envOption dashes option whole alone =>
      rw [List.cons_append, wrapped_envOption dashes option whole alone]
      exact hname
  | envValue dashes option whole takes =>
      rw [List.cons_append, List.cons_append, wrapped_envValue dashes option whole takes]
      exact hname
  | execFlags dashes option unjoined flags unnamed =>
      rw [List.cons_append, wrapped_execFlags dashes option unjoined flags unnamed]
      exact hname

theorem wrapped_renamed (hrenames : Renames words name) :
    wrappedExecutableNames inside "exec".toList (words ++ rest) =
      pushedExecutable name ++ wrappedExecutableNames inside "exec".toList rest := by
  cases hrenames with
  | next => exact wrapped_execName
  | joined joined longer =>
      obtain ⟨tail, rfl⟩ := List.isPrefixOf_iff_prefix.mp joined
      exact wrapped_execJoined nofun rfl joined longer
  | flags dashes option unjoined flags named =>
      exact wrapped_execNamed dashes option unjoined flags named

/-! ## The fuel lasts -/

/-- The length of a command line, the blanks between its tokens included. -/
def weight (tokens : List Word) : Nat :=
  (tokens.map fun token => token.length + 1).sum

@[simp]
theorem weight_cons (token : Word) (tokens : List Word) :
    weight (token :: tokens) = token.length + 1 + weight tokens := by
  simp [weight]

@[simp]
theorem weight_append (left right : List Word) :
    weight (left ++ right) = weight left + weight right := by
  simp [weight]

theorem dropWhileEnd_length_le (p : Char → Bool) (text : Word) :
    (dropWhileEnd p text).length ≤ text.length := by
  unfold dropWhileEnd
  rw [List.length_reverse]
  exact (List.dropWhile_suffix p).length_le.trans_eq List.length_reverse

theorem normalizeCommandToken_length_le (token : Word) :
    (normalizeCommandToken token).length ≤ token.length :=
  calc (normalizeCommandToken token).length
      ≤ ((trimChars token).dropWhile isQuote).length :=
        (dropWhileEnd_length_le _ _).trans (dropWhileEnd_length_le _ _)
    _ ≤ (trimChars token).length := (List.dropWhile_suffix _).length_le
    _ ≤ (token.dropWhile isWhiteSpace).length := dropWhileEnd_length_le isWhiteSpace _
    _ ≤ token.length := (List.dropWhile_suffix _).length_le

theorem weight_normalizeCommandTokens_le (tokens : List Word) :
    weight (normalizeCommandTokens tokens) ≤ weight tokens := by
  induction tokens with
  | nil => exact Nat.le_refl _
  | cons token tokens ih =>
      have hlength := normalizeCommandToken_length_le token
      unfold normalizeCommandTokens at ih ⊢
      rw [List.map_cons, List.filter_cons]
      split
      · rw [weight_cons, weight_cons]
        omega
      · rw [weight_cons]
        omega

namespace ShellState

/-- The characters that the state holds. -/
def weight (state : ShellState) : Nat :=
  Containment.weight state.tokens + state.current.length + state.escaping.toNat

theorem weight_pushCurrent_le (state : ShellState) :
    state.pushCurrent.weight ≤ state.weight + 1 := by
  unfold pushCurrent weight
  split
  · omega
  · simp [Containment.weight]
    omega

theorem weight_add (state : ShellState) (character : Char) :
    (state.add character).weight = state.weight + 1 := by
  simp [add, weight]
  omega

theorem weight_read_le (state : ShellState) (character : Char) :
    (state.read character).weight ≤ state.weight + 1 := by
  have hadd := weight_add state character
  unfold read
  split
  · rename_i hescaping
    simp only [weight, add, hescaping] at hadd ⊢
    simp at hadd ⊢
    omega
  · split
    · simp [weight]
    · split
      · split
        · simp [weight]
        · omega
      · split
        · simp [weight]
        · split
          · exact weight_pushCurrent_le state
          · omega

theorem weight_foldl_le (text : List Char) (state : ShellState) :
    (text.foldl read state).weight ≤ state.weight + text.length := by
  induction text generalizing state with
  | nil => exact Nat.le_refl _
  | cons character text ih =>
      have hread := weight_read_le state character
      have hrest := ih (state.read character)
      simp only [List.foldl_cons, List.length_cons]
      omega

theorem weight_finish_le (state : ShellState) :
    Containment.weight state.finish ≤ state.weight + 1 := by
  have hpush : ∀ state : ShellState, Containment.weight state.pushCurrent.tokens ≤
      Containment.weight state.tokens + state.current.length + 1 := by
    intro state
    unfold pushCurrent
    split
    · omega
    · simp [Containment.weight]
      omega
  unfold finish
  split
  · rename_i hescaping
    have hlast := hpush (state.add '\\')
    have hcurrent : (state.add '\\').current.length = state.current.length + 1 := by simp [add]
    have htokens : (state.add '\\').tokens = state.tokens := rfl
    rw [hcurrent, htokens] at hlast
    simp only [weight, hescaping, Bool.toNat_true]
    omega
  · have hlast := hpush state
    unfold weight
    omega

end ShellState

theorem weight_splitShellWords_le (text : List Char) :
    weight (splitShellWords text) ≤ text.length + 1 := by
  have hread := ShellState.weight_foldl_le text {}
  have hfinish := ShellState.weight_finish_le (text.foldl ShellState.read {})
  have hstart : ShellState.weight {} = 0 := rfl
  unfold splitShellWords
  omega

theorem splitArgument_length_le {argument : Word}
    (hsplits : splitArgument word rest.head? = some argument) :
    argument.length + 1 ≤ weight (word :: rest) := by
  unfold splitArgument at hsplits
  rw [weight_cons]
  split at hsplits
  · cases rest with
    | nil =>
        cases hsplits
        exact Nat.le_add_left _ _
    | cons next rest =>
        cases hsplits
        rw [List.head?_cons, Option.getD_some, weight_cons]
        omega
  · split at hsplits
    · cases hsplits
      rw [List.length_drop]
      omega
    · split at hsplits
      · cases hsplits
        rw [List.length_drop]
        omega
      · cases hsplits

/-! ## What is shown is named -/

/-- The executables that are named from here on. -/
def namesFrom (fuel : Nat) : Option Word → List Word → List Word
  | none => executableNamesWithin fuel
  | some wrapper => wrappedExecutableNames (executableNamesWithin fuel) wrapper

theorem executableNamesWithin_assignment {fuel : Nat} (hassigns : isAssignment word = true) :
    executableNamesWithin fuel (word :: rest) = executableNamesWithin fuel rest := by
  cases fuel with
  | zero => rfl
  | succ fuel => simp only [executableNamesWithin, List.dropWhile_cons_of_pos hassigns]

theorem executableNamesWithin_program {fuel : Nat} (hplain : isAssignment word = false) :
    executableNamesWithin (fuel + 1) (word :: rest) =
      if isCommandWrapper (executableOf word) then
        (pushedExecutable word ++
          wrappedExecutableNames (executableNamesWithin fuel) (executableOf word) rest).eraseDups
      else pushedExecutable word := by
  simp only [executableNamesWithin, List.dropWhile_cons_of_neg (Bool.eq_false_iff.mp hplain)]

/-- Whatever a command shows is among its names; the induction is on what is read of it. -/
theorem shown_mem_namesFrom {start : Option Word} {tokens : List Word} {shown : Word}
    (hshows : Shows start tokens shown) (hname : executableOf shown ≠ []) {fuel : Nat}
    (hfuel : weight tokens < fuel) : executableOf shown ∈ namesFrom fuel start tokens := by
  have hpushed := mem_pushedExecutable hname
  induction hshows generalizing fuel with
  | program plain =>
      cases fuel with
      | zero => exact absurd hfuel (Nat.not_lt_zero _)
      | succ fuel =>
          show _ ∈ executableNamesWithin _ _
          rw [executableNamesWithin_program plain]
          split
          · exact List.mem_eraseDups.mpr (List.mem_append_left _ hpushed)
          · exact hpushed
  | assignment assigns inner ih =>
      show _ ∈ executableNamesWithin _ _
      rw [executableNamesWithin_assignment assigns]
      rw [weight_cons] at hfuel
      exact ih hname (by omega) hpushed
  | wrapper plain wraps inner ih =>
      cases fuel with
      | zero => exact absurd hfuel (Nat.not_lt_zero _)
      | succ fuel =>
          show _ ∈ executableNamesWithin _ _
          rw [weight_cons] at hfuel
          rw [executableNamesWithin_program plain, if_pos wraps]
          exact List.mem_eraseDups.mpr
            (List.mem_append_right _ (ih hname (by omega) hpushed))
  | consumed consumes inner ih =>
      rw [weight_append] at hfuel
      exact mem_wrapped_consumed consumes (ih hname (by omega) hpushed)
  | renamed renames =>
      show _ ∈ wrappedExecutableNames _ _ _
      rw [wrapped_renamed renames]
      exact List.mem_append_left _ hpushed
  | unrenamed renames inner ih =>
      show _ ∈ wrappedExecutableNames _ _ _
      rw [weight_append] at hfuel
      rw [wrapped_renamed renames]
      exact List.mem_append_right _ (ih hname (by omega) hpushed)
  | split dashes option splits inner ih =>
      show _ ∈ wrappedExecutableNames _ _ _
      rw [wrapped_split dashes option splits]
      have hlength := splitArgument_length_le splits
      apply ih hname _ hpushed
      exact ((weight_normalizeCommandTokens_le _).trans (weight_splitShellWords_le _)).trans_lt
        (hlength.trans_lt hfuel)
  | command plain program unwrapped =>
      show _ ∈ wrappedExecutableNames _ _ _
      rw [wrapped_program plain program, unwrapped]
      exact hpushed
  | nested plain program wraps inner ih =>
      show _ ∈ wrappedExecutableNames _ _ _
      rw [wrapped_program plain program, wraps]
      exact ih hname ((weight_normalizeCommandTokens_le _).trans_lt hfuel) hpushed

theorem shown_mem_commandExecutableNames {command : RegisteredCommand} {shown : Word}
    (hshows : Shows none (commandTokens command) shown) (hname : executableOf shown ≠ []) :
    executableOf shown ∈ commandExecutableNames (some command) :=
  shown_mem_namesFrom hshows hname (Nat.lt_succ_self _)

/-! ## What a process shows is a candidate -/

/-- A word that the shell would read as it stands. -/
def Unquoted (word : Word) : Prop :=
  ∀ character ∈ word, isWhiteSpace character = false ∧ character ≠ '\\' ∧ character ≠ '\'' ∧
    character ≠ '"'

/-- The command line of a process that shows the word first: something follows it, or it is read
as one word. -/
inductive Begins (shown : Word) : List Char → Prop where
  | followed {blank : Char} {rest : List Char} (isBlank : isWhiteSpace blank = true)
      (visible : ∃ character ∈ rest, isWhiteSpace character = false) :
      Begins shown (shown ++ blank :: rest)
  | alone (unquoted : Unquoted shown) (plain : isAssignment shown = false) : Begins shown shown

theorem dropWhile_of_forall {p : Char → Bool} {text : List Char}
    (hnone : ∀ character ∈ text, p character = false) : text.dropWhile p = text := by
  cases text with
  | nil => rfl
  | cons first rest =>
      exact List.dropWhile_cons_of_neg (Bool.eq_false_iff.mp (hnone first List.mem_cons_self))

theorem dropWhileEnd_of_forall {p : Char → Bool} {text : List Char}
    (hnone : ∀ character ∈ text, p character = false) : dropWhileEnd p text = text := by
  unfold dropWhileEnd
  rw [dropWhile_of_forall fun character hmem => hnone character (List.mem_reverse.mp hmem),
    List.reverse_reverse]

theorem Unquoted.normalized {shown : Word} (hunquoted : Unquoted shown) :
    normalizeCommandToken shown = shown := by
  have hspace : ∀ character ∈ shown, isWhiteSpace character = false := fun character hmem =>
    (hunquoted character hmem).1
  have htrim : trimChars shown = shown := by
    unfold trimChars
    rw [dropWhile_of_forall hspace]
    exact dropWhileEnd_of_forall hspace
  have hquote : ∀ character ∈ shown, isQuote character = false := by
    intro character hmem
    obtain ⟨-, -, hsingle, hdouble⟩ := hunquoted character hmem
    simp [isQuote, hsingle, hdouble]
  have hbackslash : ∀ character ∈ shown, (character == '\\') = false := by
    intro character hmem
    simpa using (hunquoted character hmem).2.1
  unfold normalizeCommandToken
  rw [htrim, dropWhile_of_forall hquote, dropWhileEnd_of_forall hquote,
    dropWhileEnd_of_forall hbackslash]

theorem Unquoted.foldl_read {text : List Char} (hunquoted : Unquoted text) (current : Word) :
    text.foldl ShellState.read { current } = { current := current ++ text } := by
  induction text generalizing current with
  | nil => simp
  | cons character text ih =>
      obtain ⟨hspace, hbackslash, hsingle, hdouble⟩ := hunquoted character List.mem_cons_self
      have hread : ShellState.read { current } character = { current := current ++ [character] } := by
        simp [ShellState.read, ShellState.add, hspace, hbackslash, hsingle, hdouble]
      rw [List.foldl_cons, hread,
        ih fun other hmem => hunquoted other (List.mem_cons_of_mem _ hmem)]
      simp

theorem Unquoted.splitShellWords {shown : Word} (hunquoted : Unquoted shown) (hsome : shown ≠ []) :
    splitShellWords shown = [shown] := by
  unfold Containment.splitShellWords
  rw [hunquoted.foldl_read]
  simp [ShellState.finish, ShellState.pushCurrent, hsome]

theorem trimmed_parts {text : List Char} (htrimmed : trimChars text = text) :
    text.dropWhile isWhiteSpace = text ∧ trimEnd text = text := by
  have hlength : text.length ≤ (text.dropWhile isWhiteSpace).length :=
    calc text.length
        = (trimChars text).length := by rw [htrimmed]
      _ ≤ (text.dropWhile isWhiteSpace).length := dropWhileEnd_length_le isWhiteSpace _
  have hfront : text.dropWhile isWhiteSpace = text :=
    (List.dropWhile_suffix isWhiteSpace).eq_of_length_le hlength
  refine ⟨hfront, ?_⟩
  unfold trimChars at htrimmed
  rwa [hfront] at htrimmed

theorem trimEnd_append {left right : List Char}
    (hvisible : ∃ character ∈ right, isWhiteSpace character = false) :
    trimEnd (left ++ right) = left ++ trimEnd right := by
  have hrest : right.reverse.dropWhile isWhiteSpace ≠ [] := by
    intro hempty
    obtain ⟨character, hmem, hspace⟩ := hvisible
    have hall := List.dropWhile_eq_nil_iff.mp hempty character (List.mem_reverse.mpr hmem)
    rw [hspace] at hall
    cases hall
  unfold trimEnd
  rw [List.reverse_append, List.dropWhile_append, if_neg (by simpa using hrest),
    List.reverse_append, List.reverse_reverse]

/-- The word that a process shows is among its candidates. -/
theorem shown_mem_processExecutableCandidates {shown : Word} {command : String}
    (hname : executableOf shown ≠ []) (htrimmed : trimChars shown = shown)
    (hbegins : Begins shown command.toList) :
    executableOf shown ∈ processExecutableCandidates command := by
  have hsome : shown ≠ [] := by
    rintro rfl
    exact hname rfl
  obtain ⟨hfront, hend⟩ := trimmed_parts htrimmed
  generalize htext : command.toList = text at hbegins
  unfold processExecutableCandidates
  rw [htext]
  cases hbegins with
  | alone unquoted plain =>
      have htokens : commandTokens (.line command) = [shown] := by
        show normalizeCommandTokens (splitShellWords command.toList) = [shown]
        unfold normalizeCommandTokens
        rw [htext, unquoted.splitShellWords hsome]
        simp [unquoted.normalized, hsome]
      have hnames : executableOf shown ∈ commandExecutableNames (some (.line command)) := by
        apply shown_mem_commandExecutableNames _ hname
        rw [htokens]
        exact .program plain
      simp [htrimmed, hsome, List.mem_eraseDups, hnames]
  | @followed blank rest isBlank visible =>
      have hblank : ∃ character ∈ blank :: rest, isWhiteSpace character = false := by
        obtain ⟨character, hmem, hspace⟩ := visible
        exact ⟨character, List.mem_cons_of_mem _ hmem, hspace⟩
      have hdrop : (shown ++ blank :: rest).dropWhile isWhiteSpace = shown ++ blank :: rest := by
        rw [List.dropWhile_append, hfront, if_neg (by simpa using hsome)]
      have htrim : trimChars (shown ++ blank :: rest) = shown ++ blank :: trimEnd rest := by
        unfold trimChars
        rw [hdrop, trimEnd_append hblank]
        exact congrArg (shown ++ ·) (@trimEnd_append [blank] rest visible)
      rw [htrim]
      have hspace : ((shown ++ blank :: trimEnd rest)[shown.length]?.map isWhiteSpace).getD false =
          true := by
        simp [isBlank]
      have htake : trimEnd ((shown ++ blank :: trimEnd rest).take shown.length) = shown := by
        rw [List.take_left, hend]
      rw [if_neg (by simp), List.mem_eraseDups]
      apply List.mem_append_right
      rw [List.mem_flatMap]
      refine ⟨shown, List.mem_filter.mpr ⟨?_, by simpa using hsome⟩, mem_pushedExecutable hname⟩
      rw [List.mem_filterMap]
      refine ⟨shown.length, by simp, ?_⟩
      rw [if_pos hspace, htake]

/-! ## The registered command is owned -/

/-- A live process that shows a word of the registered command is taken for it. -/
theorem commandPidMatchesRegisteredMetadata_of_shows {record : ProcessRecord} {lease : LeaseRecord}
    {now : Timestamp} {command : RegisteredCommand} {shown : Word}
    (halive : processLooksDefunct record = false)
    (hlifetime : lifetimeMatches record lease.commandSince now = true)
    (hcommand : lease.command = some command) (hshows : Shows none (commandTokens command) shown)
    (hname : executableOf shown ≠ []) (htrimmed : trimChars shown = shown)
    (hbegins : Begins shown record.command.toList) :
    commandPidMatchesRegisteredMetadata record lease now = true := by
  have hexpected := shown_mem_commandExecutableNames hshows hname
  have hactual := shown_mem_processExecutableCandidates hname htrimmed hbegins
  unfold commandPidMatchesRegisteredMetadata
  rw [if_neg (by simp [halive]), if_neg (by simp [hlifetime]), hcommand]
  dsimp only
  split
  · rfl
  · rw [List.any_eq_true]
    exact ⟨_, hactual, List.contains_iff_mem.mpr hexpected⟩

/-- The record of a process that runs the command of a lease, where a registered command is looked
for: in its group, or else below the owner that is there. -/
structure RunsRegistered (lease : LeaseRecord) (processes : List ProcessRecord) (now : Timestamp)
    (record : ProcessRecord) : Prop where
  registered : lease.commandPid = some record.pid
  present : recordOfPid processes record.pid = some record
  alive : processLooksDefunct record = false
  lifetime : lifetimeMatches record lease.commandSince now = true
  group : ∀ commandPgid, lease.commandPgid = some commandPgid → record.pgid = some commandPgid
  child : lease.commandPgid = none →
    ∀ ownerPid, validatedOwnerPid lease processes now = some ownerPid → record.ppid = some ownerPid
  shows : ∃ command shown, lease.command = some command ∧
    Shows none (commandTokens command) shown ∧ executableOf shown ≠ [] ∧
      trimChars shown = shown ∧ Begins shown record.command.toList

theorem RunsRegistered.validated {lease : LeaseRecord} {processes : List ProcessRecord}
    {now : Timestamp} {record : ProcessRecord} (hruns : RunsRegistered lease processes now record) :
    validatedCommandPid lease processes now = some record.pid := by
  obtain ⟨command, shown, hcommand, hshows, hname, htrimmed, hbegins⟩ := hruns.shows
  have hmatches : commandPidMatchesRegisteredMetadata record lease now = true :=
    commandPidMatchesRegisteredMetadata_of_shows hruns.alive hruns.lifetime hcommand hshows hname
      htrimmed hbegins
  have hlease : commandPidMatchesLease record lease (validatedOwnerPid lease processes now) now =
      true := by
    unfold commandPidMatchesLease
    rw [if_neg (by simp [hruns.alive])]
    cases hgroup : lease.commandPgid with
    | some commandPgid => simp [hruns.group commandPgid hgroup, hmatches]
    | none =>
        cases howner : validatedOwnerPid lease processes now with
        | none => exact hmatches
        | some ownerPid => simp [hruns.child hgroup ownerPid howner, hmatches]
  unfold validatedCommandPid
  rw [hruns.registered]
  dsimp only
  rw [hruns.present]
  dsimp only
  rw [if_pos hlease]

/-- A live process that runs the registered command of a lease is owned by it, and so is every
process below it: containment never takes it for another program's. -/
theorem owned_of_runsRegistered {lease : LeaseRecord} {records : List ProcessRecord}
    {now : Timestamp} {record : ProcessRecord} {pid : Pid}
    (hruns : RunsRegistered lease (processTable records) now record)
    (hpid : pid = record.pid ∨
      Graph.Reaches (childrenByParent (processTable records)) record.pid pid) :
    IsOwned (discoverLeaseOwnedProcesses lease records now).owned pid :=
  isOwned_discoverLeaseOwnedProcesses.mpr
    (Or.inl ⟨record.pid, .command hruns.validated, hpid⟩)

/-- A lease whose command is a path with a blank behind a wrapper. -/
def wrappedLease : LeaseRecord :=
  { commandLease with
    runtime := { commandLease.runtime with
      command := some (.words ["env", "-u", "CI", "MODE=fast", "/opt/my tools/build", "all"]) } }

def wrappedProcess : ProcessRecord :=
  { pid := 200, ppid := some 100, elapsed := some "01:00:00", command := "/opt/my tools/build all" }

theorem owned_wrappedProcess :
    IsOwned (discoverLeaseOwnedProcesses wrappedLease [wrappedProcess] 3600000).owned 200 := by
  have hshows : Shows none (commandTokens (.words ["env", "-u", "CI", "MODE=fast",
      "/opt/my tools/build", "all"])) "/opt/my tools/build".toList := by
    show Shows none ["env".toList, "-u".toList, "CI".toList, "MODE=fast".toList,
      "/opt/my tools/build".toList, "all".toList] _
    apply Shows.wrapper (by decide) (by decide)
    apply Shows.consumed (Consumes.envValue (by decide) (by decide) (by decide) (by decide))
    apply Shows.consumed (Consumes.assignment (by decide))
    exact .command (by decide) (by decide) (by decide)
  have hruns : RunsRegistered wrappedLease (processTable [wrappedProcess]) 3600000 wrappedProcess := {
    registered := by decide
    present := by decide
    alive := by decide
    lifetime := by decide +kernel
    group := nofun
    child := by decide +kernel
    shows := ⟨_, _, by decide, hshows, by decide, by decide,
      .followed (by decide) ⟨'a', by decide, by decide⟩⟩ }
  exact owned_of_runsRegistered hruns (Or.inl rfl)

/-- A path with a blank that nothing follows is taken apart. -/
example :
    commandPidMatchesRegisteredMetadata { wrappedProcess with command := "/opt/my tools/build" }
      wrappedLease 3600000 = false := by
  decide +kernel

end SimulatorBroker.Containment
