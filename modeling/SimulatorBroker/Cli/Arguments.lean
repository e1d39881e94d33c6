import Mathlib.Data.List.TakeWhile
import Mathlib.Data.List.Nodup

/-!
# Command-line arguments

`parseArgs` of the command line tool, and `flagMap` of the app, which reads the same arguments to
know how long the tool may take.  The tool cuts texts at dashes and equals signs only, so a text is
a list over any alphabet that has the two.  The app compares Characters, of which an accent after
a sign is a part, so what it reads is stated of ASCII texts.
-/

namespace SimulatorBroker.Cli

/-! ## Flags -/

/-- What `--key` has been given: nothing, or a text. -/
inductive FlagValue (α : Type) where
  | present
  | value (text : List α)
  deriving DecidableEq, Repr

abbrev Flags (α : Type) : Type := List (List α × FlagValue α)

variable {α : Type} [DecidableEq α]

/-- `flags.set(key, value)`: a key that is there keeps its place. -/
def setFlag (flags : Flags α) (key : List α) (value : FlagValue α) : Flags α :=
  match flags with
  | [] => [(key, value)]
  | entry :: rest =>
      if entry.1 = key then (key, value) :: rest else entry :: setFlag rest key value

/-- `flags.get(key)`. -/
def getFlag (flags : Flags α) (key : List α) : Option (FlagValue α) :=
  (flags.find? fun entry => entry.1 = key).map (·.2)

theorem mem_keys_setFlag {flags : Flags α} {key other : List α} {value : FlagValue α} :
    other ∈ (setFlag flags key value).map (·.1) ↔ other = key ∨ other ∈ flags.map (·.1) := by
  induction flags with
  | nil => simp [setFlag]
  | cons entry flags ih =>
      unfold setFlag
      split
      · rename_i heq
        subst heq
        simp
      · rw [List.map_cons, List.mem_cons, ih, List.map_cons, List.mem_cons]
        exact or_left_comm

theorem nodup_setFlag {flags : Flags α} (hnodup : (flags.map (·.1)).Nodup) (key : List α)
    (value : FlagValue α) : ((setFlag flags key value).map (·.1)).Nodup := by
  induction flags with
  | nil => simp [setFlag]
  | cons entry flags ih =>
      obtain ⟨hnew, hrest⟩ := List.nodup_cons.mp hnodup
      unfold setFlag
      split
      · rename_i heq
        subst heq
        exact List.nodup_cons.mpr ⟨hnew, hrest⟩
      · rename_i hne
        refine List.nodup_cons.mpr ⟨?_, ih hrest⟩
        intro hmem
        rcases mem_keys_setFlag.mp hmem with heq | hmem
        · exact hne heq
        · exact hnew hmem

theorem mem_setFlag {flags : Flags α} {key : List α} {value : FlagValue α}
    {entry : List α × FlagValue α} (hmem : entry ∈ setFlag flags key value) :
    entry = (key, value) ∨ entry ∈ flags := by
  induction flags with
  | nil => exact Or.inl (List.mem_singleton.mp hmem)
  | cons first flags ih =>
      unfold setFlag at hmem
      split at hmem
      · cases hmem with
        | head => exact Or.inl rfl
        | tail _ hmem => exact Or.inr (List.mem_cons_of_mem _ hmem)
      · cases hmem with
        | head => exact Or.inr List.mem_cons_self
        | tail _ hmem => exact (ih hmem).imp_right (List.mem_cons_of_mem _)

/-- A new key goes to the end. -/
theorem setFlag_of_new {flags : Flags α} {key : List α} (hnew : key ∉ flags.map (·.1))
    (value : FlagValue α) : setFlag flags key value = flags ++ [(key, value)] := by
  induction flags with
  | nil => rfl
  | cons entry flags ih =>
      obtain ⟨hfirst, hrest⟩ := not_or.mp fun hmem => hnew (List.mem_cons.mpr hmem)
      unfold setFlag
      rw [if_neg fun heq => hfirst heq.symm, ih hrest]
      rfl

/-! ## The parsers -/

/-- A letter of an ASCII text.  Two ASCII texts are the same Swift string when they have the same
letters; of its Characters only CR LF has two of them, neither a sign. -/
abbrev Ascii : Type := { letter : Char // letter.toNat < 128 }

namespace Ascii

def dash : Ascii := ⟨'-', by decide⟩

def equals : Ascii := ⟨'=', by decide⟩

end Ascii

structure Arguments (α : Type) where
  flags : Flags α := []
  positionals : List (List α) := []
  deriving DecidableEq, Repr

variable (dash equals : α)

/-- `token.startsWith("--")`. -/
def isFlag (token : List α) : Bool :=
  [dash, dash].isPrefixOf token

/-- The key and the value around the first equals sign, if there is one. -/
def cutAtEquals (body : List α) : Option (List α × List α) :=
  match body.dropWhile (· ≠ equals) with
  | [] => none
  | _ :: value => some (body.takeWhile (· ≠ equals), value)

/-- The same with `equalsIndex > 2`: a key must be there. -/
def cutAfterKey (body : List α) : Option (List α × List α) :=
  (cutAtEquals equals body).filter fun cut => cut.1 ≠ []

/-- The loop of `parseArgs`, and that of `flagMap`, which cut a token differently. -/
def parseWith (cut : List α → Option (List α × List α)) (parsed : Arguments α) :
    List (List α) → Arguments α
  | [] => parsed
  | token :: rest =>
      if isFlag dash token = false then
        parseWith cut { parsed with positionals := parsed.positionals ++ [token] } rest
      else
        match cut (token.drop 2) with
        | some (key, value) =>
            parseWith cut { parsed with flags := setFlag parsed.flags key (.value value) } rest
        | none =>
            match rest with
            | [] => { parsed with flags := setFlag parsed.flags (token.drop 2) .present }
            | next :: later =>
                if isFlag dash next then
                  parseWith cut
                    { parsed with flags := setFlag parsed.flags (token.drop 2) .present }
                    (next :: later)
                else
                  parseWith cut
                    { parsed with flags := setFlag parsed.flags (token.drop 2) (.value next) } later

/-- `parseArgs` of `command-dispatch.mjs`. -/
def parseArgs (argv : List (List α)) : Arguments α :=
  parseWith dash (cutAfterKey equals) {} argv

/-- `flagMap(from:)` of the app. -/
def flagMap (arguments : List (List Ascii)) : Flags Ascii :=
  (parseWith .dash (cutAtEquals .equals) {} arguments).flags

/-! ## One token at a time -/

/-- The key a flag token sets. -/
def keyOf (cut : List α → Option (List α × List α)) (token : List α) : List α :=
  ((cut (token.drop 2)).map (·.1)).getD (token.drop 2)

omit [DecidableEq α] in
theorem keyOf_of_cut {cut : List α → Option (List α × List α)} {token key value : List α}
    (hcut : cut (token.drop 2) = some (key, value)) : keyOf cut token = key := by
  rw [keyOf, hcut]
  rfl

omit [DecidableEq α] in
theorem keyOf_of_whole {cut : List α → Option (List α × List α)} {token : List α}
    (hcut : cut (token.drop 2) = none) : keyOf cut token = token.drop 2 := by
  rw [keyOf, hcut]
  rfl

section steps

variable {dash : α} {cut : List α → Option (List α × List α)} {parsed : Arguments α}
  {token value : List α} {rest : List (List α)}

theorem parseWith_positional (hplain : isFlag dash token = false) :
    parseWith dash cut parsed (token :: rest) =
      parseWith dash cut { parsed with positionals := parsed.positionals ++ [token] } rest := by
  rw [parseWith.eq_def]
  exact if_pos hplain

theorem parseWith_cut {key : List α} (hflag : isFlag dash token = true)
    (hcut : cut (token.drop 2) = some (key, value)) :
    parseWith dash cut parsed (token :: rest) =
      parseWith dash cut { parsed with flags := setFlag parsed.flags key (.value value) } rest := by
  rw [parseWith.eq_def]
  simp only [hflag, hcut, Bool.true_eq_false, if_false]

theorem parseWith_value (hflag : isFlag dash token = true) (hcut : cut (token.drop 2) = none)
    (hplain : isFlag dash value = false) :
    parseWith dash cut parsed (token :: value :: rest) =
      parseWith dash cut
        { parsed with flags := setFlag parsed.flags (token.drop 2) (.value value) } rest := by
  rw [parseWith.eq_def]
  simp only [hflag, hcut, hplain, Bool.true_eq_false, Bool.false_eq_true, if_false]

theorem parseWith_present (hflag : isFlag dash token = true) (hcut : cut (token.drop 2) = none)
    (hrest : ∀ following ∈ rest.head?, isFlag dash following = true) :
    parseWith dash cut parsed (token :: rest) =
      parseWith dash cut
        { parsed with flags := setFlag parsed.flags (token.drop 2) .present } rest := by
  rw [parseWith.eq_def]
  cases rest with
  | nil => simp only [hflag, hcut, Bool.true_eq_false, if_false, parseWith]
  | cons following later =>
      simp only [hflag, hcut, hrest following rfl, Bool.true_eq_false, if_false, if_true]

end steps

/-- What holds of the arguments read so far, and is kept by each kind of token, holds of the
arguments read in the end. -/
theorem parseWith_induction (dash : α) (cut : List α → Option (List α × List α))
    {motive : List (List α) → Arguments α → Prop}
    (hpositional : ∀ token rest parsed, isFlag dash token = false → motive (token :: rest) parsed →
      motive rest { parsed with positionals := parsed.positionals ++ [token] })
    (hcut : ∀ token rest parsed key value, isFlag dash token = true →
      cut (token.drop 2) = some (key, value) → motive (token :: rest) parsed →
      motive rest { parsed with flags := setFlag parsed.flags key (.value value) })
    (hvalue : ∀ token value rest parsed, isFlag dash token = true → cut (token.drop 2) = none →
      isFlag dash value = false → motive (token :: value :: rest) parsed →
      motive rest { parsed with flags := setFlag parsed.flags (token.drop 2) (.value value) })
    (hpresent : ∀ token rest parsed, isFlag dash token = true → cut (token.drop 2) = none →
      (∀ following ∈ rest.head?, isFlag dash following = true) → motive (token :: rest) parsed →
      motive rest { parsed with flags := setFlag parsed.flags (token.drop 2) .present })
    (argv : List (List α)) (parsed : Arguments α) (hstart : motive argv parsed) :
    motive [] (parseWith dash cut parsed argv) := by
  fun_induction parseWith dash cut parsed argv with
  | case1 parsed => exact hstart
  | case2 parsed token rest hplain ih => exact ih (hpositional token rest parsed hplain hstart)
  | case3 parsed token rest hflag key value hsome ih =>
      exact ih (hcut token rest parsed key value (by simpa using hflag) hsome hstart)
  | case4 parsed token hflag hnone =>
      exact hpresent token [] parsed (by simpa using hflag) hnone (by simp) hstart
  | case5 parsed token hflag hnone following later hfollowing ih =>
      exact ih (hpresent token (following :: later) parsed (by simpa using hflag) hnone
        (by simpa using hfollowing) hstart)
  | case6 parsed token hflag hnone value later hvalueFlag ih =>
      exact ih (hvalue token value later parsed (by simpa using hflag) hnone
        (by simpa using hvalueFlag) hstart)

/-- Every flag token sets its key, and no other key is set. -/
theorem mem_keys_parseWith {dash : α} {cut : List α → Option (List α × List α)}
    {parsed : Arguments α} {argv : List (List α)} {key : List α} :
    key ∈ (parseWith dash cut parsed argv).flags.map (·.1) ↔
      key ∈ parsed.flags.map (·.1) ∨
        ∃ token ∈ argv, isFlag dash token = true ∧ keyOf cut token = key := by
  have hkept := parseWith_induction dash cut
    (motive := fun rest reached => (key ∈ reached.flags.map (·.1) ∨
        ∃ token ∈ rest, isFlag dash token = true ∧ keyOf cut token = key) ↔
      (key ∈ parsed.flags.map (·.1) ∨
        ∃ token ∈ argv, isFlag dash token = true ∧ keyOf cut token = key))
    ?_ ?_ ?_ ?_ argv parsed Iff.rfl
  · simpa using hkept
  · rintro token rest reached hplain hreached
    rw [← hreached]
    simp [hplain]
  · rintro token rest reached found value hflag hcut hreached
    rw [← hreached, mem_keys_setFlag, @eq_comm _ key, or_assoc, or_left_comm]
    simp only [List.mem_cons, exists_eq_or_imp, hflag, true_and, keyOf_of_cut hcut]
  · rintro token value rest reached hflag hcut hplain hreached
    rw [← hreached, mem_keys_setFlag, @eq_comm _ key, or_assoc, or_left_comm]
    simp only [List.mem_cons, exists_eq_or_imp, hflag, hplain, true_and, Bool.false_eq_true,
      false_and, false_or, keyOf_of_whole hcut]
  · rintro token rest reached hflag hcut hfollowing hreached
    rw [← hreached, mem_keys_setFlag, @eq_comm _ key, or_assoc, or_left_comm]
    simp only [List.mem_cons, exists_eq_or_imp, hflag, true_and, keyOf_of_whole hcut]

/-- Two ways to cut that agree on the flag tokens read the same arguments. -/
theorem parseWith_congr {dash : α} {cut other : List α → Option (List α × List α)}
    {argv : List (List α)} (parsed : Arguments α)
    (hagree : ∀ token ∈ argv, isFlag dash token = true →
      cut (token.drop 2) = other (token.drop 2)) :
    parseWith dash cut parsed argv = parseWith dash other parsed argv := by
  have hkept := parseWith_induction dash cut
    (motive := fun rest reached => (∀ token ∈ rest, token ∈ argv) ∧
      parseWith dash other reached rest = parseWith dash other parsed argv)
    ?_ ?_ ?_ ?_ argv parsed ⟨fun token hmem => hmem, rfl⟩
  · simpa [parseWith] using hkept.2
  · rintro token rest reached hplain ⟨hmem, hreached⟩
    refine ⟨fun later hlater => hmem later (List.mem_cons_of_mem _ hlater), ?_⟩
    rw [← hreached, parseWith_positional hplain]
  · rintro token rest reached key value hflag hcut ⟨hmem, hreached⟩
    refine ⟨fun later hlater => hmem later (List.mem_cons_of_mem _ hlater), ?_⟩
    have hother := hagree token (hmem token List.mem_cons_self) hflag
    rw [← hreached, parseWith_cut hflag (hother.symm.trans hcut)]
  · rintro token value rest reached hflag hcut hplain ⟨hmem, hreached⟩
    refine ⟨fun later hlater => hmem later
      (List.mem_cons_of_mem _ (List.mem_cons_of_mem _ hlater)), ?_⟩
    have hother := hagree token (hmem token List.mem_cons_self) hflag
    rw [← hreached, parseWith_value hflag (hother.symm.trans hcut) hplain]
  · rintro token rest reached hflag hcut hfollowing ⟨hmem, hreached⟩
    refine ⟨fun later hlater => hmem later (List.mem_cons_of_mem _ hlater), ?_⟩
    have hother := hagree token (hmem token List.mem_cons_self) hflag
    rw [← hreached, parseWith_present hflag (hother.symm.trans hcut) hfollowing]

/-! ## Cutting at the equals sign -/

section cutting

variable {equals : α} {body key value : List α}

theorem cutAtEquals_append (hkey : equals ∉ key) :
    cutAtEquals equals (key ++ equals :: value) = some (key, value) := by
  have hplain : ∀ sign ∈ key, decide (sign ≠ equals) = true := by
    intro sign hmem
    exact decide_eq_true fun heq => hkey (heq ▸ hmem)
  unfold cutAtEquals
  rw [List.dropWhile_append_of_pos hplain, List.takeWhile_append_of_pos hplain]
  simp

theorem cutAtEquals_eq_none : cutAtEquals equals body = none ↔ equals ∉ body := by
  constructor
  · intro hcut hmem
    obtain ⟨front, rest, rfl, hfront⟩ := List.eq_append_cons_of_mem hmem
    rw [cutAtEquals_append hfront] at hcut
    cases hcut
  · intro hnone
    have hplain : ∀ sign ∈ body, decide (sign ≠ equals) = true := by
      intro sign hmem
      exact decide_eq_true fun heq => hnone (heq ▸ hmem)
    unfold cutAtEquals
    rw [List.dropWhile_eq_nil_iff.mpr hplain]

theorem cutAtEquals_eq_some :
    cutAtEquals equals body = some (key, value) ↔ body = key ++ equals :: value ∧ equals ∉ key := by
  constructor
  · intro hcut
    by_cases hmem : equals ∈ body
    · obtain ⟨front, rest, rfl, hfront⟩ := List.eq_append_cons_of_mem hmem
      rw [cutAtEquals_append hfront] at hcut
      cases hcut
      exact ⟨rfl, hfront⟩
    · rw [cutAtEquals_eq_none.mpr hmem] at hcut
      cases hcut
  · rintro ⟨rfl, hkey⟩
    exact cutAtEquals_append hkey

theorem cutAfterKey_eq_some :
    cutAfterKey equals body = some (key, value) ↔
      body = key ++ equals :: value ∧ equals ∉ key ∧ key ≠ [] := by
  unfold cutAfterKey
  rw [Option.filter_eq_some_iff, cutAtEquals_eq_some, and_assoc]
  simp

theorem cutAfterKey_eq_none :
    cutAfterKey equals body = none ↔ equals ∉ body ∨ body.head? = some equals := by
  constructor
  · intro hcut
    refine or_iff_not_imp_left.mpr fun hmem => ?_
    obtain ⟨front, rest, rfl, hfront⟩ := List.eq_append_cons_of_mem (not_not.mp hmem)
    cases front with
    | nil => rfl
    | cons first front =>
        rw [cutAfterKey_eq_some.mpr ⟨rfl, hfront, List.cons_ne_nil _ _⟩] at hcut
        cases hcut
  · intro hkey
    cases hcut : cutAfterKey equals body with
    | none => rfl
    | some cut =>
        obtain ⟨rfl, hfront, hsome⟩ := cutAfterKey_eq_some.mp hcut
        rcases hkey with hmem | hhead
        · exact absurd (List.mem_append_right _ List.mem_cons_self) hmem
        · obtain ⟨first, front, hcons⟩ := List.exists_cons_of_ne_nil hsome
          rw [hcons] at hhead hfront
          exact absurd (List.mem_cons.mpr (Or.inl (Option.some.inj hhead).symm)) hfront

end cutting

/-! ## The tool and the app -/

variable {dash equals}

/-- The tool and the app cut a token differently only where its key is missing. -/
theorem cutAtEquals_eq_cutAfterKey {body : List α} (hkey : body.head? ≠ some equals) :
    cutAtEquals equals body = cutAfterKey equals body := by
  cases hcut : cutAfterKey equals body with
  | none =>
      rcases cutAfterKey_eq_none.mp hcut with hmem | hhead
      · exact cutAtEquals_eq_none.mpr hmem
      · exact absurd hhead hkey
  | some cut =>
      obtain ⟨hbody, hfront, -⟩ := cutAfterKey_eq_some.mp hcut
      exact cutAtEquals_eq_some.mpr ⟨hbody, hfront⟩

theorem equals_notMem_keyOf (token : List α) : equals ∉ keyOf (cutAtEquals equals) token := by
  cases hcut : cutAtEquals equals (token.drop 2) with
  | none =>
      rw [keyOf_of_whole hcut]
      exact cutAtEquals_eq_none.mp hcut
  | some cut =>
      rw [keyOf_of_cut hcut]
      exact (cutAtEquals_eq_some.mp hcut).2

theorem keyOf_cutAfterKey {token : List α} (hhead : (token.drop 2).head? = some equals) :
    keyOf (cutAfterKey equals) token = token.drop 2 :=
  keyOf_of_whole (cutAfterKey_eq_none.mpr (Or.inr hhead))

theorem isSome_getFlag {flags : Flags α} {key : List α} :
    (getFlag flags key).isSome = true ↔ key ∈ flags.map (·.1) := by
  simp [getFlag]

/-- The app reads the flags of a command as the tool does exactly when no flag has its equals sign
right after the dashes. -/
theorem flagMap_eq_parseArgs_iff (argv : List (List Ascii)) :
    (∀ key, getFlag (flagMap argv) key =
        getFlag (parseArgs Ascii.dash Ascii.equals argv).flags key) ↔
      ∀ token ∈ argv, isFlag Ascii.dash token = true →
        (token.drop 2).head? ≠ some Ascii.equals := by
  constructor
  · rintro hsame token hmem hflag hhead
    have hset : token.drop 2 ∈ (parseArgs Ascii.dash Ascii.equals argv).flags.map (·.1) :=
      mem_keys_parseWith.mpr (Or.inr ⟨token, hmem, hflag, keyOf_cutAfterKey hhead⟩)
    rw [← isSome_getFlag, ← hsame, isSome_getFlag] at hset
    rcases mem_keys_parseWith.mp hset with hnone | ⟨other, -, -, hkey⟩
    · cases hnone
    · exact equals_notMem_keyOf other (hkey ▸ List.mem_of_mem_head? hhead)
  · intro hkeys key
    unfold flagMap parseArgs
    rw [parseWith_congr {} fun token hmem hflag =>
      cutAtEquals_eq_cutAfterKey (hkeys token hmem hflag)]

-- The app sees an empty key with a value here, the tool a key that begins with the sign.
example : flagMap [[.dash, .dash, .equals, .dash]] = [([], .value [.dash])] ∧
    (parseArgs Ascii.dash Ascii.equals [[.dash, .dash, .equals, .dash]]).flags =
      [([.equals, .dash], .present)] := by decide

/-! ## Writing arguments -/

variable (dash equals)

/-- A flag as tokens: its value is a token of its own unless it would be read as a flag. -/
def renderFlag (entry : List α × FlagValue α) : List (List α) :=
  match entry.2 with
  | .present => [dash :: dash :: entry.1]
  | .value text =>
      if isFlag dash text then [dash :: dash :: (entry.1 ++ equals :: text)]
      else [dash :: dash :: entry.1, text]

/-- The positionals, then the flags. -/
def render (parsed : Arguments α) : List (List α) :=
  parsed.positionals ++ parsed.flags.flatMap (renderFlag dash equals)

/-- What a flag says can be written as tokens. -/
structure Writable (entry : List α × FlagValue α) : Prop where
  key : equals ∉ entry.1 ∨ entry.1.head? = some equals
  value : ∀ text, entry.2 = .value text → isFlag dash text = true → equals ∉ entry.1 ∧ entry.1 ≠ []

structure Rereadable (parsed : Arguments α) : Prop where
  nodup : (parsed.flags.map (·.1)).Nodup
  positionals : ∀ token ∈ parsed.positionals, isFlag dash token = false
  flags : ∀ entry ∈ parsed.flags, Writable dash equals entry

variable {dash equals}

@[simp] theorem isFlag_dashes (body : List α) : isFlag dash (dash :: dash :: body) = true := by
  simp [isFlag]

theorem Rereadable.setFlag {parsed : Arguments α} (hparsed : Rereadable dash equals parsed)
    {key : List α} {value : FlagValue α} (hwritable : Writable dash equals (key, value)) :
    Rereadable dash equals { parsed with flags := setFlag parsed.flags key value } where
  nodup := nodup_setFlag hparsed.nodup key value
  positionals := hparsed.positionals
  flags := by
    rintro entry hmem
    rcases mem_setFlag hmem with rfl | hmem
    · exact hwritable
    · exact hparsed.flags entry hmem

theorem rereadable_parseArgs (argv : List (List α)) :
    Rereadable dash equals (parseArgs dash equals argv) := by
  refine parseWith_induction dash (cutAfterKey equals)
    (motive := fun _ reached => Rereadable dash equals reached) ?_ ?_ ?_ ?_ argv {} ?_
  · rintro token rest reached hplain hreached
    refine ⟨hreached.nodup, ?_, hreached.flags⟩
    intro positional hmem
    rcases List.mem_append.mp hmem with hmem | hmem
    · exact hreached.positionals positional hmem
    · exact List.mem_singleton.mp hmem ▸ hplain
  · rintro token rest reached key value hflag hcut hreached
    obtain ⟨-, hfront, hsome⟩ := cutAfterKey_eq_some.mp hcut
    exact hreached.setFlag ⟨Or.inl hfront, fun _ _ _ => ⟨hfront, hsome⟩⟩
  · rintro token value rest reached hflag hcut hplain hreached
    refine hreached.setFlag ⟨cutAfterKey_eq_none.mp hcut, ?_⟩
    rintro text heq htext
    cases heq
    rw [hplain] at htext
    cases htext
  · rintro token rest reached hflag hcut hfollowing hreached
    exact hreached.setFlag ⟨cutAfterKey_eq_none.mp hcut, fun _ heq => nomatch heq⟩
  · exact ⟨List.nodup_nil, fun _ hmem => (nomatch hmem), fun _ hmem => (nomatch hmem)⟩

theorem isFlag_head_renderFlags {flags : Flags α} {following : List α}
    (hhead : following ∈ (flags.flatMap (renderFlag dash equals)).head?) :
    isFlag dash following = true := by
  cases flags with
  | nil => cases hhead
  | cons entry flags =>
      rw [List.flatMap_cons] at hhead
      obtain ⟨key, value⟩ := entry
      cases value with
      | present =>
          obtain rfl := Option.some.inj hhead
          exact isFlag_dashes key
      | value text =>
          unfold renderFlag at hhead
          simp only at hhead
          split at hhead
          · obtain rfl := Option.some.inj hhead
            exact isFlag_dashes _
          · obtain rfl := Option.some.inj hhead
            exact isFlag_dashes key

/-- A written flag is read as itself. -/
theorem parseWith_renderFlag {parsed : Arguments α} {entry : List α × FlagValue α}
    {rest : List (List α)} (hwritable : Writable dash equals entry)
    (hrest : ∀ following ∈ rest.head?, isFlag dash following = true) :
    parseWith dash (cutAfterKey equals) parsed (renderFlag dash equals entry ++ rest) =
      parseWith dash (cutAfterKey equals)
        { parsed with flags := setFlag parsed.flags entry.1 entry.2 } rest := by
  obtain ⟨key, value⟩ := entry
  have hwhole : cutAfterKey equals ((dash :: dash :: key).drop 2) = none :=
    cutAfterKey_eq_none.mpr hwritable.key
  cases value with
  | present => exact parseWith_present (isFlag_dashes key) hwhole hrest
  | value text =>
      unfold renderFlag
      simp only
      split
      · rename_i htext
        obtain ⟨hfront, hsome⟩ := hwritable.value text rfl htext
        exact parseWith_cut (isFlag_dashes _) (cutAfterKey_eq_some.mpr ⟨rfl, hfront, hsome⟩)
      · rename_i htext
        exact parseWith_value (isFlag_dashes key) hwhole (Bool.eq_false_iff.mpr htext)

theorem parseWith_renderFlags {flags : Flags α} {parsed : Arguments α}
    (hwritable : ∀ entry ∈ flags, Writable dash equals entry)
    (hnodup : ((parsed.flags ++ flags).map (·.1)).Nodup) :
    parseWith dash (cutAfterKey equals) parsed (flags.flatMap (renderFlag dash equals)) =
      { parsed with flags := parsed.flags ++ flags } := by
  induction flags generalizing parsed with
  | nil => rw [List.flatMap_nil, parseWith, List.append_nil]
  | cons entry flags ih =>
      have hnew : entry.1 ∉ parsed.flags.map (·.1) := by
        rw [List.map_append, List.nodup_append] at hnodup
        intro hmem
        exact hnodup.2.2 entry.1 hmem entry.1 List.mem_cons_self rfl
      rw [List.flatMap_cons, parseWith_renderFlag (hwritable entry List.mem_cons_self)
        fun _ => isFlag_head_renderFlags, setFlag_of_new hnew]
      rw [ih (fun later hlater => hwritable later (List.mem_cons_of_mem _ hlater))
        (by simpa using hnodup)]
      simp

theorem parseWith_positionals {cut : List α → Option (List α × List α)}
    {tokens rest : List (List α)}
    (hplain : ∀ token ∈ tokens, isFlag dash token = false) (parsed : Arguments α) :
    parseWith dash cut parsed (tokens ++ rest) =
      parseWith dash cut { parsed with positionals := parsed.positionals ++ tokens } rest := by
  induction tokens generalizing parsed with
  | nil => simp
  | cons token tokens ih =>
      rw [List.cons_append, parseWith_positional (hplain token List.mem_cons_self),
        ih fun later hlater => hplain later (List.mem_cons_of_mem _ hlater)]
      simp

theorem parseArgs_render {parsed : Arguments α} (hparsed : Rereadable dash equals parsed) :
    parseArgs dash equals (render dash equals parsed) = parsed := by
  unfold parseArgs render
  rw [parseWith_positionals hparsed.positionals,
    parseWith_renderFlags hparsed.flags (by simpa using hparsed.nodup)]
  rfl

/-- What the tool reads, written with the positionals first, is read again as the same. -/
theorem parseArgs_render_parseArgs (argv : List (List α)) :
    parseArgs dash equals (render dash equals (parseArgs dash equals argv)) =
      parseArgs dash equals argv :=
  parseArgs_render (rereadable_parseArgs argv)

end SimulatorBroker.Cli
