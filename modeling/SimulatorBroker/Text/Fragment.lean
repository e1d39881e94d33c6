import SimulatorBroker.Text.Value

/-!
# Fragments of records

Where a reader of JSON texts stands inside strings, and how deep, depends on the characters alone.
A reader that begins in the middle of an object's text either keeps a depth that never comes
out right, or takes strings for structure and structure for strings to the end.  So no proper
part at the end of the text of an object is a JSON text, except for spaces before it.
-/

namespace SimulatorBroker.Text

/-! ## The track of a reader -/

/-- Whether a reader is inside a string, and inside an escape of it. -/
inductive Quoting where
  | plain
  | quoted
  | escaped
  | unicode (left : Nat)
  deriving DecidableEq, Repr

def Mode.quoting : Mode → Quoting
  | .string _ => .quoted
  | .escape _ => .escaped
  | .unicode _ left => .unicode left
  | _ => .plain

/-- The quoting and the depth of a reader. -/
def Reader.track (reader : Reader) : Quoting × Int :=
  (reader.mode.quoting, reader.stack.length)

/-- What a character does to the quoting and the depth. -/
def trackChar : Quoting × Int → Char → Quoting × Int
  | (.plain, depth), c =>
      if c = '"' then (.quoted, depth)
      else if c = '{' ∨ c = '[' then (.plain, depth + 1)
      else if c = '}' ∨ c = ']' then (.plain, depth - 1)
      else (.plain, depth)
  | (.quoted, depth), c =>
      if c = '"' then (.plain, depth)
      else if c = '\\' then (.escaped, depth)
      else (.quoted, depth)
  | (.escaped, depth), c => if c = 'u' then (.unicode 4, depth) else (.quoted, depth)
  | (.unicode left, depth), _ =>
      if left ≤ 1 then (.quoted, depth) else (.unicode (left - 1), depth)

theorem isSpace_cases {c : Char} (hspace : isSpace c = true) :
    c = ' ' ∨ c = '\t' ∨ c = '\n' ∨ c = '\r' := by
  simpa [isSpace, or_assoc] using hspace

theorem trackChar_space {c : Char} (hspace : isSpace c = true) (depth : Int) :
    trackChar (.plain, depth) c = (.plain, depth) := by
  rcases isSpace_cases hspace with rfl | rfl | rfl | rfl <;> simp [trackChar]

/-- A plain character is none of the quotes and brackets. -/
theorem trackChar_plain {c : Char} (hquote : c ≠ '"')
    (hbrackets : c ≠ '{' ∧ c ≠ '[' ∧ c ≠ '}' ∧ c ≠ ']') (depth : Int) :
    trackChar (.plain, depth) c = (.plain, depth) := by
  simp [trackChar, hquote, hbrackets]

theorem isDigit_brackets {c : Char} (hdigit : isDigit c = true) :
    c ≠ '"' ∧ c ≠ '{' ∧ c ≠ '[' ∧ c ≠ '}' ∧ c ≠ ']' := by
  refine ⟨?_, ?_, ?_, ?_, ?_⟩ <;>
    · rintro rfl
      revert hdigit
      decide

theorem trackChar_digit {c : Char} (hdigit : isDigit c = true) (depth : Int) :
    trackChar (.plain, depth) c = (.plain, depth) :=
  trackChar_plain (isDigit_brackets hdigit).1 (isDigit_brackets hdigit).2 depth

theorem beginValue_track {stack : List Frame} {c : Char} {next : Reader}
    (hchar : beginValue stack c = some next) :
    next.track = trackChar (.plain, stack.length) c := by
  unfold beginValue at hchar
  split_ifs at hchar with h1 h2 h3 h4 h5 h6 h7 h8 h9
  all_goals obtain rfl := Option.some.inj hchar
  · subst h1
    simp [Reader.track, Mode.quoting, trackChar]
  · subst h2
    simp [Reader.track, Mode.quoting, trackChar]
  · subst h3
    simp [Reader.track, Mode.quoting, trackChar]
  · subst h4
    simp [Reader.track, Mode.quoting, trackChar]
  · subst h5
    simp [Reader.track, Mode.quoting, trackChar]
  · rw [trackChar_digit h6]
    rfl
  · subst h7
    simp [Reader.track, Mode.quoting, trackChar]
  · subst h8
    simp [Reader.track, Mode.quoting, trackChar]
  · subst h9
    simp [Reader.track, Mode.quoting, trackChar]

theorem afterValue_track {stack : List Frame} {c : Char} {next : Reader}
    (hchar : afterValue stack c = some next) :
    next.track = trackChar (.plain, stack.length) c := by
  by_cases hspace : isSpace c = true
  · unfold afterValue at hchar
    rw [if_pos hspace] at hchar
    obtain rfl := Option.some.inj hchar
    rw [trackChar_space hspace]
    rfl
  · unfold afterValue at hchar
    rw [if_neg hspace] at hchar
    cases stack with
    | nil => cases hchar
    | cons frame outer =>
        cases frame <;>
          · dsimp only at hchar
            split_ifs at hchar with hcomma hclose
            all_goals obtain rfl := Option.some.inj hchar
            · subst hcomma
              simp [Reader.track, Mode.quoting, trackChar]
            · subst hclose
              simp [Reader.track, Mode.quoting, trackChar]

/-- A character of a reader outside strings that leaves the mode plain and the stack alone. -/
theorem track_same {reader next : Reader} {c : Char} (hreader : reader.mode.quoting = .plain)
    (hnext : next.mode.quoting = .plain) (hstack : next.stack = reader.stack)
    (hplain : c ≠ '"' ∧ c ≠ '{' ∧ c ≠ '[' ∧ c ≠ '}' ∧ c ≠ ']') :
    next.track = trackChar reader.track c := by
  unfold Reader.track
  rw [hreader, hnext, hstack, trackChar_plain hplain.1 hplain.2]

/-- What is left of a literal is letters. -/
def Mode.Lettered : Mode → Prop
  | .literal rest => ∀ c ∈ rest, c ∈ ['r', 'u', 'e', 'a', 'l', 's']
  | _ => True

theorem beginValue_lettered {stack : List Frame} {c : Char} {next : Reader}
    (hchar : beginValue stack c = some next) : next.mode.Lettered := by
  unfold beginValue at hchar
  split_ifs at hchar
  all_goals
    obtain rfl := Option.some.inj hchar
    simp [Mode.Lettered]

theorem afterValue_lettered {stack : List Frame} {c : Char} {next : Reader}
    (hchar : afterValue stack c = some next) : next.mode.Lettered := by
  unfold afterValue at hchar
  by_cases hspace : isSpace c = true
  · rw [if_pos hspace] at hchar
    obtain rfl := Option.some.inj hchar
    trivial
  · rw [if_neg hspace] at hchar
    cases stack with
    | nil => cases hchar
    | cons frame outer =>
        cases frame <;>
          · dsimp only at hchar
            split_ifs at hchar
            all_goals
              obtain rfl := Option.some.inj hchar
              trivial

theorem readChar_lettered {reader next : Reader} {c : Char} (hletters : reader.mode.Lettered)
    (hchar : readChar reader c = some next) : next.mode.Lettered := by
  obtain ⟨mode, stack⟩ := reader
  cases mode with
  | literal rest =>
      cases rest with
      | nil => cases hchar
      | cons expected rest =>
          simp only [readChar] at hchar
          by_cases hexpected : c = expected
          · rw [if_pos hexpected] at hchar
            obtain rfl := Option.some.inj hchar
            by_cases hlast : rest = []
            · simp [hlast, Mode.Lettered]
            · rw [if_neg hlast]
              exact fun other hother => hletters other (List.mem_cons_of_mem _ hother)
          · rw [if_neg hexpected] at hchar
            cases hchar
  | after => exact afterValue_lettered hchar
  | _ =>
      simp only [readChar] at hchar
      split_ifs at hchar
      all_goals
        first
        | exact beginValue_lettered hchar
        | exact afterValue_lettered hchar
        | (obtain rfl := Option.some.inj hchar
           trivial)

theorem readChar_track {reader next : Reader} {c : Char} (hletters : reader.mode.Lettered)
    (hchar : readChar reader c = some next) : next.track = trackChar reader.track c := by
  obtain ⟨mode, stack⟩ := reader
  cases mode with
  | value =>
      simp only [readChar] at hchar
      split_ifs at hchar with hspace
      · obtain rfl := Option.some.inj hchar
        exact (trackChar_space hspace _).symm
      · exact beginValue_track hchar
  | firstElement =>
      simp only [readChar] at hchar
      split_ifs at hchar with hspace hclose
      · obtain rfl := Option.some.inj hchar
        exact (trackChar_space hspace _).symm
      · exact afterValue_track hchar
      · exact beginValue_track hchar
  | firstMember =>
      simp only [readChar] at hchar
      split_ifs at hchar with hspace hquote hclose
      · obtain rfl := Option.some.inj hchar
        exact (trackChar_space hspace _).symm
      · obtain rfl := Option.some.inj hchar
        subst hquote
        rfl
      · exact afterValue_track hchar
  | key =>
      simp only [readChar] at hchar
      split_ifs at hchar with hspace hquote
      · obtain rfl := Option.some.inj hchar
        exact (trackChar_space hspace _).symm
      · obtain rfl := Option.some.inj hchar
        subst hquote
        rfl
  | colon =>
      simp only [readChar] at hchar
      split_ifs at hchar with hspace hcolon
      · obtain rfl := Option.some.inj hchar
        exact (trackChar_space hspace _).symm
      · obtain rfl := Option.some.inj hchar
        subst hcolon
        exact track_same rfl rfl rfl (by decide)
  | after => exact afterValue_track hchar
  | string isKey =>
      simp only [readChar] at hchar
      by_cases hquote : c = '"'
      · rw [if_pos hquote] at hchar
        obtain rfl := Option.some.inj hchar
        cases isKey <;> simp [Reader.track, Mode.quoting, trackChar, hquote]
      · rw [if_neg hquote] at hchar
        split_ifs at hchar with hescape hcontrol
        all_goals obtain rfl := Option.some.inj hchar
        · simp [Reader.track, Mode.quoting, trackChar, hescape]
        · simp [Reader.track, Mode.quoting, trackChar, hquote, hescape]
  | escape isKey =>
      simp only [readChar] at hchar
      split_ifs at hchar with hunicode hescape
      all_goals obtain rfl := Option.some.inj hchar
      · simp [Reader.track, Mode.quoting, trackChar, hunicode]
      · simp [Reader.track, Mode.quoting, trackChar, hunicode]
  | unicode isKey left =>
      simp only [readChar] at hchar
      split_ifs at hchar with hhex hlast
      all_goals obtain rfl := Option.some.inj hchar
      · simp [Reader.track, Mode.quoting, trackChar, hlast]
      · simp [Reader.track, Mode.quoting, trackChar, hlast]
  | literal rest =>
      cases rest with
      | nil => cases hchar
      | cons expected rest =>
          have hletter := hletters expected List.mem_cons_self
          simp only [readChar] at hchar
          by_cases hexpected : c = expected
          · subst hexpected
            rw [if_pos rfl] at hchar
            obtain rfl := Option.some.inj hchar
            have hplain : c ≠ '"' ∧ c ≠ '{' ∧ c ≠ '[' ∧ c ≠ '}' ∧ c ≠ ']' := by
              simp only [List.mem_cons, List.not_mem_nil, or_false] at hletter
              rcases hletter with rfl | rfl | rfl | rfl | rfl | rfl <;> decide
            by_cases hlast : rest = []
            · exact track_same rfl (by simp [hlast, Mode.quoting]) rfl hplain
            · exact track_same rfl (by simp [hlast, Mode.quoting]) rfl hplain
          · rw [if_neg hexpected] at hchar
            cases hchar
  | minus =>
      simp only [readChar] at hchar
      split_ifs at hchar with hzero hdigit
      all_goals obtain rfl := Option.some.inj hchar
      · subst hzero
        exact track_same rfl rfl rfl (by decide)
      · exact track_same rfl rfl rfl (isDigit_brackets hdigit)
  | zero =>
      simp only [readChar] at hchar
      split_ifs at hchar with hpoint hexponent
      · obtain rfl := Option.some.inj hchar
        subst hpoint
        exact track_same rfl rfl rfl (by decide)
      · obtain rfl := Option.some.inj hchar
        rcases hexponent with rfl | rfl <;> exact track_same rfl rfl rfl (by decide)
      · exact afterValue_track hchar
  | integer =>
      simp only [readChar] at hchar
      split_ifs at hchar with hdigit hpoint hexponent
      · obtain rfl := Option.some.inj hchar
        exact track_same rfl rfl rfl (isDigit_brackets hdigit)
      · obtain rfl := Option.some.inj hchar
        subst hpoint
        exact track_same rfl rfl rfl (by decide)
      · obtain rfl := Option.some.inj hchar
        rcases hexponent with rfl | rfl <;> exact track_same rfl rfl rfl (by decide)
      · exact afterValue_track hchar
  | point =>
      simp only [readChar] at hchar
      split_ifs at hchar with hdigit
      obtain rfl := Option.some.inj hchar
      exact track_same rfl rfl rfl (isDigit_brackets hdigit)
  | fraction =>
      simp only [readChar] at hchar
      split_ifs at hchar with hdigit hexponent
      · obtain rfl := Option.some.inj hchar
        exact track_same rfl rfl rfl (isDigit_brackets hdigit)
      · obtain rfl := Option.some.inj hchar
        rcases hexponent with rfl | rfl <;> exact track_same rfl rfl rfl (by decide)
      · exact afterValue_track hchar
  | exponent =>
      simp only [readChar] at hchar
      split_ifs at hchar with hsign hdigit
      · obtain rfl := Option.some.inj hchar
        rcases hsign with rfl | rfl <;> exact track_same rfl rfl rfl (by decide)
      · obtain rfl := Option.some.inj hchar
        exact track_same rfl rfl rfl (isDigit_brackets hdigit)
  | exponentSign =>
      simp only [readChar] at hchar
      split_ifs at hchar with hdigit
      obtain rfl := Option.some.inj hchar
      exact track_same rfl rfl rfl (isDigit_brackets hdigit)
  | exponentDigits =>
      simp only [readChar] at hchar
      split_ifs at hchar with hdigit
      · obtain rfl := Option.some.inj hchar
        exact track_same rfl rfl rfl (isDigit_brackets hdigit)
      · exact afterValue_track hchar

/-- Outside strings there is no backslash. -/
theorem readChar_backslash {reader : Reader} (hletters : reader.mode.Lettered)
    (hplain : reader.mode.quoting = .plain) : readChar reader '\\' = none := by
  obtain ⟨mode, stack⟩ := reader
  have hafter : afterValue stack '\\' = none := by
    unfold afterValue
    rw [if_neg (by decide)]
    cases stack with
    | nil => rfl
    | cons frame outer => cases frame <;> rfl
  have hbegin : beginValue stack '\\' = none := by
    simp [beginValue, isDigit]
  cases mode with
  | string isKey => cases hplain
  | escape isKey => cases hplain
  | unicode isKey left => cases hplain
  | literal rest =>
      cases rest with
      | nil => rfl
      | cons expected rest =>
          have hletter := hletters expected List.mem_cons_self
          have hne : '\\' ≠ expected := by
            rintro rfl
            revert hletter
            decide
          simp [readChar, hne]
  | _ => simp [readChar, hafter, hbegin, isSpace, isDigit]

theorem read_track {reader last : Reader} {text : List Char} (hletters : reader.mode.Lettered)
    (hread : read reader text = some last) :
    last.mode.Lettered ∧ last.track = text.foldl trackChar reader.track := by
  induction text generalizing reader with
  | nil =>
      obtain rfl := Option.some.inj hread
      exact ⟨hletters, rfl⟩
  | cons c text ih =>
      rw [read_cons] at hread
      obtain ⟨next, hchar, hrest⟩ := Option.bind_eq_some_iff.1 hread
      obtain ⟨hlast, htrack⟩ := ih (readChar_lettered hletters hchar) hrest
      exact ⟨hlast, by rw [htrack, readChar_track hletters hchar, List.foldl_cons]⟩

/-! ## Two readers of one text -/

theorem trackChar_shift (quoting : Quoting) (depth shift : Int) (c : Char) :
    trackChar (quoting, depth + shift) c =
      ((trackChar (quoting, depth) c).1, (trackChar (quoting, depth) c).2 + shift) := by
  cases quoting with
  | plain =>
      simp only [trackChar]
      split_ifs
      · rfl
      · exact Prod.ext rfl (by simp; omega)
      · exact Prod.ext rfl (by simp; omega)
      · rfl
  | quoted =>
      simp only [trackChar]
      split_ifs <;> rfl
  | escaped =>
      simp only [trackChar]
      split_ifs <;> rfl
  | unicode left =>
      simp only [trackChar]
      split_ifs <;> rfl

/-- From the same quoting, the depths keep their difference. -/
theorem foldl_trackChar_shift (text : List Char) (quoting : Quoting) (depth shift : Int) :
    text.foldl trackChar (quoting, depth + shift) =
      ((text.foldl trackChar (quoting, depth)).1,
        (text.foldl trackChar (quoting, depth)).2 + shift) := by
  induction text generalizing quoting depth with
  | nil => rfl
  | cons c text ih =>
      rw [List.foldl_cons, List.foldl_cons, trackChar_shift]
      exact ih _ _

/-- One reader is inside a string and the other is not; the one that begins in an escape by its
code counts as inside. -/
def Opposite (left right : Reader) : Prop :=
  ((left.mode.quoting = .quoted ∨ ∃ n, left.mode.quoting = .unicode n)
      ∧ right.mode.quoting = .plain)
    ∨ (left.mode.quoting = .plain ∧ right.mode.quoting = .quoted)

theorem quoting_of_track {reader next : Reader} {c : Char} (hletters : reader.mode.Lettered)
    (hchar : readChar reader c = some next) :
    next.mode.quoting = (trackChar (reader.mode.quoting, reader.stack.length) c).1 :=
  congrArg Prod.fst (readChar_track hletters hchar)

theorem quoting_after_quoted {reader next : Reader} {c : Char} (hletters : reader.mode.Lettered)
    (hquoted : reader.mode.quoting = .quoted) (hquote : c ≠ '"') (hescape : c ≠ '\\')
    (hchar : readChar reader c = some next) : next.mode.quoting = .quoted := by
  rw [quoting_of_track hletters hchar, hquoted]
  simp [trackChar, hquote, hescape]

theorem quoting_after_plain {reader next : Reader} {c : Char} (hletters : reader.mode.Lettered)
    (hplain : reader.mode.quoting = .plain) (hquote : c ≠ '"')
    (hchar : readChar reader c = some next) : next.mode.quoting = .plain := by
  rw [quoting_of_track hletters hchar, hplain]
  simp only [trackChar, if_neg hquote]
  split_ifs <;> rfl

theorem quoting_after_unicode {reader next : Reader} {c : Char} {n : Nat}
    (hletters : reader.mode.Lettered) (hunicode : reader.mode.quoting = .unicode n)
    (hchar : readChar reader c = some next) :
    c ≠ '"' ∧ (next.mode.quoting = .quoted ∨ ∃ n, next.mode.quoting = .unicode n) := by
  constructor
  · rintro rfl
    obtain ⟨mode, stack⟩ := reader
    cases mode with
    | unicode isKey left => simp [readChar, isHexDigit, isDigit] at hchar
    | _ => cases hunicode
  · rw [quoting_of_track hletters hchar, hunicode]
    by_cases hlast : n ≤ 1
    · simp [trackChar, hlast]
    · simp [trackChar, hlast]

theorem Opposite.step {left right left' right' : Reader} {c : Char}
    (hleft : left.mode.Lettered) (hright : right.mode.Lettered) (hopposite : Opposite left right)
    (hleftChar : readChar left c = some left') (hrightChar : readChar right c = some right') :
    Opposite left' right' := by
  rcases hopposite with ⟨hquoted | ⟨n, hunicode⟩, hplain⟩ | ⟨hplain, hquoted⟩
  · by_cases hquote : c = '"'
    · right
      rw [quoting_of_track hleft hleftChar, quoting_of_track hright hrightChar, hquoted, hplain]
      simp [trackChar, hquote]
    · by_cases hescape : c = '\\'
      · subst hescape
        rw [readChar_backslash hright hplain] at hrightChar
        cases hrightChar
      · exact Or.inl ⟨Or.inl (quoting_after_quoted hleft hquoted hquote hescape hleftChar),
          quoting_after_plain hright hplain hquote hrightChar⟩
  · obtain ⟨hquote, hinside⟩ := quoting_after_unicode hleft hunicode hleftChar
    exact Or.inl ⟨hinside, quoting_after_plain hright hplain hquote hrightChar⟩
  · by_cases hquote : c = '"'
    · left
      rw [quoting_of_track hleft hleftChar, quoting_of_track hright hrightChar, hquoted, hplain]
      simp [trackChar, hquote]
    · by_cases hescape : c = '\\'
      · subst hescape
        rw [readChar_backslash hleft hplain] at hleftChar
        cases hleftChar
      · exact Or.inr ⟨quoting_after_plain hleft hplain hquote hleftChar,
          quoting_after_quoted hright hquoted hquote hescape hrightChar⟩

/-- Opposite readers stay opposite to the end of a text. -/
theorem Opposite.run {left right left' right' : Reader} {text : List Char}
    (hleft : left.mode.Lettered) (hright : right.mode.Lettered) (hopposite : Opposite left right)
    (hleftRead : read left text = some left') (hrightRead : read right text = some right') :
    Opposite left' right' := by
  induction text generalizing left right with
  | nil =>
      obtain rfl := Option.some.inj hleftRead
      obtain rfl := Option.some.inj hrightRead
      exact hopposite
  | cons c text ih =>
      rw [read_cons] at hleftRead hrightRead
      obtain ⟨nextLeft, hleftChar, hleftRest⟩ := Option.bind_eq_some_iff.1 hleftRead
      obtain ⟨nextRight, hrightChar, hrightRest⟩ := Option.bind_eq_some_iff.1 hrightRead
      exact ih (readChar_lettered hleft hleftChar) (readChar_lettered hright hrightChar)
        (hopposite.step hleft hright hleftChar hrightChar) hleftRest hrightRest

theorem quoting_of_endsValue {mode : Mode} (hends : mode.endsValue = true) :
    mode.quoting = .plain := by
  cases mode <;> first | rfl | cases hends

/-- Opposite readers do not both end a value. -/
theorem Opposite.not_both {left right : Reader} (hopposite : Opposite left right)
    (hleft : left.mode.endsValue = true) (hright : right.mode.endsValue = true) : False := by
  have hleftPlain := quoting_of_endsValue hleft
  have hrightPlain := quoting_of_endsValue hright
  rcases hopposite with ⟨hquoted | ⟨n, hunicode⟩, -⟩ | ⟨-, hquoted⟩
  · rw [hleftPlain] at hquoted
    cases hquoted
  · rw [hleftPlain] at hunicode
    cases hunicode
  · rw [hrightPlain] at hquoted
    cases hquoted

/-! ## Texts of objects -/

/-- A container is open, or the value is complete. -/
def Opened (reader : Reader) : Prop :=
  reader.stack ≠ [] ∨ reader.mode = .after

theorem afterValue_opened {stack : List Frame} {c : Char} {next : Reader}
    (hchar : afterValue stack c = some next) : Opened next := by
  unfold afterValue at hchar
  by_cases hspace : isSpace c = true
  · rw [if_pos hspace] at hchar
    obtain rfl := Option.some.inj hchar
    exact Or.inr rfl
  · rw [if_neg hspace] at hchar
    cases stack with
    | nil => cases hchar
    | cons frame outer =>
        cases frame <;>
          · dsimp only at hchar
            split_ifs at hchar
            all_goals obtain rfl := Option.some.inj hchar
            · exact Or.inl (List.cons_ne_nil _ _)
            · exact Or.inr rfl

theorem beginValue_opened {stack : List Frame} {c : Char} {next : Reader} (hopen : stack ≠ [])
    (hchar : beginValue stack c = some next) : Opened next := by
  unfold beginValue at hchar
  split_ifs at hchar
  all_goals
    obtain rfl := Option.some.inj hchar
    first
    | exact Or.inl hopen
    | exact Or.inl (List.cons_ne_nil _ _)

theorem Opened.step {reader next : Reader} {c : Char} (hopened : Opened reader)
    (hchar : readChar reader c = some next) : Opened next := by
  obtain ⟨mode, stack⟩ := reader
  cases mode with
  | after => exact afterValue_opened hchar
  | literal rest =>
      have hopen : stack ≠ [] := hopened.resolve_right (by simp)
      cases rest with
      | nil => cases hchar
      | cons expected rest =>
          simp only [readChar] at hchar
          split_ifs at hchar
          all_goals
            obtain rfl := Option.some.inj hchar
            exact Or.inl hopen
  | _ =>
      have hopen : stack ≠ [] := hopened.resolve_right (by simp)
      simp only [readChar] at hchar
      split_ifs at hchar
      all_goals
        first
        | exact beginValue_opened hopen hchar
        | exact afterValue_opened hchar
        | (obtain rfl := Option.some.inj hchar
           exact Or.inl hopen)

theorem Opened.run {reader last : Reader} {text : List Char} (hopened : Opened reader)
    (hread : read reader text = some last) : Opened last := by
  induction text generalizing reader with
  | nil =>
      obtain rfl := Option.some.inj hread
      exact hopened
  | cons c text ih =>
      rw [read_cons] at hread
      obtain ⟨next, hchar, hrest⟩ := Option.bind_eq_some_iff.1 hread
      exact ih (hopened.step hchar) hrest

/-- A JSON text whose value is an object. -/
structure ObjectText (text : List Char) : Prop where
  parses : parses text = true
  opens : ∃ spaces rest, (∀ c ∈ spaces, isSpace c = true) ∧ text = spaces ++ '{' :: rest

theorem read_of_parses {text : List Char} (hparses : parses text = true) :
    ∃ last, read .start text = some last ∧ last.mode.endsValue = true ∧ last.stack = [] := by
  unfold parses at hparses
  cases hread : read .start text with
  | none =>
      rw [hread] at hparses
      cases hparses
  | some last =>
      rw [hread] at hparses
      simp only [Bool.and_eq_true, List.isEmpty_iff] at hparses
      exact ⟨last, rfl, hparses.1, hparses.2⟩

theorem read_spaces {spaces : List Char} (hspaces : ∀ c ∈ spaces, isSpace c = true) :
    read .start spaces = some .start := by
  induction spaces with
  | nil => rfl
  | cons c spaces ih =>
      have hspace := hspaces c List.mem_cons_self
      rw [read_cons, show readChar .start c = some .start by simp [readChar, Reader.start, hspace],
        Option.bind_some]
      exact ih fun c hmem => hspaces c (List.mem_cons_of_mem _ hmem)

/-- After a complete value only spaces are read. -/
theorem spaces_of_read_after {text : List Char} {last : Reader}
    (hread : read ⟨.after, []⟩ text = some last) : ∀ c ∈ text, isSpace c = true := by
  induction text with
  | nil => simp
  | cons c text ih =>
      rw [read_cons] at hread
      obtain ⟨next, hchar, hrest⟩ := Option.bind_eq_some_iff.1 hread
      have hspace : isSpace c = true ∧ next = ⟨.after, []⟩ := by
        simp only [readChar, afterValue] at hchar
        split_ifs at hchar with hspace
        exact ⟨hspace, (Option.some.inj hchar).symm⟩
      rw [hspace.2] at hrest
      intro other hother
      rcases List.mem_cons.1 hother with rfl | hmem
      · exact hspace.1
      · exact ih hrest other hmem

theorem track_of_ended {last : Reader} (hends : last.mode.endsValue = true)
    (hstack : last.stack = []) : last.track = (.plain, 0) := by
  simp [Reader.track, quoting_of_endsValue hends, hstack]

/-- Two readers with one quoting that both end a value stand equally deep. -/
theorem depth_eq_zero {text : List Char} {quoting : Quoting} {depth : Int}
    (hdeep : text.foldl trackChar (quoting, depth) = (.plain, 0))
    (hfragment : text.foldl trackChar (quoting, 0) = (.plain, 0)) : depth = 0 := by
  have hshift := foldl_trackChar_shift text quoting 0 depth
  rw [Int.zero_add, hdeep, hfragment] at hshift
  have hdepth := congrArg Prod.snd hshift
  simpa using hdepth.symm

theorem start_lettered : Reader.start.mode.Lettered := trivial

/-- A reader inside an object cannot read to the end what also is a JSON text. -/
theorem not_parses_of_opened {reader last : Reader} {rest : List Char}
    (hletters : reader.mode.Lettered) (hopened : Opened reader)
    (hread : read reader rest = some last) (hends : last.mode.endsValue = true)
    (hstack : last.stack = []) (hrest : parses rest = true) : False := by
  obtain ⟨last', hread', hends', hstack'⟩ := read_of_parses hrest
  have htrack := (read_track hletters hread).2
  have htrack' := (read_track start_lettered hread').2
  rw [track_of_ended hends hstack] at htrack
  rw [track_of_ended hends' hstack'] at htrack'
  cases hquoting : reader.mode.quoting with
  | plain =>
      have hdeep : rest.foldl trackChar (.plain, (reader.stack.length : Int)) = (.plain, 0) := by
        rw [htrack, Reader.track, hquoting]
      have hdepth := depth_eq_zero hdeep htrack'.symm
      have hempty : reader.stack = [] := by simpa using hdepth
      have hafter : reader.mode = .after := hopened.resolve_left fun h => h hempty
      obtain rfl : reader = ⟨.after, []⟩ := by
        rw [← hafter, ← hempty]
      rw [read_spaces (spaces_of_read_after hread)] at hread'
      obtain rfl := Option.some.inj hread'
      cases hends'
  | quoted =>
      have hopposite : Opposite reader .start := Or.inl ⟨Or.inl hquoting, rfl⟩
      exact (hopposite.run hletters start_lettered hread hread').not_both hends hends'
  | unicode n =>
      have hopposite : Opposite reader .start := Or.inl ⟨Or.inr ⟨n, hquoting⟩, rfl⟩
      exact (hopposite.run hletters start_lettered hread hread').not_both hends hends'
  | escaped =>
      cases rest with
      | nil =>
          obtain rfl := Option.some.inj hread
          rw [quoting_of_endsValue hends] at hquoting
          cases hquoting
      | cons c rest =>
          by_cases hquote : c = '"'
          · -- the escaped quote begins a string of the fragment, so both are in strings
            subst hquote
            have hdeep : rest.foldl trackChar (.quoted, (reader.stack.length : Int)) =
                (.plain, 0) := by
              rw [htrack, Reader.track, hquoting]
              rfl
            have hfragment : rest.foldl trackChar (.quoted, 0) = (.plain, 0) := htrack'.symm
            have hdepth := depth_eq_zero hdeep hfragment
            have hempty : reader.stack = [] := by simpa using hdepth
            have hafter : reader.mode = .after := hopened.resolve_left fun h => h hempty
            rw [hafter] at hquoting
            cases hquoting
          · rw [read_cons] at hread hread'
            obtain ⟨next, hchar, hnext⟩ := Option.bind_eq_some_iff.1 hread
            obtain ⟨next', hchar', hnext'⟩ := Option.bind_eq_some_iff.1 hread'
            have hinside : next.mode.quoting = .quoted ∨ ∃ n, next.mode.quoting = .unicode n := by
              rw [quoting_of_track hletters hchar, hquoting]
              by_cases hunicode : c = 'u'
              · simp [trackChar, hunicode]
              · simp [trackChar, hunicode]
            have hopposite : Opposite next next' :=
              Or.inl ⟨hinside, quoting_after_plain start_lettered rfl hquote hchar'⟩
            exact (hopposite.run (readChar_lettered hletters hchar)
              (readChar_lettered start_lettered hchar') hnext hnext').not_both hends hends'

/-- Where the end of an object's text is a JSON text, only spaces stand before it. -/
theorem spaces_of_parses_end {before rest : List Char} (hobject : ObjectText (before ++ rest))
    (hrest : parses rest = true) : ∀ c ∈ before, isSpace c = true := by
  obtain ⟨spaces, tail, hspaces, hsplit⟩ := hobject.opens
  rcases List.append_eq_append_iff.1 hsplit with ⟨more, hmore, -⟩ | ⟨more, hbefore, hmore⟩
  · exact fun c hmem => hspaces c (hmore ▸ List.mem_append_left more hmem)
  · cases more with
    | nil =>
        rw [List.append_nil] at hbefore
        exact hbefore ▸ hspaces
    | cons c more =>
        exfalso
        obtain ⟨rfl, -⟩ := List.cons.inj hmore
        obtain ⟨last, hread, hends, hstack⟩ := read_of_parses hobject.parses
        rw [read_append] at hread
        obtain ⟨reader, hreader, hlast⟩ := Option.bind_eq_some_iff.1 hread
        have hopened : Opened reader := by
          rw [hbefore, read_append, read_spaces hspaces] at hreader
          have hbegun : Opened ⟨.firstMember, [.object]⟩ := Or.inl (List.cons_ne_nil _ _)
          exact hbegun.run hreader
        exact not_parses_of_opened (read_track start_lettered hreader).1 hopened hlast hends hstack
          hrest

/-- The end of an object's text is read as the object or not at all. -/
theorem parse_end {before rest : List Char} (hobject : ObjectText (before ++ rest)) :
    parse rest = none ∨ parse rest = parse (before ++ rest) := by
  cases hparse : parse rest with
  | none => exact Or.inl rfl
  | some value =>
      have hparses : parses rest = true := by rw [← parse_isSome, hparse]; rfl
      exact Or.inr (by rw [parse_spaces (spaces_of_parses_end hobject hparses), hparse])

end SimulatorBroker.Text
