import Mathlib.Data.List.Infix
import Mathlib.Tactic.Common

/-!
# JSON texts

A reader of JSON texts, one character at a time over a stack of open arrays and
objects, and the text that a value is written as.  A text of an object is read to
its end, and no proper prefix of it is a JSON text.
-/

namespace SimulatorBroker.Text

/-! ## Reading -/

inductive Frame where
  | array
  | object
  deriving DecidableEq, Repr

/-- Where a reader stands; `isKey` tells the name of a member from a value. -/
inductive Mode where
  | value
  | firstElement
  | firstMember
  | key
  | colon
  | after
  | string (isKey : Bool)
  | escape (isKey : Bool)
  | unicode (isKey : Bool) (left : Nat)
  | literal (rest : List Char)
  | minus
  | zero
  | integer
  | point
  | fraction
  | exponent
  | exponentSign
  | exponentDigits
  deriving DecidableEq, Repr

structure Reader where
  mode : Mode
  stack : List Frame
  deriving DecidableEq, Repr

def isSpace (c : Char) : Bool :=
  c = ' ' || c = '\t' || c = '\n' || c = '\r'

def isDigit (c : Char) : Bool :=
  decide (0x30 ≤ c.toNat) && decide (c.toNat ≤ 0x39)

def isHexDigit (c : Char) : Bool :=
  isDigit c || decide (0x41 ≤ c.toNat) && decide (c.toNat ≤ 0x46)
    || decide (0x61 ≤ c.toNat) && decide (c.toNat ≤ 0x66)

/-- The first character of a value. -/
def beginValue (stack : List Frame) (c : Char) : Option Reader :=
  if c = '{' then some ⟨.firstMember, .object :: stack⟩
  else if c = '[' then some ⟨.firstElement, .array :: stack⟩
  else if c = '"' then some ⟨.string false, stack⟩
  else if c = '-' then some ⟨.minus, stack⟩
  else if c = '0' then some ⟨.zero, stack⟩
  else if isDigit c then some ⟨.integer, stack⟩
  else if c = 't' then some ⟨.literal ['r', 'u', 'e'], stack⟩
  else if c = 'f' then some ⟨.literal ['a', 'l', 's', 'e'], stack⟩
  else if c = 'n' then some ⟨.literal ['u', 'l', 'l'], stack⟩
  else none

/-- A character after a complete value. -/
def afterValue (stack : List Frame) (c : Char) : Option Reader :=
  if isSpace c then some ⟨.after, stack⟩
  else match stack with
    | .array :: outer =>
        if c = ',' then some ⟨.value, stack⟩
        else if c = ']' then some ⟨.after, outer⟩
        else none
    | .object :: outer =>
        if c = ',' then some ⟨.key, stack⟩
        else if c = '}' then some ⟨.after, outer⟩
        else none
    | [] => none

def isEscape (c : Char) : Bool :=
  c = '"' || c = '\\' || c = '/' || c = 'b' || c = 'f' || c = 'n' || c = 'r' || c = 't'

/-- One character. -/
def readChar (reader : Reader) (c : Char) : Option Reader :=
  let stack := reader.stack
  match reader.mode with
  | .value => if isSpace c then some reader else beginValue stack c
  | .firstElement =>
      if isSpace c then some reader
      else if c = ']' then afterValue stack c
      else beginValue stack c
  | .firstMember =>
      if isSpace c then some reader
      else if c = '"' then some ⟨.string true, stack⟩
      else if c = '}' then afterValue stack c
      else none
  | .key =>
      if isSpace c then some reader
      else if c = '"' then some ⟨.string true, stack⟩
      else none
  | .colon =>
      if isSpace c then some reader
      else if c = ':' then some ⟨.value, stack⟩
      else none
  | .after => afterValue stack c
  | .string isKey =>
      if c = '"' then some ⟨if isKey then .colon else .after, stack⟩
      else if c = '\\' then some ⟨.escape isKey, stack⟩
      else if c.toNat < 0x20 then none
      else some reader
  | .escape isKey =>
      if c = 'u' then some ⟨.unicode isKey 4, stack⟩
      else if isEscape c then some ⟨.string isKey, stack⟩
      else none
  | .unicode isKey left =>
      if isHexDigit c then
        some ⟨if left ≤ 1 then .string isKey else .unicode isKey (left - 1), stack⟩
      else none
  | .literal (next :: rest) =>
      if c = next then some ⟨if rest = [] then .after else .literal rest, stack⟩ else none
  | .literal [] => none
  | .minus =>
      if c = '0' then some ⟨.zero, stack⟩
      else if isDigit c then some ⟨.integer, stack⟩
      else none
  | .zero =>
      if c = '.' then some ⟨.point, stack⟩
      else if c = 'e' ∨ c = 'E' then some ⟨.exponent, stack⟩
      else afterValue stack c
  | .integer =>
      if isDigit c then some reader
      else if c = '.' then some ⟨.point, stack⟩
      else if c = 'e' ∨ c = 'E' then some ⟨.exponent, stack⟩
      else afterValue stack c
  | .point => if isDigit c then some ⟨.fraction, stack⟩ else none
  | .fraction =>
      if isDigit c then some reader
      else if c = 'e' ∨ c = 'E' then some ⟨.exponent, stack⟩
      else afterValue stack c
  | .exponent =>
      if c = '+' ∨ c = '-' then some ⟨.exponentSign, stack⟩
      else if isDigit c then some ⟨.exponentDigits, stack⟩
      else none
  | .exponentSign => if isDigit c then some ⟨.exponentDigits, stack⟩ else none
  | .exponentDigits => if isDigit c then some reader else afterValue stack c

/-- A value ends here, unless more digits follow. -/
def Mode.endsValue : Mode → Bool
  | .after | .zero | .integer | .fraction | .exponentDigits => true
  | _ => false

def Reader.start : Reader := ⟨.value, []⟩

def read (reader : Reader) (text : List Char) : Option Reader :=
  text.foldlM readChar reader

/-- `JSON.parse(text)` does not throw. -/
def parses (text : List Char) : Bool :=
  match read .start text with
  | some reader => reader.mode.endsValue && reader.stack.isEmpty
  | none => false

/-! ## Writing -/

/-- A code point of a string: a character, or half of a surrogate pair alone. -/
inductive CodePoint where
  | scalar (c : Char)
  | surrogate (index : Fin 0x800)
  deriving DecidableEq, Repr

/-- A number in the form that it is written in; `integer` is `none` for zero. -/
structure Numeral where
  negative : Bool := false
  integer : Option (Fin 9 × List (Fin 10)) := none
  fraction : List (Fin 10) := []
  exponent : Option (Bool × Fin 10 × List (Fin 10)) := none
  deriving DecidableEq, Repr

mutual

inductive Json where
  | null
  | bool (value : Bool)
  | number (numeral : Numeral)
  | string (content : List CodePoint)
  | array (elements : Elements)
  | object (members : Members)

inductive Elements where
  | nil
  | cons (element : Json) (rest : Elements)

inductive Members where
  | nil
  | cons (name : List CodePoint) (value : Json) (rest : Members)

end

def digit (d : Fin 10) : Char :=
  Char.ofNat (0x30 + d.val)

def digits (ds : List (Fin 10)) : List Char :=
  ds.map digit

def hexDigit (n : Nat) : Char :=
  if n < 10 then Char.ofNat (0x30 + n) else Char.ofNat (0x57 + n)

/-- `\uXXXX`. -/
def unicodeEscape (unit : Nat) : List Char :=
  ['\\', 'u', hexDigit (unit / 0x1000 % 0x10), hexDigit (unit / 0x100 % 0x10),
    hexDigit (unit / 0x10 % 0x10), hexDigit (unit % 0x10)]

def quoteCodePoint : CodePoint → List Char
  | .surrogate index => unicodeEscape (0xD800 + index.val)
  | .scalar c =>
      if c = '"' then ['\\', '"']
      else if c = '\\' then ['\\', '\\']
      else if c = '\x08' then ['\\', 'b']
      else if c = '\x0C' then ['\\', 'f']
      else if c = '\n' then ['\\', 'n']
      else if c = '\r' then ['\\', 'r']
      else if c = '\t' then ['\\', 't']
      else if c.toNat < 0x20 then unicodeEscape c.toNat
      else [c]

def quote (content : List CodePoint) : List Char :=
  '"' :: content.flatMap quoteCodePoint ++ ['"']

def Numeral.integerText (numeral : Numeral) : List Char :=
  match numeral.integer with
  | none => ['0']
  | some (first, rest) => digit first.succ :: digits rest

def Numeral.fractionText (numeral : Numeral) : List Char :=
  match numeral.fraction with
  | [] => []
  | d :: rest => '.' :: digit d :: digits rest

def Numeral.exponentText (numeral : Numeral) : List Char :=
  match numeral.exponent with
  | none => []
  | some (negative, d, rest) => 'e' :: (if negative then '-' else '+') :: digit d :: digits rest

def Numeral.text (numeral : Numeral) : List Char :=
  (if numeral.negative then ['-'] else []) ++ numeral.integerText ++ numeral.fractionText
    ++ numeral.exponentText

mutual

/-- `JSON.stringify(value)`. -/
def stringify : Json → List Char
  | .null => ['n', 'u', 'l', 'l']
  | .bool true => ['t', 'r', 'u', 'e']
  | .bool false => ['f', 'a', 'l', 's', 'e']
  | .number numeral => numeral.text
  | .string content => quote content
  | .array .nil => ['[', ']']
  | .array (.cons element rest) => '[' :: stringify element ++ stringifyElements rest ++ [']']
  | .object .nil => ['{', '}']
  | .object (.cons name value rest) =>
      '{' :: quote name ++ ':' :: stringify value ++ stringifyMembers rest ++ ['}']

def stringifyElements : Elements → List Char
  | .nil => []
  | .cons element rest => ',' :: stringify element ++ stringifyElements rest

def stringifyMembers : Members → List Char
  | .nil => []
  | .cons name value rest => ',' :: quote name ++ ':' :: stringify value ++ stringifyMembers rest

end

/-! ## Runs of the reader -/

@[simp] theorem read_nil (reader : Reader) : read reader [] = some reader := rfl

@[simp] theorem read_cons (reader : Reader) (c : Char) (text : List Char) :
    read reader (c :: text) = (readChar reader c).bind (read · text) := rfl

theorem read_append (reader : Reader) (left right : List Char) :
    read reader (left ++ right) = (read reader left).bind (read · right) :=
  List.foldlM_append

/-- Reading `text` leads from `first` to `last`, and what is open in `stack`
stays open all along. -/
structure Passes (stack : List Frame) (first : Reader) (text : List Char) (last : Reader) :
    Prop where
  reads : read first text = some last
  keeps : ∀ cut, cut <+: text → ∃ reached, read first cut = some reached ∧ stack <:+ reached.stack

namespace Passes

variable {stack : List Frame} {first middle last : Reader} {text left right : List Char}

theorem refl (hopen : stack <:+ first.stack) : Passes stack first [] first where
  reads := rfl
  keeps := by
    intro cut hcut
    rw [List.prefix_nil.mp hcut]
    exact ⟨first, rfl, hopen⟩

theorem cons {c : Char} (hchar : readChar first c = some middle) (hopen : stack <:+ first.stack)
    (hrest : Passes stack middle text last) : Passes stack first (c :: text) last where
  reads := by rw [read_cons, hchar, Option.bind_some, hrest.reads]
  keeps := by
    intro cut hcut
    obtain rfl | ⟨rest, rfl, hprefix⟩ := List.prefix_cons_iff.mp hcut
    · exact ⟨first, rfl, hopen⟩
    · obtain ⟨reached, hreads, hkept⟩ := hrest.keeps rest hprefix
      exact ⟨reached, by rw [read_cons, hchar, Option.bind_some, hreads], hkept⟩

theorem single {c : Char} (hchar : readChar first c = some last) (hopen : stack <:+ first.stack)
    (hlast : stack <:+ last.stack) : Passes stack first [c] last :=
  cons hchar hopen (refl hlast)

theorem append (hleft : Passes stack first left middle) (hright : Passes stack middle right last) :
    Passes stack first (left ++ right) last where
  reads := by rw [read_append, hleft.reads, Option.bind_some, hright.reads]
  keeps := by
    intro cut hcut
    obtain hshort | ⟨rest, rfl⟩ := List.prefix_or_prefix_of_prefix hcut (List.prefix_append _ _)
    · exact hleft.keeps cut hshort
    · have hprefix : rest <+: right := (List.prefix_append_right_inj left).mp hcut
      obtain ⟨reached, hreads, hkept⟩ := hright.keeps rest hprefix
      exact ⟨reached, by rw [read_append, hleft.reads, Option.bind_some, hreads], hkept⟩

/-- Fewer open frames stay open as well. -/
theorem weaken {outer : List Frame} (hpasses : Passes stack first text last)
    (houter : outer <:+ stack) : Passes outer first text last where
  reads := hpasses.reads
  keeps := by
    intro cut hcut
    obtain ⟨reached, hreads, hkept⟩ := hpasses.keeps cut hcut
    exact ⟨reached, hreads, houter.trans hkept⟩

end Passes

/-! ## The text of a value is read to its end -/

theorem isDigit_digit : ∀ d : Fin 10, isDigit (digit d) = true := by
  decide

theorem isHexDigit_hexDigit {n : Nat} (hbound : n < 0x10) : isHexDigit (hexDigit n) = true :=
  (by decide : ∀ n : Fin 0x10, isHexDigit (hexDigit n.val) = true) ⟨n, hbound⟩

/-- A value has been read and nothing has been closed. -/
def Ended (stack : List Frame) (last : Reader) : Prop :=
  last.stack = stack ∧ last.mode.endsValue = true

/-- What may follow a value closes it, whatever the value is. -/
theorem Ended.readChar {stack : List Frame} {last : Reader} (hended : Ended stack last) {c : Char}
    (hc : c = ',' ∨ c = ']' ∨ c = '}') : readChar last c = afterValue stack c := by
  obtain ⟨mode, frames⟩ := last
  obtain ⟨rfl, hmode⟩ := hended
  have hplain : isDigit c = false ∧ c ≠ '.' ∧ c ≠ 'e' ∧ c ≠ 'E' := by
    obtain rfl | rfl | rfl := hc
    all_goals exact ⟨by decide, by decide, by decide, by decide⟩
  obtain ⟨hdigit, hpoint, hlower, hupper⟩ := hplain
  cases mode with
  | after => rfl
  | zero => simp [Text.readChar, hpoint, hlower, hupper]
  | integer => simp [Text.readChar, hdigit, hpoint, hlower, hupper]
  | fraction => simp [Text.readChar, hdigit, hlower, hupper]
  | exponentDigits => simp [Text.readChar, hdigit]
  | _ => cases hmode

section Texts

variable (stack : List Frame)

/-- Digits after a first one keep the mode. -/
theorem passes_digits {mode : Mode}
    (hmode : mode = .integer ∨ mode = .fraction ∨ mode = .exponentDigits) (ds : List (Fin 10)) :
    Passes stack ⟨mode, stack⟩ (digits ds) ⟨mode, stack⟩ := by
  induction ds with
  | nil => exact Passes.refl (List.suffix_refl _)
  | cons d ds ih =>
      refine Passes.cons ?_ (List.suffix_refl _) ih
      obtain rfl | rfl | rfl := hmode
      all_goals simp [readChar, isDigit_digit]

theorem passes_exponent {mode : Mode}
    (hmode : mode = .zero ∨ mode = .integer ∨ mode = .fraction) (numeral : Numeral) :
    ∃ last, Passes stack ⟨mode, stack⟩ numeral.exponentText last ∧ Ended stack last := by
  unfold Numeral.exponentText
  cases numeral.exponent with
  | none =>
      refine ⟨_, Passes.refl (List.suffix_refl _), rfl, ?_⟩
      obtain rfl | rfl | rfl := hmode
      all_goals rfl
  | some exponent =>
      obtain ⟨negative, d, rest⟩ := exponent
      have hbegin : readChar ⟨mode, stack⟩ 'e' = some ⟨.exponent, stack⟩ := by
        obtain rfl | rfl | rfl := hmode
        all_goals rfl
      have hsign : readChar ⟨.exponent, stack⟩ (if negative then '-' else '+') =
          some ⟨.exponentSign, stack⟩ := by
        cases negative
        all_goals rfl
      have hdigit : readChar ⟨.exponentSign, stack⟩ (digit d) =
          some ⟨.exponentDigits, stack⟩ := by
        simp [readChar, isDigit_digit]
      exact ⟨_, .cons hbegin (List.suffix_refl _) (.cons hsign (List.suffix_refl _)
        (.cons hdigit (List.suffix_refl _) (passes_digits stack (.inr (.inr rfl)) rest))),
        rfl, rfl⟩

theorem passes_fraction {mode : Mode} (hmode : mode = .zero ∨ mode = .integer)
    (numeral : Numeral) :
    ∃ last, Passes stack ⟨mode, stack⟩ (numeral.fractionText ++ numeral.exponentText) last ∧
      Ended stack last := by
  cases hfraction : numeral.fraction with
  | nil =>
      rw [show numeral.fractionText = [] by simp [Numeral.fractionText, hfraction],
        List.nil_append]
      exact passes_exponent stack (hmode.imp_right .inl) numeral
  | cons d rest =>
      obtain ⟨last, hexponent, hended⟩ := passes_exponent stack (.inr (.inr rfl)) numeral
      have hpoint : readChar ⟨mode, stack⟩ '.' = some ⟨.point, stack⟩ := by
        obtain rfl | rfl := hmode
        all_goals rfl
      have hdigit : readChar ⟨.point, stack⟩ (digit d) = some ⟨.fraction, stack⟩ := by
        simp [readChar, isDigit_digit]
      have hfirst : Passes stack ⟨mode, stack⟩ numeral.fractionText ⟨.fraction, stack⟩ := by
        rw [show numeral.fractionText = '.' :: digit d :: digits rest by
          simp [Numeral.fractionText, hfraction]]
        exact .cons hpoint (List.suffix_refl _) (.cons hdigit (List.suffix_refl _)
          (passes_digits stack (.inr (.inl rfl)) rest))
      exact ⟨last, hfirst.append hexponent, hended⟩

theorem beginValue_digit (d : Fin 9) :
    beginValue stack (digit d.succ) = some ⟨.integer, stack⟩ := by
  have hplain : ∀ d : Fin 9, digit d.succ ≠ '{' ∧ digit d.succ ≠ '[' ∧ digit d.succ ≠ '"' ∧
      digit d.succ ≠ '-' ∧ digit d.succ ≠ '0' := by decide
  obtain ⟨hbrace, hbracket, hquote, hminus, hzero⟩ := hplain d
  simp [beginValue, hbrace, hbracket, hquote, hminus, hzero, isDigit_digit]

/-- The integer part, from a value's start or after the minus sign. -/
theorem passes_integer {mode : Mode} (hmode : mode = .value ∨ mode = .minus)
    (numeral : Numeral) :
    ∃ reached, (reached = .zero ∨ reached = .integer) ∧
      Passes stack ⟨mode, stack⟩ numeral.integerText ⟨reached, stack⟩ := by
  unfold Numeral.integerText
  cases numeral.integer with
  | none =>
      refine ⟨.zero, .inl rfl, Passes.single ?_ (List.suffix_refl _) (List.suffix_refl _)⟩
      obtain rfl | rfl := hmode
      all_goals rfl
  | some parts =>
      obtain ⟨first, rest⟩ := parts
      refine ⟨.integer, .inr rfl, Passes.cons ?_ (List.suffix_refl _)
        (passes_digits stack (.inl rfl) rest)⟩
      have hplain : ∀ d : Fin 9, isSpace (digit d.succ) = false ∧ digit d.succ ≠ '0' := by decide
      obtain rfl | rfl := hmode
      · simp [readChar, (hplain first).1, beginValue_digit]
      · simp [readChar, (hplain first).2, isDigit_digit]

theorem passes_numeral (numeral : Numeral) :
    ∃ last, Passes stack ⟨.value, stack⟩ numeral.text last ∧ Ended stack last := by
  unfold Numeral.text
  rw [List.append_assoc, List.append_assoc]
  cases numeral.negative with
  | false =>
      obtain ⟨reached, hreached, hinteger⟩ := passes_integer stack (.inl rfl) numeral
      obtain ⟨last, hrest, hended⟩ := passes_fraction stack hreached numeral
      exact ⟨last, hinteger.append hrest, hended⟩
  | true =>
      obtain ⟨reached, hreached, hinteger⟩ := passes_integer stack (.inr rfl) numeral
      obtain ⟨last, hrest, hended⟩ := passes_fraction stack hreached numeral
      exact ⟨last, .cons rfl (List.suffix_refl _) (hinteger.append hrest), hended⟩

theorem passes_unicodeEscape (isKey : Bool) (unit : Nat) :
    Passes stack ⟨.string isKey, stack⟩ (unicodeEscape unit) ⟨.string isKey, stack⟩ := by
  have hhex : ∀ left n, n < 0x10 → readChar ⟨.unicode isKey left, stack⟩ (hexDigit n) =
      some ⟨if left ≤ 1 then .string isKey else .unicode isKey (left - 1), stack⟩ := by
    intro left n hbound
    simp [readChar, isHexDigit_hexDigit hbound]
  have hopen := List.suffix_refl stack
  exact .cons rfl hopen (.cons rfl hopen
    (.cons (hhex 4 _ (Nat.mod_lt _ (by decide))) hopen
    (.cons (hhex 3 _ (Nat.mod_lt _ (by decide))) hopen
    (.cons (hhex 2 _ (Nat.mod_lt _ (by decide))) hopen
    (.single (hhex 1 _ (Nat.mod_lt _ (by decide))) hopen hopen)))))

theorem passes_quoteCodePoint (isKey : Bool) (point : CodePoint) :
    Passes stack ⟨.string isKey, stack⟩ (quoteCodePoint point) ⟨.string isKey, stack⟩ := by
  have hopen := List.suffix_refl stack
  cases point with
  | surrogate index => exact passes_unicodeEscape stack isKey _
  | scalar c =>
      simp only [quoteCodePoint]
      split_ifs with hquote hbackslash _ _ _ _ _ hcontrol
      -- the short escapes are two characters each
      any_goals exact .cons rfl hopen (.single rfl hopen hopen)
      · exact passes_unicodeEscape stack isKey _
      · refine .single ?_ hopen hopen
        simp [readChar, hquote, hbackslash, hcontrol]

/-- What a string's closing quote leads to. -/
theorem passes_quoted (isKey : Bool) (content : List CodePoint) :
    Passes stack ⟨.string isKey, stack⟩ (content.flatMap quoteCodePoint ++ ['"'])
      ⟨if isKey then .colon else .after, stack⟩ := by
  have hopen := List.suffix_refl stack
  have hcontent : Passes stack ⟨.string isKey, stack⟩ (content.flatMap quoteCodePoint)
      ⟨.string isKey, stack⟩ := by
    induction content with
    | nil => exact .refl hopen
    | cons point content ih =>
        rw [List.flatMap_cons]
        exact (passes_quoteCodePoint stack isKey point).append ih
  exact hcontent.append (.single rfl hopen hopen)

theorem passes_name {mode : Mode} (hmode : mode = .firstMember ∨ mode = .key)
    (name : List CodePoint) :
    Passes stack ⟨mode, stack⟩ (quote name) ⟨.colon, stack⟩ := by
  refine Passes.cons ?_ (List.suffix_refl _) (passes_quoted stack true name)
  obtain rfl | rfl := hmode
  all_goals rfl

end Texts

/-- A text begins with neither a space nor the end of an array. -/
theorem stringify_begins (value : Json) :
    ∃ c rest, stringify value = c :: rest ∧ isSpace c = false ∧ c ≠ ']' := by
  match value with
  | .null => exact ⟨'n', _, rfl, by decide, by decide⟩
  | .bool true => exact ⟨'t', _, rfl, by decide, by decide⟩
  | .bool false => exact ⟨'f', _, rfl, by decide, by decide⟩
  | .string content => exact ⟨'"', _, rfl, by decide, by decide⟩
  | .array .nil => exact ⟨'[', _, rfl, by decide, by decide⟩
  | .array (.cons _ _) => exact ⟨'[', _, rfl, by decide, by decide⟩
  | .object .nil => exact ⟨'\x7b', _, rfl, by decide, by decide⟩
  | .object (.cons _ _ _) => exact ⟨'\x7b', _, rfl, by decide, by decide⟩
  | .number numeral =>
      obtain ⟨negative, integer, fraction, exponent⟩ := numeral
      cases negative with
      | true => exact ⟨'-', _, rfl, by decide, by decide⟩
      | false =>
          cases integer with
          | none => exact ⟨'0', _, rfl, by decide, by decide⟩
          | some parts =>
              have hplain : ∀ d : Fin 9, isSpace (digit d.succ) = false ∧ digit d.succ ≠ ']' := by
                decide
              exact ⟨digit parts.1.succ, _, rfl, (hplain parts.1).1, (hplain parts.1).2⟩

/-- The first element of an array is read like any value. -/
theorem Passes.firstElement {stack : List Frame} {value : Json} {last : Reader}
    (hpasses : Passes stack ⟨.value, stack⟩ (stringify value) last) :
    Passes stack ⟨.firstElement, stack⟩ (stringify value) last := by
  obtain ⟨c, rest, htext, hspace, hclose⟩ := stringify_begins value
  rw [htext] at hpasses ⊢
  have hsame : readChar ⟨.firstElement, stack⟩ c = readChar ⟨.value, stack⟩ c := by
    simp [readChar, hspace, hclose]
  refine ⟨?_, ?_⟩
  · rw [read_cons, hsame]
    exact hpasses.reads
  · intro cut hcut
    obtain rfl | ⟨cut, rfl, -⟩ := List.prefix_cons_iff.mp hcut
    · exact ⟨_, rfl, List.suffix_refl _⟩
    · obtain ⟨reached, hreads, hkept⟩ := hpasses.keeps _ hcut
      exact ⟨reached, by rw [read_cons, hsame]; exact hreads, hkept⟩

/-- A member of an object, from its name to the end of its value. -/
theorem Passes.member {stack : List Frame} {value : Json} {last : Reader} {mode : Mode}
    (hmode : mode = .firstMember ∨ mode = .key) (name : List CodePoint)
    (hpasses : Passes stack ⟨.value, stack⟩ (stringify value) last) :
    Passes stack ⟨mode, stack⟩ (quote name ++ ':' :: stringify value) last :=
  (passes_name stack hmode name).append (.cons rfl (List.suffix_refl _) hpasses)

mutual

/-- A value is read from its start to its end. -/
theorem passes_stringify (value : Json) (stack : List Frame) :
    ∃ last, Passes stack ⟨.value, stack⟩ (stringify value) last ∧ Ended stack last := by
  have hopen := List.suffix_refl stack
  match value with
  | .null => exact ⟨_, .cons rfl hopen (.cons rfl hopen (.cons rfl hopen (.single rfl hopen hopen))),
      rfl, rfl⟩
  | .bool true => exact ⟨_, .cons rfl hopen (.cons rfl hopen (.cons rfl hopen
      (.single rfl hopen hopen))), rfl, rfl⟩
  | .bool false => exact ⟨_, .cons rfl hopen (.cons rfl hopen (.cons rfl hopen (.cons rfl hopen
      (.single rfl hopen hopen)))), rfl, rfl⟩
  | .number numeral => exact passes_numeral stack numeral
  | .string content =>
      exact ⟨_, .cons rfl hopen (passes_quoted stack false content), rfl, rfl⟩
  | .array .nil =>
      exact ⟨⟨.after, stack⟩, .cons rfl hopen (.single rfl (List.suffix_cons _ _) hopen), rfl, rfl⟩
  | .array (.cons element rest) =>
      obtain ⟨middle, hfirst, hmiddle⟩ := passes_stringify element (.array :: stack)
      obtain ⟨last, hrest, hended⟩ := passes_stringifyElements rest stack middle hmiddle
      have hbody := (hfirst.firstElement.append hrest).weaken (List.suffix_cons _ _)
      have hclose : readChar last ']' = some ⟨.after, stack⟩ :=
        hended.readChar (.inr (.inl rfl))
      have hlast : stack <:+ last.stack := by
        rw [hended.1]
        exact List.suffix_cons _ _
      exact ⟨⟨.after, stack⟩, .cons rfl hopen (hbody.append (.single hclose hlast hopen)),
        rfl, rfl⟩
  | .object .nil =>
      exact ⟨⟨.after, stack⟩, .cons rfl hopen (.single rfl (List.suffix_cons _ _) hopen), rfl, rfl⟩
  | .object (.cons name value rest) =>
      obtain ⟨middle, hfirst, hmiddle⟩ := passes_stringify value (.object :: stack)
      obtain ⟨last, hrest, hended⟩ := passes_stringifyMembers rest stack middle hmiddle
      have hbody := ((hfirst.member (.inl rfl) name).append hrest).weaken (List.suffix_cons _ _)
      have hclose : readChar last '}' = some ⟨.after, stack⟩ :=
        hended.readChar (.inr (.inr rfl))
      have hlast : stack <:+ last.stack := by
        rw [hended.1]
        exact List.suffix_cons _ _
      refine ⟨⟨.after, stack⟩, .cons rfl hopen ?_, rfl, rfl⟩
      exact hbody.append (.single hclose hlast hopen)

theorem passes_stringifyElements (elements : Elements) (stack : List Frame) (first : Reader)
    (hfirst : Ended (.array :: stack) first) :
    ∃ last, Passes (.array :: stack) first (stringifyElements elements) last ∧
      Ended (.array :: stack) last := by
  have hopen : .array :: stack <:+ first.stack := by rw [hfirst.1]
  match elements with
  | .nil => exact ⟨first, .refl hopen, hfirst⟩
  | .cons element rest =>
      obtain ⟨middle, helement, hmiddle⟩ := passes_stringify element (.array :: stack)
      obtain ⟨last, hrest, hended⟩ := passes_stringifyElements rest stack middle hmiddle
      have hcomma : readChar first ',' = some ⟨.value, .array :: stack⟩ :=
        hfirst.readChar (.inl rfl)
      exact ⟨last, .cons hcomma hopen (helement.append hrest), hended⟩

theorem passes_stringifyMembers (members : Members) (stack : List Frame) (first : Reader)
    (hfirst : Ended (.object :: stack) first) :
    ∃ last, Passes (.object :: stack) first (stringifyMembers members) last ∧
      Ended (.object :: stack) last := by
  have hopen : .object :: stack <:+ first.stack := by rw [hfirst.1]
  match members with
  | .nil => exact ⟨first, .refl hopen, hfirst⟩
  | .cons name value rest =>
      obtain ⟨middle, hvalue, hmiddle⟩ := passes_stringify value (.object :: stack)
      obtain ⟨last, hrest, hended⟩ := passes_stringifyMembers rest stack middle hmiddle
      have hcomma : readChar first ',' = some ⟨.key, .object :: stack⟩ :=
        hfirst.readChar (.inl rfl)
      exact ⟨last, .cons hcomma hopen ((hvalue.member (.inr rfl) name).append hrest), hended⟩

end

/-! ## Objects and their prefixes -/

/-- What an object's text holds between its braces. -/
theorem object_text (members : Members) :
    ∃ body last, stringify (.object members) = '\x7b' :: body ++ ['\x7d'] ∧
      Passes [.object] ⟨.firstMember, [.object]⟩ body last ∧ readChar last '\x7d' = some ⟨.after, []⟩ := by
  cases members with
  | nil => exact ⟨[], _, rfl, .refl (List.suffix_refl _), rfl⟩
  | cons name value rest =>
      obtain ⟨middle, hfirst, hmiddle⟩ := passes_stringify value [.object]
      obtain ⟨last, hrest, hended⟩ := passes_stringifyMembers rest [] middle hmiddle
      exact ⟨_, last, rfl, (hfirst.member (.inl rfl) name).append hrest,
        hended.readChar (.inr (.inr rfl))⟩

/-- The text of an object is a JSON text. -/
theorem parses_object (members : Members) : parses (stringify (.object members)) = true := by
  obtain ⟨body, last, htext, hpasses, hclose⟩ := object_text members
  have hread : read .start (stringify (.object members)) = some ⟨.after, []⟩ := by
    rw [htext, List.cons_append, read_cons]
    change read ⟨.firstMember, [.object]⟩ (body ++ _) = _
    rw [read_append, hpasses.reads, Option.bind_some, read_cons, hclose]
    rfl
  simp only [parses, hread]
  rfl

/-- A proper prefix of an object's text leaves the object open. -/
theorem read_object_cut {members : Members} {cut : List Char}
    (hcut : cut <+: stringify (.object members)) (hproper : cut ≠ stringify (.object members))
    (hsome : cut ≠ []) :
    ∃ reached, read .start cut = some reached ∧ [.object] <:+ reached.stack := by
  obtain ⟨body, last, htext, hpasses, hclose⟩ := object_text members
  rw [htext] at hcut hproper
  have hshort : cut <+: '\x7b' :: body :=
    (List.prefix_concat_iff.mp hcut).resolve_left hproper
  obtain rfl | ⟨inner, rfl, hinner⟩ := List.prefix_cons_iff.mp hshort
  · exact absurd rfl hsome
  · exact hpasses.keeps inner hinner

/-- After a value, only a closing bracket closes a frame. -/
theorem afterValue_keeps {stack : List Frame} {reached : Reader} {c : Char}
    (hread : afterValue stack c = some reached) (hbracket : c ≠ ']') (hbrace : c ≠ '\x7d') :
    stack <:+ reached.stack := by
  unfold afterValue at hread
  by_cases hspace : isSpace c = true
  · rw [if_pos hspace] at hread
    cases hread
    exact List.suffix_refl _
  · rw [if_neg hspace] at hread
    match stack, hread with
    | .array :: outer, hread =>
        simp only [hbracket, if_false, ite_eq_iff] at hread
        obtain ⟨-, heq⟩ | ⟨-, heq⟩ := hread
        · cases heq
          exact List.suffix_refl _
        · cases heq
    | .object :: outer, hread =>
        simp only [hbrace, if_false, ite_eq_iff] at hread
        obtain ⟨-, heq⟩ | ⟨-, heq⟩ := hread
        · cases heq
          exact List.suffix_refl _
        · cases heq

theorem beginValue_keeps {stack : List Frame} {reached : Reader} {c : Char}
    (hread : beginValue stack c = some reached) : stack <:+ reached.stack := by
  unfold beginValue at hread
  split_ifs at hread
  all_goals
    cases hread
    first
      | exact List.suffix_refl _
      | exact List.suffix_cons _ _

/-- Only a closing bracket closes a frame. -/
theorem readChar_keeps {reader reached : Reader} {c : Char} (hread : readChar reader c = some reached)
    (hbracket : c ≠ ']') (hbrace : c ≠ '\x7d') : reader.stack <:+ reached.stack := by
  have hafter : afterValue reader.stack c = some reached → reader.stack <:+ reached.stack :=
    fun hnext => afterValue_keeps hnext hbracket hbrace
  unfold readChar at hread
  simp only at hread
  split at hread
  all_goals try split_ifs at hread
  -- the stack stays, a value begins, or a value has ended
  all_goals
    first
      | exact hafter hread
      | exact beginValue_keeps hread
      | cases hread; exact List.suffix_refl _
      | cases hread

/-- No proper prefix of an object's text is a JSON text, nor with a replacement
character after it. -/
theorem parses_object_cut {members : Members} {cut : List Char}
    (hcut : cut <+: stringify (.object members)) (hproper : cut ≠ stringify (.object members)) :
    parses cut = false ∧ parses (cut ++ ['\uFFFD']) = false := by
  have hopen : ∀ {reached : Reader}, [.object] <:+ reached.stack → reached.stack.isEmpty = false := by
    rintro ⟨mode, stack⟩ ⟨outer, rfl⟩
    simp
  by_cases hsome : cut = []
  · rw [hsome]
    decide
  · obtain ⟨reached, hreads, hkept⟩ := read_object_cut hcut hproper hsome
    refine ⟨by simp [parses, hreads, hopen hkept], ?_⟩
    simp only [parses, read_append, hreads, Option.bind_some, read_cons]
    cases hlast : readChar reached '\uFFFD' with
    | none => rfl
    | some last =>
        have hstill : [.object] <:+ last.stack :=
          hkept.trans (readChar_keeps hlast (by decide) (by decide))
        simp [hopen hstill]

/-! ## No line break -/

theorem notMem_digits (ds : List (Fin 10)) : '\n' ∉ digits ds := by
  intro hmem
  obtain ⟨d, -, hd⟩ := List.mem_map.mp hmem
  exact absurd hd ((by decide : ∀ d : Fin 10, digit d ≠ '\n') d)

theorem digit_ne (d : Fin 10) : '\n' ≠ digit d :=
  (by decide : ∀ d : Fin 10, '\n' ≠ digit d) d

theorem notMem_numeral (numeral : Numeral) : '\n' ∉ numeral.text := by
  have hinteger : '\n' ∉ numeral.integerText := by
    unfold Numeral.integerText
    split
    · decide
    · simp [digit_ne, notMem_digits]
  have hfraction : '\n' ∉ numeral.fractionText := by
    unfold Numeral.fractionText
    split
    · decide
    · simp [digit_ne, notMem_digits]
  have hexponent : '\n' ∉ numeral.exponentText := by
    unfold Numeral.exponentText
    split
    · decide
    · next negative d rest _ =>
        cases negative
        all_goals simp [digit_ne, notMem_digits]
  unfold Numeral.text
  split
  all_goals simp [hinteger, hfraction, hexponent]

theorem notMem_unicodeEscape (unit : Nat) : '\n' ∉ unicodeEscape unit := by
  have hhex : ∀ n, n < 0x10 → '\n' ≠ hexDigit n := fun n hbound =>
    (by decide : ∀ n : Fin 0x10, '\n' ≠ hexDigit n.val) ⟨n, hbound⟩
  simp [unicodeEscape, hhex _ (Nat.mod_lt _ _)]

theorem notMem_quote (content : List CodePoint) : '\n' ∉ quote content := by
  have hpoint : ∀ point, '\n' ∉ quoteCodePoint point := by
    intro point
    cases point with
    | surrogate index => exact notMem_unicodeEscape _
    | scalar c =>
        simp only [quoteCodePoint]
        split_ifs with hquote hbackslash hb hf hn hr ht hcontrol
        any_goals decide
        · exact notMem_unicodeEscape _
        · simpa using Ne.symm hn
  simp [quote, hpoint]

mutual

/-- A value is written on one line. -/
theorem notMem_stringify (value : Json) : '\n' ∉ stringify value := by
  match value with
  | .null => decide
  | .bool true => decide
  | .bool false => decide
  | .number numeral => exact notMem_numeral numeral
  | .string content => exact notMem_quote content
  | .array .nil => decide
  | .array (.cons element rest) =>
      simp [stringify, notMem_stringify element, notMem_stringifyElements rest]
  | .object .nil => decide
  | .object (.cons name value rest) =>
      simp [stringify, notMem_quote, notMem_stringify value, notMem_stringifyMembers rest]

theorem notMem_stringifyElements (elements : Elements) : '\n' ∉ stringifyElements elements := by
  match elements with
  | .nil => exact List.not_mem_nil
  | .cons element rest =>
      simp [stringifyElements, notMem_stringify element, notMem_stringifyElements rest]

theorem notMem_stringifyMembers (members : Members) : '\n' ∉ stringifyMembers members := by
  match members with
  | .nil => exact List.not_mem_nil
  | .cons name value rest =>
      simp [stringifyMembers, notMem_quote, notMem_stringify value, notMem_stringifyMembers rest]

end

end SimulatorBroker.Text
