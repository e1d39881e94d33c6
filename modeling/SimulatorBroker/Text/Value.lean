import SimulatorBroker.Text.Number

/-!
# JSON values

`JSON.parse` builds a value beside the reader of JSON texts: it throws exactly where the reader
stops.  `JSON.stringify` with an indent writes a value over several lines.
-/

namespace SimulatorBroker.Text

/-! ## Strings -/

/-- A string: its UTF-16 code units. -/
abbrev Units : Type := List UInt16

/-- The code units of a character. -/
def charUnits (c : Char) : Units :=
  if c.toNat < 0x10000 then [c.toNat.toUInt16]
  else
    let offset := c.toNat - 0x10000
    [(0xD800 + offset / 0x400).toUInt16, (0xDC00 + offset % 0x400).toUInt16]

/-- The value of a hexadecimal digit. -/
def hexValue (c : Char) : Nat :=
  if isDigit c then c.toNat - 0x30
  else if c.toNat < 0x60 then c.toNat - 0x37
  else c.toNat - 0x57

/-- The code unit that an escape other than `\u` stands for. -/
def escapedUnit (c : Char) : UInt16 :=
  if c = 'b' then 0x08
  else if c = 'f' then 0x0C
  else if c = 'n' then 0x0A
  else if c = 'r' then 0x0D
  else if c = 't' then 0x09
  else c.toNat.toUInt16

/-- The string between the quotes of a JSON text. -/
def unescape : List Char → Units
  | '\\' :: 'u' :: a :: b :: c :: d :: rest =>
      (((hexValue a * 16 + hexValue b) * 16 + hexValue c) * 16 + hexValue d).toUInt16
        :: unescape rest
  | '\\' :: c :: rest => escapedUnit c :: unescape rest
  | c :: rest => charUnits c ++ unescape rest
  | [] => []

/-- The code points of a string; half of a surrogate pair alone stands for itself. -/
def codePoints : Units → List CodePoint
  | [] => []
  | high :: low :: rest =>
      let h := high.toNat
      let l := low.toNat
      if 0xD800 ≤ h ∧ h < 0xDC00 ∧ 0xDC00 ≤ l ∧ l < 0xE000 then
        .scalar (Char.ofNat (0x10000 + (h - 0xD800) * 0x400 + (l - 0xDC00))) :: codePoints rest
      else if 0xD800 ≤ h ∧ h < 0xE000 then
        .surrogate (Fin.ofNat _ (h - 0xD800)) :: codePoints (low :: rest)
      else .scalar (Char.ofNat h) :: codePoints (low :: rest)
  | [unit] =>
      let u := unit.toNat
      if 0xD800 ≤ u ∧ u < 0xE000 then [.surrogate (Fin.ofNat _ (u - 0xD800))]
      else [.scalar (Char.ofNat u)]

/-! ## Values -/

/-- What `JSON.parse` returns; the members of an object are in the order of its keys. -/
inductive Value where
  | null
  | bool (value : Bool)
  | number (value : Double)
  | string (content : Units)
  | array (elements : List Value)
  | object (members : List (Units × Value))

/-- A string that is not empty. -/
def Value.isLabel : Value → Bool
  | .string content => !content.isEmpty
  | _ => false

/-- The index that a key of an object spells, if it is an array index. -/
def arrayIndex (name : Units) : Option Nat :=
  let digits := name.map fun unit => Char.ofNat unit.toNat
  let value := decimalValue digits
  if decimalDigits value = digits ∧ value < 2 ^ 32 - 1 then some value else none

/-- An object with one more property; a key that is there keeps its place. -/
def setProperty (members : List (Units × Value)) (name : Units) (value : Value) :
    List (Units × Value) :=
  if members.any (·.1 == name) then
    members.map fun member => if member.1 == name then (name, value) else member
  else members ++ [(name, value)]

/-- The order in which the keys of an object are listed: array indices first, by their number,
then the others as they came. -/
def ownKeyOrder (members : List (Units × Value)) : List (Units × Value) :=
  let indexed := members.filterMap fun member => (arrayIndex member.1).map (·, member)
  let ordered := indexed.mergeSort fun left right => decide (left.1 ≤ right.1)
  ordered.map (·.2) ++ members.filter fun member => (arrayIndex member.1).isNone

/-! ## `JSON.parse` -/

/-- An array or object begun. -/
inductive Container where
  | array (elements : List Value)
  | object (members : List (Units × Value)) (name : Units)

/-- A value being read: the reader, the containers begun, the characters of the string, number or
literal being read, and the last value that stands alone. -/
structure Draft where
  reader : Reader
  containers : List Container
  token : List Char
  value : Value

def Draft.start : Draft :=
  { reader := .start, containers := [], token := [], value := .null }

/-- Put a complete value where it belongs. -/
def Draft.place (draft : Draft) (value : Value) : Draft :=
  match draft.containers with
  | [] => { draft with token := [], value }
  | .array elements :: outer =>
      { draft with token := [], containers := .array (elements ++ [value]) :: outer }
  | .object members name :: outer =>
      { draft with
        token := []
        containers := .object (setProperty members name value) name :: outer }

/-- Remember the key of the next property. -/
def Draft.setKey (draft : Draft) (key : Units) : Draft :=
  match draft.containers with
  | .object members _ :: outer =>
      { draft with token := [], containers := .object members key :: outer }
  | _ => { draft with token := [] }

/-- End the innermost container. -/
def Draft.close (draft : Draft) : Draft :=
  match draft.containers with
  | [] => draft
  | .array elements :: outer => { draft with containers := outer }.place (.array elements)
  | .object members _ :: outer =>
      { draft with containers := outer }.place (.object (ownKeyOrder members))

def Mode.inNumber : Mode → Bool
  | .minus | .zero | .integer | .point | .fraction | .exponent | .exponentSign
  | .exponentDigits => true
  | _ => false

/-- A number ends where a character does not belong to it. -/
def Draft.endNumber (draft : Draft) (next : Mode) : Draft :=
  if draft.reader.mode.inNumber && !next.inNumber then draft.place (.number (numberOf draft.token))
  else draft

def literalValue (text : List Char) : Value :=
  if text.head? = some 'n' then .null else .bool (decide (text.head? = some 't'))

/-- What a character that the reader accepts adds. -/
def Draft.follow (draft : Draft) (c : Char) (next : Mode) : Draft :=
  match draft.reader.mode with
  | .string isKey =>
      if c = '"' then
        if isKey then draft.setKey (unescape draft.token)
        else draft.place (.string (unescape draft.token))
      else { draft with token := draft.token ++ [c] }
  | .escape _ | .unicode _ _ => { draft with token := draft.token ++ [c] }
  | .literal _ =>
      if next = .after then draft.place (literalValue draft.token) else draft
  | _ =>
      let draft := draft.endNumber next
      if next.inNumber then { draft with token := draft.token ++ [c] }
      else match next with
        | .literal _ => { draft with token := [c] }
        | _ =>
            if c = '{' then { draft with containers := .object [] [] :: draft.containers }
            else if c = '[' then { draft with containers := .array [] :: draft.containers }
            else if c = '}' ∨ c = ']' then draft.close
            else draft

/-- One character. -/
def draftChar (draft : Draft) (c : Char) : Option Draft :=
  (readChar draft.reader c).map fun next => { draft.follow c next.mode with reader := next }

/-- `JSON.parse(text)`, nothing where it throws. -/
def parse (text : List Char) : Option Value :=
  match text.foldlM draftChar Draft.start with
  | none => none
  | some draft =>
      if draft.reader.mode.endsValue && draft.reader.stack.isEmpty then
        some (draft.endNumber .after).value
      else none

/-! ## `JSON.stringify` with an indent -/

def indentStep : List Char := [' ', ' ']

mutual

/-- The text of a value whose lines after the first begin with the indent. -/
def stringifyIndented (indent : List Char) : Value → List Char
  | .null => ['n', 'u', 'l', 'l']
  | .bool true => ['t', 'r', 'u', 'e']
  | .bool false => ['f', 'a', 'l', 's', 'e']
  | .number value => value.text
  | .string content => quote (codePoints content)
  | .array [] => ['[', ']']
  | .array (element :: rest) =>
      let inner := indent ++ indentStep
      '[' :: '\n' :: inner ++ stringifyIndented inner element ++ elementLines inner rest
        ++ '\n' :: indent ++ [']']
  | .object [] => ['{', '}']
  | .object ((name, value) :: rest) =>
      let inner := indent ++ indentStep
      '{' :: '\n' :: inner ++ quote (codePoints name) ++ ':' :: ' ' :: stringifyIndented inner value
        ++ memberLines inner rest ++ '\n' :: indent ++ ['}']

/-- The elements of an array after the first. -/
def elementLines (indent : List Char) : List Value → List Char
  | [] => []
  | element :: rest =>
      ',' :: '\n' :: indent ++ stringifyIndented indent element ++ elementLines indent rest

/-- The members of an object after the first. -/
def memberLines (indent : List Char) : List (Units × Value) → List Char
  | [] => []
  | (name, value) :: rest =>
      ',' :: '\n' :: indent ++ quote (codePoints name) ++ ':' :: ' '
        :: stringifyIndented indent value ++ memberLines indent rest

end

/-! ## The reader under `JSON.parse` -/

theorem foldlM_draftChar (text : List Char) (draft : Draft) :
    (text.foldlM draftChar draft).map (·.reader) = read draft.reader text := by
  induction text generalizing draft with
  | nil => rfl
  | cons c text ih =>
      cases hchar : readChar draft.reader c with
      | none => simp [List.foldlM_cons, draftChar, hchar, read]
      | some next =>
          have hrest := ih { draft.follow c next.mode with reader := next }
          simpa [List.foldlM_cons, draftChar, hchar, read] using hrest

/-- `JSON.parse` throws exactly where the reader stops. -/
theorem parse_isSome (text : List Char) : (parse text).isSome = parses text := by
  have hread := foldlM_draftChar text Draft.start
  rw [show Draft.start.reader = Reader.start from rfl] at hread
  cases hdraft : text.foldlM draftChar Draft.start with
  | none =>
      rw [hdraft] at hread
      simp [parse, hdraft, parses, ← hread]
  | some draft =>
      rw [hdraft] at hread
      by_cases hends : draft.reader.mode.endsValue && draft.reader.stack.isEmpty
      · simp [parse, hdraft, parses, ← hread, hends]
      · simp [parse, hdraft, parses, ← hread, hends]

/-- Leading spaces do not change the value. -/
theorem parse_spaces {spaces : List Char} (hspaces : ∀ c ∈ spaces, isSpace c = true)
    (text : List Char) : parse (spaces ++ text) = parse text := by
  have hstart : spaces.foldlM draftChar Draft.start = some Draft.start := by
    induction spaces with
    | nil => rfl
    | cons c spaces ih =>
        have hspace := hspaces c List.mem_cons_self
        have hchar : draftChar Draft.start c = some Draft.start := by
          have hplain : c ≠ '{' ∧ c ≠ '[' ∧ c ≠ '}' ∧ c ≠ ']' := by
            simp only [isSpace, Bool.or_eq_true, decide_eq_true_eq] at hspace
            rcases hspace with ((rfl | rfl) | rfl) | rfl <;> decide
          simp [draftChar, Draft.start, Reader.start, readChar, hspace, Draft.follow,
            Draft.endNumber, Mode.inNumber, hplain]
        rw [List.foldlM_cons, hchar]
        exact ih fun c hmem => hspaces c (List.mem_cons_of_mem _ hmem)
  simp [parse, List.foldlM_append, hstart]

end SimulatorBroker.Text
