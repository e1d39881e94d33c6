import SimulatorBroker.Text.Occurrence
import SimulatorBroker.Text.Value

/-!
# The scan for home paths

The rule `local-home-path` of the public-surface scanner, on texts of code units.  Where the
source cuts a text into graphemes and normalizes them, the model follows it on ASCII texts:
there only a line end of two characters is longer than one unit, and nothing is changed.
-/

namespace SimulatorBroker.PublicSurface

open Text

abbrev Unit16 : Type := UInt16

def slash : Unit16 := 0x2F

def backslash : Unit16 := 0x5C

def period : Unit16 := 0x2E

def colon : Unit16 := 0x3A

def lineFeed : Unit16 := 0x0A

def carriageReturn : Unit16 := 0x0D

/-! ## Boundaries -/

def isLetter (unit : Unit16) : Bool :=
  (0x41 ≤ unit && unit ≤ 0x5A) || (0x61 ≤ unit && unit ≤ 0x7A)

def isDigitUnit (unit : Unit16) : Bool :=
  0x30 ≤ unit && unit ≤ 0x39

/-- A letter, a digit, or one of the period, underscore, tilde, backslash, slash and hyphen. -/
def isPathFragment (unit : Unit16) : Bool :=
  isLetter unit || isDigitUnit unit || unit == period || unit == 0x5F || unit == 0x7E
    || unit == backslash || unit == slash || unit == 0x2D

/-- The test on one character, or on the empty string beyond the ends of a text. -/
def testPathFragment (character : Option Unit16) : Bool :=
  (character.map isPathFragment).getD false

/-- `[A-Za-z0-9+.-]`. -/
def isSchemeUnit (unit : Unit16) : Bool :=
  isLetter unit || isDigitUnit unit || unit == 0x2B || unit == period || unit == 0x2D

/-- A scheme ends the text, and begins it or follows a character that is no path fragment.
The text is read from its end. -/
def endsWithScheme (reversed : Units) : Bool :=
  (List.range reversed.length).any fun length =>
    (reversed.take length).all isSchemeUnit && (reversed[length]?.map isLetter).getD false
      && !testPathFragment reversed[length + 1]?

/-- A scheme, a colon and two slashes end the text. -/
def uriPrefixBoundary (text : Units) : Bool :=
  match text.reverse with
  | last :: previous :: separator :: scheme =>
      last == slash && previous == slash && separator == colon && endsWithScheme scheme
  | _ => false

/-- The character before an offset. -/
def characterBefore (text : Units) (offset : Nat) : Option Unit16 :=
  if offset > 0 then text[offset - 1]? else none

def isHomePathBoundary (text : Units) (offset : Nat) (value : Units) : Bool :=
  let before := characterBefore text offset
  let after := text[offset + value.length]?
  let hasUriPrefixBoundary := before == some slash && uriPrefixBoundary (text.take offset)
  let afterSentencePeriod :=
    after == some period && !testPathFragment text[offset + value.length + 1]?
  (!testPathFragment before || hasUriPrefixBoundary)
    && (after == none || after == some slash || !testPathFragment after || afterSentencePeriod)

/-- The search refuses an occurrence that is not at a boundary and goes on behind it. -/
def indexOfHomePath (text value : Units) : Option Nat :=
  searchFrom (fun offset => isHomePathBoundary text offset value) text value (text.length + 1) 0

/-! ## JSON escapes -/

/-- A text, and for each of its units the offset it comes from. -/
structure MappedText where
  normalized : Units
  originalOffsets : List Nat
  deriving DecidableEq, Repr

/-- The escapes of one character. -/
def jsonEscape? (escape : Unit16) : Option Unit16 :=
  if escape = 0x22 ∨ escape = backslash ∨ escape = slash then some escape
  else if escape = 0x62 then some 0x08
  else if escape = 0x66 then some 0x0C
  else if escape = 0x6E then some lineFeed
  else if escape = 0x72 then some carriageReturn
  else if escape = 0x74 then some 0x09
  else none

def hexDigit? (unit : Unit16) : Option Nat :=
  if isDigitUnit unit then some (unit.toNat - 0x30)
  else if 0x41 ≤ unit ∧ unit ≤ 0x46 then some (unit.toNat - 0x37)
  else if 0x61 ≤ unit ∧ unit ≤ 0x66 then some (unit.toNat - 0x57)
  else none

/-- `/^[0-9A-Fa-f]{4}$/`, with the number. -/
def hexValue? : Units → Option Nat
  | [first, second, third, fourth] => do
      let first ← hexDigit? first
      let second ← hexDigit? second
      let third ← hexDigit? third
      let fourth ← hexDigit? fourth
      some (((first * 16 + second) * 16 + third) * 16 + fourth)
  | _ => none

/-- The second half of a surrogate pair, as an escape of its own. -/
def lowEscape? (rest : Units) : Option Nat :=
  if rest.take 2 = [backslash, 0x75] then
    (hexValue? ((rest.drop 2).take 4)).filter fun low => 0xDC00 ≤ low ∧ low ≤ 0xDFFF
  else none

/-- What the text begins with, and how many units it takes.  What follows `\u` is given. -/
def decodeUnicode (rest : Units) : Option (Units × Nat) :=
  (hexValue? (rest.take 4)).map fun high =>
    match lowEscape? (rest.drop 4) with
    | some low =>
        if 0xD800 ≤ high ∧ high ≤ 0xDBFF then ([high.toUInt16, low.toUInt16], 12)
        else ([high.toUInt16], 6)
    | none => ([high.toUInt16], 6)

def decodeHead (unit : Unit16) (rest : Units) : Units × Nat :=
  if unit ≠ backslash then ([unit], 1)
  else match rest with
    | [] => ([unit], 1)
    | escape :: rest =>
        match jsonEscape? escape with
        | some decoded => ([decoded], 2)
        | none =>
            if escape = 0x75 then (decodeUnicode rest).getD ([unit], 1)
            else ([unit], 1)

/-- The units from an index on, each with its offset; some of them belong to an escape that has
been decoded. -/
def decodeFrom (index skipped : Nat) : Units → List (Unit16 × Nat)
  | [] => []
  | unit :: rest =>
      match skipped with
      | skipped + 1 => decodeFrom (index + 1) skipped rest
      | 0 =>
          let (decoded, taken) := decodeHead unit rest
          (decoded.map fun unit => (unit, index)) ++ decodeFrom (index + 1) (taken - 1) rest

def normalizeJsonEscapes (text : Units) : MappedText where
  normalized := (decodeFrom 0 0 text).map (·.1)
  originalOffsets := (decodeFrom 0 0 text).map (·.2)

/-! ## Graphemes -/

/-- `String(value).normalize("NFC")` of an ASCII text. -/
def canonicalText (value : Units) : Units := value

/-- The graphemes of an ASCII text, each with its index. -/
def graphemes (index : Nat) : Units → List (Units × Nat)
  | [] => []
  | [unit] => [([unit], index)]
  | first :: second :: rest =>
      if first = carriageReturn ∧ second = lineFeed then
        ([first, second], index) :: graphemes (index + 2) rest
      else ([first], index) :: graphemes (index + 1) (second :: rest)

/-- `sourceOffsets?.[index] ?? index`. -/
def sourceOffset (sourceOffsets : Option (List Nat)) (index : Nat) : Nat :=
  (sourceOffsets.bind fun offsets => offsets[index]?).getD index

def canonicalTextWithOffsets (text : Units) (sourceOffsets : Option (List Nat)) : MappedText where
  normalized := (graphemes 0 text).flatMap fun segment => canonicalText segment.1
  originalOffsets := (graphemes 0 text).flatMap fun segment =>
    List.replicate (canonicalText segment.1).length (sourceOffset sourceOffsets segment.2)

/-! ## The pre-check -/

def containsNonAscii (text : Units) : Bool :=
  text.any fun unit => 0x80 ≤ unit

/-- `text.includes(value)`. -/
def includesText (text value : Units) : Bool :=
  decide (value <:+: text)

/-- `value.replaceAll("/", "\\/")`. -/
def slashEscaped (value : Units) : Units :=
  value.flatMap fun unit => if unit = slash then [backslash, slash] else [unit]

def textMayContainCanonicalValue (text value : Units) : Bool :=
  if value.length = 0 then false
  else if includesText text value then true
  else if slashEscaped value ≠ value ∧ includesText text (slashEscaped value) then true
  else if containsNonAscii value || containsNonAscii text then true
  else text.contains backslash || value.contains backslash

/-! ## The scan -/

/-- The search in a canonical text, mapped back. -/
def indexInMapped (mapped : MappedText) (value : Units) : Option Nat :=
  (indexOfHomePath mapped.normalized value).map fun offset =>
    (mapped.originalOffsets[offset]?).getD 0

def indexOfCanonicalHomePath (text value : Units) : Option Nat :=
  if !textMayContainCanonicalValue text value then none
  else indexInMapped (canonicalTextWithOffsets text none) value

def indexOfJsonEscapedHomePath (text value : Units) : Option Nat :=
  if !textMayContainCanonicalValue text value then none
  else
    let decoded := normalizeJsonEscapes text
    indexInMapped (canonicalTextWithOffsets decoded.normalized (some decoded.originalOffsets)) value

def lineNumberForOffset (text : Units) (offset : Nat) : Nat :=
  1 + ((text.take offset).filter (· == lineFeed)).length

/-- The line of the issue that `scanText` adds under `local-home-path`, if it adds one. -/
def scanText (text value : Units) : Option Nat :=
  ((indexOfCanonicalHomePath text value).or (indexOfJsonEscapedHomePath text value)).map
    (lineNumberForOffset text)

/-- The scan without the pre-check. -/
def scanTextUnfiltered (text value : Units) : Option Nat :=
  let decoded := normalizeJsonEscapes text
  ((indexInMapped (canonicalTextWithOffsets text none) value).or
    (indexInMapped (canonicalTextWithOffsets decoded.normalized (some decoded.originalOffsets))
      value)).map (lineNumberForOffset text)

end SimulatorBroker.PublicSurface
