import Mathlib.Data.List.DropRight
import SimulatorBroker.Persistence.Normalize

/-!
# The fields of a config

What the validators ask of one field of a parsed config file, the value they make of it, and the
error that names the field.  A text keeps with it that it is trimmed and not empty, so that no
later check can fail on it.
-/

namespace SimulatorBroker.Config

open SimulatorBroker.State (DeviceFamily ResetPolicy isWhiteSpace)
open SimulatorBroker.Text
open SimulatorBroker.Persistence (natural? ofNatural natural?_ofNatural)

/-! ## Errors -/

/-- An `invalid-config` error and the field it names. -/
structure FieldError where
  field : String
  message : Units
  deriving DecidableEq, Repr

abbrev Checked : Type → Type := Except FieldError

/-- The field, followed by what is wrong with it. -/
def complaint (field text : String) : FieldError where
  field := field
  message := stringUnits (field ++ text)

theorem bind_eq_ok {α β : Type} {check : Checked α} {rest : α → Checked β} {result : β} :
    check >>= rest = .ok result ↔ ∃ value, check = .ok value ∧ rest value = .ok result := by
  cases check with
  | ok value => simp [bind, Except.bind]
  | error error => simp [bind, Except.bind]

theorem bind_ok {α β : Type} {check : Checked α} {rest : α → Checked β} {value : α}
    (hcheck : check = .ok value) : check >>= rest = rest value := by
  rw [hcheck]
  rfl

/-! ## Objects and arrays -/

def Value.isObject : Value → Bool
  | .object _ => true
  | _ => false

/-- What `JSON.parse` made of a key, `undefined` where it is missing. -/
def key (raw : Value) (name : String) : Option Value :=
  raw.property (stringUnits name)

def requireObject (value : Option Value) (name : String) : Checked Value :=
  match value with
  | some (.object members) => .ok (.object members)
  | _ => .error (complaint name " must be an object.")

theorem requireObject_eq_ok {value : Option Value} {name : String} {result : Value} :
    requireObject value name = .ok result ↔
      value = some result ∧ Value.isObject result = true := by
  unfold requireObject
  split
  · constructor
    · rintro ⟨⟩
      exact ⟨rfl, rfl⟩
    · rintro ⟨⟨⟩, -⟩
      rfl
  · rename_i hother
    constructor
    · rintro ⟨⟩
    · rintro ⟨rfl, hobject⟩
      cases result with
      | object members => exact absurd rfl (hother members)
      | _ => cases hobject

def requireArray (value : Option Value) (name : String) : Checked (List Value) :=
  match value with
  | some (.array elements) => .ok elements
  | _ => .error (complaint name " must be an array.")

theorem requireArray_eq_ok {value : Option Value} {name : String} {elements : List Value} :
    requireArray value name = .ok elements ↔ value = some (.array elements) := by
  unfold requireArray
  split
  · constructor
    · rintro ⟨⟩
      rfl
    · rintro ⟨⟩
      rfl
  · rename_i hother
    constructor
    · rintro ⟨⟩
    · rintro rfl
      exact absurd rfl (hother elements)

/-- `values.map(check)`, up to the first element that fails. -/
def checkEach {α : Type} (check : Option Value → Nat → Checked α) :
    Nat → List Value → Checked (List α)
  | _, [] => .ok []
  | index, value :: rest => do
      let result ← check (some value) index
      let results ← checkEach check (index + 1) rest
      return result :: results

/-- Elements that are read one by one are read together. -/
theorem checkEach_eq_ok {α : Type} {check : Option Value → Nat → Checked α}
    {Reads : Option Value → α → Prop}
    (hcheck : ∀ value index result, check value index = .ok result ↔ Reads value result)
    {index : Nat} {values : List Value} {results : List α} :
    checkEach check index values = .ok results ↔
      List.Forall₂ (fun value result => Reads (some value) result) values results := by
  induction values generalizing index results with
  | nil =>
      constructor
      · rintro ⟨⟩
        exact .nil
      · rintro ⟨⟩
        rfl
  | cons value values ih =>
      unfold checkEach
      rw [bind_eq_ok]
      constructor
      · rintro ⟨result, hfirst, hrest⟩
        obtain ⟨rest, hothers, hall⟩ := bind_eq_ok.mp hrest
        cases hall
        exact .cons ((hcheck _ _ _).mp hfirst) (ih.mp hothers)
      · rintro (_ | ⟨hfirst, hothers⟩)
        exact ⟨_, (hcheck _ _ _).mpr hfirst, bind_eq_ok.mpr ⟨_, ih.mpr hothers, rfl⟩⟩

/-! ## Texts -/

def isWhiteSpaceUnit (unit : UInt16) : Bool :=
  isWhiteSpace (Char.ofNat unit.toNat)

/-- `value.trim()`. -/
def trimUnits (content : Units) : Units :=
  (content.dropWhile isWhiteSpaceUnit).rdropWhile isWhiteSpaceUnit

theorem trimUnits_trimUnits (content : Units) : trimUnits (trimUnits content) = trimUnits content := by
  have hbegins : trimUnits content <+: content.dropWhile isWhiteSpaceUnit :=
    List.rdropWhile_prefix isWhiteSpaceUnit _
  have hfront : (trimUnits content).dropWhile isWhiteSpaceUnit = trimUnits content := by
    rw [List.dropWhile_eq_self_iff]
    intro hlength
    have hfirst := List.dropWhile_eq_self_iff.mp
      (List.dropWhile_idempotent isWhiteSpaceUnit content) (hlength.trans_le hbegins.length_le)
    simpa [hbegins.getElem] using hfirst
  unfold trimUnits at hfront ⊢
  rw [hfront, List.rdropWhile_idempotent]

/-- A text that `requireString` has returned. -/
@[ext]
structure FieldText where
  units : Units
  trimmed : trimUnits units = units
  nonempty : units ≠ []

instance : DecidableEq FieldText := fun left right =>
  decidable_of_iff (left.units = right.units) FieldText.ext_iff.symm

/-- The string, or nothing where it is blank. -/
def FieldText.of (content : Units) : Option FieldText :=
  if hempty : trimUnits content = [] then none
  else some ⟨trimUnits content, trimUnits_trimUnits content, hempty⟩

@[simp]
theorem FieldText.of_units (text : FieldText) : FieldText.of text.units = some text := by
  unfold FieldText.of
  rw [dif_neg (by rw [text.trimmed]; exact text.nonempty)]
  exact congrArg some (FieldText.ext text.trimmed)

def requireString (value : Option Value) (name : String) : Checked FieldText :=
  match value with
  | some (.string content) =>
      match FieldText.of content with
      | some text => .ok text
      | none => .error (complaint name " must be a non-empty string.")
  | _ => .error (complaint name " must be a non-empty string.")

/-- A string, which is the text but for the blanks around it. -/
def ReadsText (value : Option Value) (text : FieldText) : Prop :=
  ∃ content, value = some (.string content) ∧ trimUnits content = text.units

theorem FieldText.of_eq_some {content : Units} {text : FieldText} :
    FieldText.of content = some text ↔ trimUnits content = text.units := by
  unfold FieldText.of
  split
  · rename_i hempty
    constructor
    · rintro ⟨⟩
    · intro heq
      exact absurd (heq.symm.trans hempty) text.nonempty
  · constructor
    · rintro ⟨⟩
      rfl
    · intro heq
      exact congrArg some (FieldText.ext heq)

theorem requireString_eq_ok {value : Option Value} {name : String} {text : FieldText} :
    requireString value name = .ok text ↔ ReadsText value text := by
  unfold requireString ReadsText
  split
  · rename_i content
    cases hof : FieldText.of content with
    | none =>
        constructor
        · rintro ⟨⟩
        · rintro ⟨_, ⟨⟩, htrim⟩
          rw [FieldText.of_eq_some.mpr htrim] at hof
          cases hof
    | some found =>
        constructor
        · rintro ⟨⟩
          exact ⟨content, rfl, FieldText.of_eq_some.mp hof⟩
        · rintro ⟨_, ⟨⟩, htrim⟩
          rw [FieldText.of_eq_some.mpr htrim] at hof
          cases hof
          rfl
  · rename_i hother
    constructor
    · rintro ⟨⟩
    · rintro ⟨content, rfl, -⟩
      exact absurd rfl (hother content)

/-- A missing, null or empty string counts as none. -/
def requireOptionalString (value : Option Value) (name : String) : Checked (Option FieldText) :=
  match value with
  | none | some .null | some (.string []) => .ok none
  | value => (requireString value name).map some

/-! ## Choices -/

/-- A string among the allowed ones, each with what it stands for. -/
def requireAmong {α : Type} (allowed : List (String × α)) (value : Option Value) (name : String) :
    Checked α := do
  let text ← requireString value name
  match allowed.find? fun choice => stringUnits choice.1 = text.units with
  | some choice => return choice.2
  | none =>
      throw (complaint name
        (" must be one of " ++ String.intercalate ", " (allowed.map (·.1)) ++ "."))

def allowedDeviceFamilies : List (String × DeviceFamily) :=
  [("iPhone", .iPhone), ("iPad", .iPad)]

def allowedResetPolicies : List (String × ResetPolicy) :=
  [("none", .none), ("erase-on-acquire", .eraseOnAcquire)]

def validateDeviceFamily : Option Value → String → Checked DeviceFamily :=
  requireAmong allowedDeviceFamilies

def normalizeResetPolicy (value : Option Value) (field : String) : Checked ResetPolicy :=
  match value with
  | none => .ok .none
  | value => requireAmong allowedResetPolicies value field

/-! ## Versions -/

/-- `/^\d+(?:\.\d+){0,2}$/`. -/
def isHostSchemaIosVersion (content : Units) : Bool :=
  let parts := content.splitOn 0x2E
  decide (parts.length ≤ 3) && parts.all fun part =>
    !part.isEmpty && part.all fun unit => decide (0x30 ≤ unit ∧ unit ≤ 0x39)

/-- A text that `validateIosVersion` has returned. -/
structure IosVersion extends FieldText where
  wellFormed : isHostSchemaIosVersion units = true
  deriving DecidableEq

def validateIosVersion (value : Option Value) (field : String) : Checked IosVersion := do
  let text ← requireString value field
  if hversion : isHostSchemaIosVersion text.units = true then return { text with wellFormed := hversion }
  else throw (complaint field " must match <major>, <major.minor>, or <major.minor.patch>.")

/-- `value !== expectedVersion`. -/
def validateVersion (value : Option Value) (expectedVersion : Nat) (name : String) :
    Checked Unit :=
  match value with
  | some (.number number) =>
      if natural? number = some expectedVersion then .ok ()
      else .error (complaint (name ++ ".version") (" must equal " ++ toString expectedVersion ++ "."))
  | _ => .error (complaint (name ++ ".version") (" must equal " ++ toString expectedVersion ++ "."))

/-! ## Booleans and integers -/

def requireBoolean (value : Option Value) (name : String) : Checked Bool :=
  match value with
  | some (.bool value) => .ok value
  | _ => .error (complaint name " must be a boolean.")

/-- `Number.MAX_SAFE_INTEGER`. -/
def maxSafeInteger : Nat := 9007199254740991

/-- An integer that `requireConfigBoundedInteger` has returned. -/
@[ext]
structure BoundedInteger (minimum maximum : Nat) where
  value : Nat
  safe : value ≤ maxSafeInteger
  lower : minimum ≤ value
  upper : value ≤ maximum
  deriving DecidableEq

def BoundedInteger.of (minimum maximum value : Nat) : Option (BoundedInteger minimum maximum) :=
  if h : value ≤ maxSafeInteger ∧ minimum ≤ value ∧ value ≤ maximum then
    some ⟨value, h.1, h.2.1, h.2.2⟩
  else none

def requireConfigBoundedInteger (value : Option Value) (name : String) (minimum maximum : Nat) :
    Checked (BoundedInteger minimum maximum) :=
  match value with
  | some (.number number) =>
      match (natural? number).bind (BoundedInteger.of minimum maximum) with
      | some bounded => .ok bounded
      | none => .error (complaint name
          (s!" must be an integer from {minimum} through {maximum}."))
  | _ => .error (complaint name (s!" must be an integer from {minimum} through {maximum}."))

/-! ## What is read -/

def ReadsOptionalText (value : Option Value) : Option FieldText → Prop
  | none => value = none ∨ value = some .null ∨ value = some (.string [])
  | some text => ReadsText value text

/-- A string that is one of the allowed ones but for the blanks around it. -/
def ReadsAmong {α : Type} (allowed : List (String × α)) (value : Option Value) (choice : α) : Prop :=
  ∃ name, (name, choice) ∈ allowed ∧
    ∃ content, value = some (.string content) ∧ trimUnits content = stringUnits name

def ReadsVersion (value : Option Value) (version : IosVersion) : Prop :=
  ReadsText value version.toFieldText

/-- A number with that value. -/
def ReadsNumber (value : Option Value) (count : Nat) : Prop :=
  ∃ number, value = some (.number number) ∧ natural? number = some count

theorem requireOptionalString_eq_ok {value : Option Value} {name : String}
    {text : Option FieldText} :
    requireOptionalString value name = .ok text ↔ ReadsOptionalText value text := by
  have hblank : ∀ found : FieldText, ¬ ReadsText (some (.string [])) found := by
    rintro found ⟨content, ⟨⟩, htrim⟩
    exact found.nonempty htrim.symm
  unfold requireOptionalString
  split
  · cases text with
    | none => simp [ReadsOptionalText]
    | some text => simp [ReadsOptionalText, ReadsText]
  · cases text with
    | none => simp [ReadsOptionalText]
    | some text => simp [ReadsOptionalText, ReadsText]
  · cases text with
    | none => simp [ReadsOptionalText]
    | some text => simpa [ReadsOptionalText] using hblank text
  · rename_i hmissing hnull hempty
    cases text with
    | none =>
        have hnot : ¬ ReadsOptionalText value none := by
          rintro (rfl | rfl | rfl)
          · exact hmissing rfl
          · exact hnull rfl
          · exact hempty rfl
        refine iff_of_false ?_ hnot
        cases requireString value name <;> rintro ⟨⟩
    | some text =>
        show (requireString value name).map some = .ok (some text) ↔ ReadsText value text
        rw [← requireString_eq_ok]
        cases requireString value name <;> simp [Except.map]

/-- Names are told apart by their code units. -/
theorem find?_choice {α : Type} {allowed : List (String × α)} (hnames : (allowed.map (·.1)).Nodup)
    {name : String} {choice : α} (hmem : (name, choice) ∈ allowed) :
    allowed.find? (fun choice => stringUnits choice.1 = stringUnits name) = some (name, choice) := by
  induction allowed with
  | nil => cases hmem
  | cons first rest ih =>
      obtain ⟨hfirst, hrest⟩ := List.nodup_cons.mp hnames
      cases hmem with
      | head => exact List.find?_cons_of_pos (by simp)
      | tail _ hmem =>
          have hother : stringUnits first.1 ≠ stringUnits name := by
            intro heq
            exact hfirst (List.mem_map.mpr ⟨_, hmem, (stringUnits_injective heq).symm⟩)
          rw [List.find?_cons_of_neg (by simpa using hother)]
          exact ih hrest hmem

theorem requireAmong_eq_ok {α : Type} {allowed : List (String × α)}
    (hnames : (allowed.map (·.1)).Nodup) (hnonempty : ∀ choice ∈ allowed, stringUnits choice.1 ≠ [])
    {value : Option Value} {name : String} {choice : α} :
    requireAmong allowed value name = .ok choice ↔ ReadsAmong allowed value choice := by
  unfold requireAmong
  rw [bind_eq_ok]
  constructor
  · rintro ⟨text, htext, hrest⟩
    obtain ⟨content, rfl, htrim⟩ := requireString_eq_ok.mp htext
    cases hfound : allowed.find? fun choice => stringUnits choice.1 = text.units with
    | none =>
        rw [hfound] at hrest
        cases hrest
    | some found =>
        rw [hfound] at hrest
        cases hrest
        have hname : stringUnits found.1 = text.units := by
          simpa using List.find?_some hfound
        exact ⟨found.1, List.mem_of_find?_eq_some hfound, content, rfl, htrim.trans hname.symm⟩
  · rintro ⟨found, hmem, content, rfl, htrim⟩
    have hempty : stringUnits found ≠ [] := hnonempty _ hmem
    have htext : trimUnits (stringUnits found) = stringUnits found := by
      rw [← htrim, trimUnits_trimUnits]
    refine ⟨⟨stringUnits found, htext, hempty⟩, requireString_eq_ok.mpr ⟨content, rfl, htrim⟩, ?_⟩
    simp only [find?_choice hnames hmem]
    rfl

theorem validateIosVersion_eq_ok {value : Option Value} {field : String} {version : IosVersion} :
    validateIosVersion value field = .ok version ↔ ReadsVersion value version := by
  unfold validateIosVersion ReadsVersion
  rw [bind_eq_ok]
  constructor
  · rintro ⟨text, htext, hrest⟩
    split at hrest
    · cases hrest
      exact requireString_eq_ok.mp htext
    · cases hrest
  · intro hreads
    refine ⟨version.toFieldText, requireString_eq_ok.mpr hreads, ?_⟩
    rw [dif_pos version.wellFormed]
    rfl

theorem validateVersion_eq_ok {value : Option Value} {expected : Nat} {name : String}
    {result : Unit} :
    validateVersion value expected name = .ok result ↔ ReadsNumber value expected := by
  unfold validateVersion ReadsNumber
  split
  · split
    · simp_all
    · simp_all
  · rename_i hother
    constructor
    · rintro ⟨⟩
    · rintro ⟨number, rfl, -⟩
      exact absurd rfl (hother number)

theorem requireBoolean_eq_ok {value : Option Value} {name : String} {result : Bool} :
    requireBoolean value name = .ok result ↔ value = some (.bool result) := by
  unfold requireBoolean
  split
  · simp
  · rename_i hother
    constructor
    · rintro ⟨⟩
    · rintro rfl
      exact absurd rfl (hother result)

theorem requireConfigBoundedInteger_eq_ok {value : Option Value} {name : String}
    {minimum maximum : Nat} {bounded : BoundedInteger minimum maximum} :
    requireConfigBoundedInteger value name minimum maximum = .ok bounded ↔
      ReadsNumber value bounded.value := by
  have hof : ∀ count, BoundedInteger.of minimum maximum count = some bounded ↔
      count = bounded.value := by
    intro count
    unfold BoundedInteger.of
    split
    · simp [BoundedInteger.ext_iff]
    · rename_i hbounds
      constructor
      · rintro ⟨⟩
      · rintro rfl
        exact absurd ⟨bounded.safe, bounded.lower, bounded.upper⟩ hbounds
  unfold requireConfigBoundedInteger ReadsNumber
  split
  · rename_i number
    cases hread : (natural? number).bind (BoundedInteger.of minimum maximum) with
    | none =>
        constructor
        · rintro ⟨⟩
        · rintro ⟨_, ⟨⟩, hnatural⟩
          rw [hnatural, Option.bind_some, (hof _).mpr rfl] at hread
          cases hread
    | some found =>
        obtain ⟨count, hnatural, hfound⟩ := Option.bind_eq_some_iff.mp hread
        constructor
        · rintro ⟨⟩
          rw [(hof _).mp hfound] at hnatural
          exact ⟨number, rfl, hnatural⟩
        · rintro ⟨_, ⟨⟩, hsame⟩
          rw [hsame, Option.bind_some, (hof _).mpr rfl] at hread
          cases hread
          rfl
  · rename_i hother
    constructor
    · rintro ⟨⟩
    · rintro ⟨number, rfl, -⟩
      exact absurd rfl (hother number)

end SimulatorBroker.Config
