import Mathlib.Data.List.Infix
import Mathlib.Tactic.Common

/-!
# Lossy UTF-8 decoding

The decoder of the WHATWG encoding standard, which never fails: each maximal
part of an ill-formed sequence becomes one U+FFFD.  The encoder is the one of
the core library.
-/

namespace SimulatorBroker.Text

abbrev Bytes : Type := List UInt8

/-- A character begun: how many bytes it still needs, the bits read so far, and
the bounds of its next byte. -/
structure Pending where
  needed : Nat
  codePoint : Nat
  lower : Nat
  upper : Nat
  deriving DecidableEq, Repr

/-- U+FFFD. -/
def replacement : Char := '\uFFFD'

/-- The first byte of a character. -/
def startByte (byte : UInt8) : List Char × Option Pending :=
  let b := byte.toNat
  if b ≤ 0x7F then ([Char.ofNat b], none)
  else if 0xC2 ≤ b ∧ b ≤ 0xDF then ([], some ⟨1, b % 0x20, 0x80, 0xBF⟩)
  else if b = 0xE0 then ([], some ⟨2, b % 0x10, 0xA0, 0xBF⟩)
  else if b = 0xED then ([], some ⟨2, b % 0x10, 0x80, 0x9F⟩)
  else if 0xE1 ≤ b ∧ b ≤ 0xEF then ([], some ⟨2, b % 0x10, 0x80, 0xBF⟩)
  else if b = 0xF0 then ([], some ⟨3, b % 0x08, 0x90, 0xBF⟩)
  else if b = 0xF4 then ([], some ⟨3, b % 0x08, 0x80, 0x8F⟩)
  else if 0xF1 ≤ b ∧ b ≤ 0xF3 then ([], some ⟨3, b % 0x08, 0x80, 0xBF⟩)
  else ([replacement], none)

/-- One byte; a byte out of bounds ends the character begun and is read again. -/
def decodeByte : Option Pending → UInt8 → List Char × Option Pending
  | none, byte => startByte byte
  | some pending, byte =>
      if pending.lower ≤ byte.toNat ∧ byte.toNat ≤ pending.upper then
        let codePoint := pending.codePoint * 0x40 + byte.toNat % 0x40
        if pending.needed ≤ 1 then ([Char.ofNat codePoint], none)
        else ([], some ⟨pending.needed - 1, codePoint, 0x80, 0xBF⟩)
      else (replacement :: (startByte byte).1, (startByte byte).2)

def decodeFrom : Option Pending → Bytes → List Char
  | none, [] => []
  | some _, [] => [replacement]
  | state, byte :: rest =>
      (decodeByte state byte).1 ++ decodeFrom (decodeByte state byte).2 rest

/-- `buffer.toString("utf8")`. -/
def decode (bytes : Bytes) : List Char :=
  decodeFrom none bytes

/-- `Buffer.from(text, "utf8")`. -/
def encode (text : List Char) : Bytes :=
  text.flatMap String.utf8EncodeChar

@[simp] theorem encode_nil : encode [] = [] := rfl

@[simp] theorem encode_cons (c : Char) (text : List Char) :
    encode (c :: text) = String.utf8EncodeChar c ++ encode text := by
  simp [encode]

@[simp] theorem encode_append (left right : List Char) :
    encode (left ++ right) = encode left ++ encode right := by
  simp [encode]

/-! ## The four shapes of an encoded character -/

/-- The bytes of a character, by the number of them. -/
theorem utf8EncodeChar_cases (c : Char) :
    (c.toNat ≤ 0x7F ∧ String.utf8EncodeChar c = [UInt8.ofNat c.toNat]) ∨
    (0x7F < c.toNat ∧ c.toNat ≤ 0x7FF ∧ String.utf8EncodeChar c =
      [UInt8.ofNat (c.toNat / 64 % 0x20 + 0xC0), UInt8.ofNat (c.toNat % 0x40 + 0x80)]) ∨
    (0x7FF < c.toNat ∧ c.toNat ≤ 0xFFFF ∧ String.utf8EncodeChar c =
      [UInt8.ofNat (c.toNat / 4096 % 0x10 + 0xE0), UInt8.ofNat (c.toNat / 64 % 0x40 + 0x80),
        UInt8.ofNat (c.toNat % 0x40 + 0x80)]) ∨
    (0xFFFF < c.toNat ∧ String.utf8EncodeChar c =
      [UInt8.ofNat (c.toNat / 262144 % 0x08 + 0xF0), UInt8.ofNat (c.toNat / 4096 % 0x40 + 0x80),
        UInt8.ofNat (c.toNat / 64 % 0x40 + 0x80), UInt8.ofNat (c.toNat % 0x40 + 0x80)]) := by
  by_cases hone : c.toNat ≤ 0x7F
  · exact Or.inl ⟨hone, if_pos hone⟩
  · by_cases htwo : c.toNat ≤ 0x7FF
    · exact Or.inr (Or.inl ⟨by omega, htwo, (if_neg hone).trans (if_pos htwo)⟩)
    · by_cases hthree : c.toNat ≤ 0xFFFF
      · exact Or.inr (Or.inr (Or.inl ⟨by omega, hthree,
          (if_neg hone).trans ((if_neg htwo).trans (if_pos hthree))⟩))
      · exact Or.inr (Or.inr (Or.inr ⟨by omega,
          (if_neg hone).trans ((if_neg htwo).trans (if_neg hthree))⟩))

/-- Code points are below 0x110000 and no surrogates. -/
theorem char_bounds (c : Char) : c.toNat < 0xD800 ∨ (0xDFFF < c.toNat ∧ c.toNat < 0x110000) :=
  c.valid

/-! ## Decoding what was encoded -/

theorem decodeFrom_start {byte : UInt8} {pending : Pending}
    (hstart : startByte byte = ([], some pending)) (rest : Bytes) :
    decodeFrom none (byte :: rest) = decodeFrom (some pending) rest := by
  simp [decodeFrom, decodeByte, hstart]

/-- A continuation byte that others follow. -/
theorem decodeFrom_continue {pending : Pending} {n : Nat} (hbits : n < 0x40)
    (hlower : pending.lower ≤ n + 0x80) (hupper : n + 0x80 ≤ pending.upper)
    (hneeded : 1 < pending.needed) (rest : Bytes) :
    decodeFrom (some pending) (UInt8.ofNat (n + 0x80) :: rest) =
      decodeFrom (some ⟨pending.needed - 1, pending.codePoint * 0x40 + n, 0x80, 0xBF⟩) rest := by
  have hbyte : (UInt8.ofNat (n + 0x80)).toNat = n + 0x80 := by
    rw [UInt8.toNat_ofNat']
    omega
  have hsix : (n + 0x80) % 0x40 = n := by omega
  generalize UInt8.ofNat (n + 0x80) = byte at hbyte ⊢
  simp [decodeFrom, decodeByte, hbyte, hlower, hupper, hsix, Nat.not_le.mpr hneeded]

/-- The continuation byte that ends the character. -/
theorem decodeFrom_last {pending : Pending} {n : Nat} (hbits : n < 0x40)
    (hlower : pending.lower ≤ n + 0x80) (hupper : n + 0x80 ≤ pending.upper)
    (hneeded : pending.needed ≤ 1) (rest : Bytes) :
    decodeFrom (some pending) (UInt8.ofNat (n + 0x80) :: rest) =
      Char.ofNat (pending.codePoint * 0x40 + n) :: decodeFrom none rest := by
  have hbyte : (UInt8.ofNat (n + 0x80)).toNat = n + 0x80 := by
    rw [UInt8.toNat_ofNat']
    omega
  have hsix : (n + 0x80) % 0x40 = n := by omega
  generalize UInt8.ofNat (n + 0x80) = byte at hbyte ⊢
  simp [decodeFrom, decodeByte, hbyte, hlower, hupper, hsix, hneeded]

theorem startByte_two {n : Nat} (hlower : 2 ≤ n) (hupper : n < 0x20) :
    startByte (UInt8.ofNat (n + 0xC0)) = ([], some ⟨1, n, 0x80, 0xBF⟩) := by
  have hbyte : (UInt8.ofNat (n + 0xC0)).toNat = n + 0xC0 := by
    rw [UInt8.toNat_ofNat']
    omega
  simp only [startByte, hbyte]
  rw [if_neg (by omega), if_pos (by omega), show (n + 0xC0) % 0x20 = n by omega]

/-- The bounds of the second of three bytes. -/
def boundsOfThree (n : Nat) : Nat × Nat :=
  if n = 0 then (0xA0, 0xBF) else if n = 0xD then (0x80, 0x9F) else (0x80, 0xBF)

theorem startByte_three {n : Nat} (hupper : n < 0x10) :
    startByte (UInt8.ofNat (n + 0xE0)) =
      ([], some ⟨2, n, (boundsOfThree n).1, (boundsOfThree n).2⟩) := by
  have hbyte : (UInt8.ofNat (n + 0xE0)).toNat = n + 0xE0 := by
    rw [UInt8.toNat_ofNat']
    omega
  simp only [startByte, hbyte, boundsOfThree]
  rw [if_neg (by omega), if_neg (by omega), show (n + 0xE0) % 0x10 = n by omega]
  by_cases hzero : n = 0
  · rw [if_pos (by omega), if_pos hzero]
  · by_cases hsurrogate : n = 0xD
    · rw [if_neg (by omega), if_pos (by omega), if_neg hzero, if_pos hsurrogate]
    · rw [if_neg (by omega), if_neg (by omega), if_pos (by omega), if_neg hzero,
        if_neg hsurrogate]

/-- The bounds of the second of four bytes. -/
def boundsOfFour (n : Nat) : Nat × Nat :=
  if n = 0 then (0x90, 0xBF) else if n = 4 then (0x80, 0x8F) else (0x80, 0xBF)

theorem startByte_four {n : Nat} (hupper : n < 5) :
    startByte (UInt8.ofNat (n + 0xF0)) =
      ([], some ⟨3, n, (boundsOfFour n).1, (boundsOfFour n).2⟩) := by
  have hbyte : (UInt8.ofNat (n + 0xF0)).toNat = n + 0xF0 := by
    rw [UInt8.toNat_ofNat']
    omega
  simp only [startByte, hbyte, boundsOfFour]
  rw [if_neg (by omega), if_neg (by omega), if_neg (by omega), if_neg (by omega),
    if_neg (by omega), show (n + 0xF0) % 0x08 = n by omega]
  by_cases hzero : n = 0
  · rw [if_pos (by omega), if_pos hzero]
  · by_cases hlast : n = 4
    · rw [if_neg (by omega), if_pos (by omega), if_neg hzero, if_pos hlast]
    · rw [if_neg (by omega), if_neg (by omega), if_pos (by omega), if_neg hzero,
        if_neg hlast]

/-- A character of three or four bytes has a second byte within its bounds. -/
theorem boundsOfThree_hold (c : Char) (hlow : 0x7FF < c.toNat) (hthree : c.toNat ≤ 0xFFFF) :
    (boundsOfThree (c.toNat / 4096 % 0x10)).1 ≤ c.toNat / 64 % 0x40 + 0x80 ∧
      c.toNat / 64 % 0x40 + 0x80 ≤ (boundsOfThree (c.toNat / 4096 % 0x10)).2 := by
  have hbounds := char_bounds c
  unfold boundsOfThree
  split
  · exact ⟨by simp only; omega, by simp only; omega⟩
  · split
    · exact ⟨by simp only; omega, by simp only; omega⟩
    · exact ⟨by simp only; omega, by simp only; omega⟩

theorem boundsOfFour_hold (c : Char) (hlow : 0xFFFF < c.toNat) :
    (boundsOfFour (c.toNat / 262144 % 0x08)).1 ≤ c.toNat / 4096 % 0x40 + 0x80 ∧
      c.toNat / 4096 % 0x40 + 0x80 ≤ (boundsOfFour (c.toNat / 262144 % 0x08)).2 := by
  have hbounds := char_bounds c
  unfold boundsOfFour
  split
  · exact ⟨by simp only; omega, by simp only; omega⟩
  · split
    · exact ⟨by simp only; omega, by simp only; omega⟩
    · exact ⟨by simp only; omega, by simp only; omega⟩

/-- An encoded character is read back, whatever follows. -/
theorem decodeFrom_utf8EncodeChar (c : Char) (rest : Bytes) :
    decodeFrom none (String.utf8EncodeChar c ++ rest) = c :: decodeFrom none rest := by
  have hofNat : Char.ofNat c.toNat = c := Char.ofNat_toNat c
  have hbounds := char_bounds c
  rcases utf8EncodeChar_cases c with ⟨hone, heq⟩ | ⟨hlow, htwo, heq⟩ | ⟨hlow, hthree, heq⟩ |
    ⟨hlow, heq⟩
  · have hbyte : (UInt8.ofNat c.toNat).toNat = c.toNat := by
      rw [UInt8.toNat_ofNat']
      omega
    rw [heq]
    simp [decodeFrom, decodeByte, startByte, hbyte, hone, hofNat]
  · rw [heq]
    simp only [List.cons_append, List.nil_append]
    rw [decodeFrom_start (startByte_two (by omega) (by omega)),
      decodeFrom_last (by omega) (by simp) (by simp only; omega) (by simp),
      show c.toNat / 64 % 0x20 * 0x40 + c.toNat % 0x40 = c.toNat by omega, hofNat]
  · have hsecond := boundsOfThree_hold c hlow hthree
    rw [heq]
    simp only [List.cons_append, List.nil_append]
    rw [decodeFrom_start (startByte_three (by omega)),
      decodeFrom_continue (by omega) hsecond.1 hsecond.2 (by simp),
      decodeFrom_last (by omega) (by simp) (by simp only; omega) (by simp),
      show (c.toNat / 4096 % 0x10 * 0x40 + c.toNat / 64 % 0x40) * 0x40
        + c.toNat % 0x40 = c.toNat by omega, hofNat]
  · have hsecond := boundsOfFour_hold c hlow
    rw [heq]
    simp only [List.cons_append, List.nil_append]
    rw [decodeFrom_start (startByte_four (by omega)),
      decodeFrom_continue (by omega) hsecond.1 hsecond.2 (by simp),
      decodeFrom_continue (by omega) (by simp) (by simp only; omega) (by simp),
      decodeFrom_last (by omega) (by simp) (by simp only; omega) (by simp),
      show ((c.toNat / 262144 % 0x08 * 0x40 + c.toNat / 4096 % 0x40) * 0x40
        + c.toNat / 64 % 0x40) * 0x40 + c.toNat % 0x40 = c.toNat by omega, hofNat]

/-- A character cut short is one replacement character. -/
theorem decode_cutChar {c : Char} {cut : Bytes} (hcut : cut <+: String.utf8EncodeChar c)
    (hproper : cut ≠ String.utf8EncodeChar c) (hsome : cut ≠ []) :
    decode cut = [replacement] := by
  have hbounds := char_bounds c
  rcases utf8EncodeChar_cases c with ⟨hone, heq⟩ | ⟨hlow, htwo, heq⟩ | ⟨hlow, hthree, heq⟩ |
    ⟨hlow, heq⟩
  all_goals
    rw [heq] at hcut hproper
    simp only [List.prefix_cons_iff, List.prefix_nil] at hcut
  · obtain hnil | ⟨_, rfl, rfl⟩ := hcut
    · exact absurd hnil hsome
    · exact absurd rfl hproper
  · obtain hnil | ⟨_, rfl, rfl | ⟨_, rfl, rfl⟩⟩ := hcut
    · exact absurd hnil hsome
    · rw [decode, decodeFrom_start (startByte_two (by omega) (by omega))]
      rfl
    · exact absurd rfl hproper
  · have hsecond := boundsOfThree_hold c hlow hthree
    obtain hnil | ⟨_, rfl, rfl | ⟨_, rfl, rfl | ⟨_, rfl, rfl⟩⟩⟩ := hcut
    · exact absurd hnil hsome
    · rw [decode, decodeFrom_start (startByte_three (by omega))]
      rfl
    · rw [decode, decodeFrom_start (startByte_three (by omega)),
        decodeFrom_continue (by omega) hsecond.1 hsecond.2 (by simp)]
      rfl
    · exact absurd rfl hproper
  · have hsecond := boundsOfFour_hold c hlow
    obtain hnil | ⟨_, rfl, rfl | ⟨_, rfl, rfl | ⟨_, rfl, rfl | ⟨_, rfl, rfl⟩⟩⟩⟩ := hcut
    · exact absurd hnil hsome
    · rw [decode, decodeFrom_start (startByte_four (by omega))]
      rfl
    · rw [decode, decodeFrom_start (startByte_four (by omega)),
        decodeFrom_continue (by omega) hsecond.1 hsecond.2 (by simp)]
      rfl
    · rw [decode, decodeFrom_start (startByte_four (by omega)),
        decodeFrom_continue (by omega) hsecond.1 hsecond.2 (by simp),
        decodeFrom_continue (by omega) (by simp) (by simp only; omega) (by simp)]
      rfl
    · exact absurd rfl hproper

theorem decode_encode_append (text : List Char) (rest : Bytes) :
    decode (encode text ++ rest) = text ++ decode rest := by
  induction text with
  | nil => rfl
  | cons c text ih =>
      rw [encode_cons, List.append_assoc, decode, decodeFrom_utf8EncodeChar]
      exact congrArg (c :: ·) ih

/-- Decoding undoes encoding. -/
@[simp] theorem decode_encode (text : List Char) : decode (encode text) = text := by
  simpa using (decode_encode_append text []).trans (by rw [show decode [] = [] from rfl, List.append_nil])

/-- A text cut at a byte: a prefix of its characters, and a replacement character
for the one cut. -/
theorem decode_cut {text : List Char} {cut : Bytes} (hcut : cut <+: encode text) :
    ∃ taken, taken <+: text ∧
      ((cut = encode taken ∧ decode cut = taken) ∨
        (taken ≠ text ∧ decode cut = taken ++ [replacement])) := by
  induction text generalizing cut with
  | nil =>
      have hnil : cut = [] := by simpa using hcut
      exact ⟨[], List.prefix_rfl, Or.inl ⟨hnil, by rw [hnil]; rfl⟩⟩
  | cons c text ih =>
      rw [encode_cons] at hcut
      by_cases hwhole : String.utf8EncodeChar c <+: cut
      · obtain ⟨rest, rfl⟩ := hwhole
        obtain ⟨taken, hprefix, hcases⟩ := ih ((List.prefix_append_right_inj _).mp hcut)
        have hread : decode (String.utf8EncodeChar c ++ rest) = c :: decode rest :=
          decodeFrom_utf8EncodeChar c rest
        refine ⟨c :: taken, List.cons_prefix_cons.mpr ⟨rfl, hprefix⟩, ?_⟩
        rw [hread]
        obtain ⟨hbytes, hdecoded⟩ | ⟨hstrict, hdecoded⟩ := hcases
        · exact Or.inl ⟨by rw [hbytes, encode_cons], by rw [hdecoded]⟩
        · exact Or.inr ⟨by simpa using hstrict, by rw [hdecoded, List.cons_append]⟩
      · have hpart : cut <+: String.utf8EncodeChar c :=
          (List.prefix_or_prefix_of_prefix hcut (List.prefix_append _ _)).resolve_right hwhole
        have hproper : cut ≠ String.utf8EncodeChar c := by
          rintro rfl
          exact hwhole List.prefix_rfl
        refine ⟨[], List.nil_prefix, ?_⟩
        by_cases hsome : cut = []
        · exact Or.inl ⟨hsome, by rw [hsome]; rfl⟩
        · exact Or.inr ⟨by simp, decode_cutChar hpart hproper hsome⟩

/-- Encoding keeps texts apart. -/
theorem encode_injective {left right : List Char} (heq : encode left = encode right) :
    left = right := by
  rw [← decode_encode left, heq, decode_encode]

/-- A byte below 0x80 of an encoded text is one of its characters. -/
theorem mem_encode_ascii {text : List Char} {byte : UInt8} (hascii : byte.toNat ≤ 0x7F)
    (hmem : byte ∈ encode text) : ∃ c ∈ text, c.toNat = byte.toNat := by
  obtain ⟨c, hc, hbyte⟩ := List.mem_flatMap.mp hmem
  refine ⟨c, hc, ?_⟩
  rcases utf8EncodeChar_cases c with ⟨hone, heq⟩ | ⟨hlow, htwo, heq⟩ | ⟨hlow, hthree, heq⟩ |
    ⟨hlow, heq⟩
  all_goals
    rw [heq] at hbyte
    simp only [List.mem_cons, List.not_mem_nil, or_false] at hbyte
  · rw [hbyte, UInt8.toNat_ofNat']
    omega
  · obtain rfl | rfl := hbyte
    all_goals
      rw [UInt8.toNat_ofNat'] at hascii
      omega
  · obtain rfl | rfl | rfl := hbyte
    all_goals
      rw [UInt8.toNat_ofNat'] at hascii
      omega
  · have hbounds := char_bounds c
    obtain rfl | rfl | rfl | rfl := hbyte
    all_goals
      rw [UInt8.toNat_ofNat'] at hascii
      omega

/-! ## Texts cut at the front -/

/-- A byte that continues a character. -/
def Continues (byte : UInt8) : Prop :=
  0x80 ≤ byte.toNat ∧ byte.toNat ≤ 0xBF

theorem continues_ofNat {n : Nat} (hbits : n < 0x40) : Continues (UInt8.ofNat (n + 0x80)) := by
  unfold Continues
  rw [UInt8.toNat_ofNat']
  omega

/-- All bytes of a character but its first continue it. -/
theorem utf8EncodeChar_tail (c : Char) :
    ∃ first tail, String.utf8EncodeChar c = first :: tail ∧ ∀ byte ∈ tail, Continues byte := by
  rcases utf8EncodeChar_cases c with ⟨-, heq⟩ | ⟨-, -, heq⟩ | ⟨-, -, heq⟩ | ⟨-, heq⟩
  all_goals
    refine ⟨_, _, heq, fun byte hmem => ?_⟩
    simp only [List.mem_cons, List.not_mem_nil, or_false] at hmem
  · rw [hmem]
    exact continues_ofNat (by omega)
  · rcases hmem with rfl | rfl <;> exact continues_ofNat (by omega)
  · rcases hmem with rfl | rfl | rfl <;> exact continues_ofNat (by omega)

/-- What is left of an encoded text after a cut: stray bytes of the character cut, and the
characters after it. -/
theorem encode_end {text : List Char} {before rest : Bytes} (hsplit : encode text = before ++ rest) :
    ∃ taken left stray, text = taken ++ left ∧ rest = stray ++ encode left
      ∧ ∀ byte ∈ stray, Continues byte := by
  induction text generalizing before with
  | nil =>
      obtain ⟨-, rfl⟩ := List.append_eq_nil_iff.1 hsplit.symm
      exact ⟨[], [], [], rfl, rfl, by simp⟩
  | cons c text ih =>
      rw [encode_cons] at hsplit
      rcases List.append_eq_append_iff.1 hsplit with ⟨more, -, hmore⟩ | ⟨more, hmore, hrest⟩
      · obtain ⟨taken, left, stray, rfl, hrest, hstray⟩ := ih hmore
        exact ⟨c :: taken, left, stray, rfl, hrest, hstray⟩
      · cases before with
        | nil =>
            refine ⟨[], c :: text, [], rfl, ?_, by simp⟩
            rw [hrest, ← show String.utf8EncodeChar c = more from hmore, encode_cons]
            rfl
        | cons first before =>
            obtain ⟨start, tail, hchar, htail⟩ := utf8EncodeChar_tail c
            rw [hchar] at hmore
            obtain ⟨-, rfl⟩ := List.cons.inj hmore
            exact ⟨[c], text, more, rfl, hrest,
              fun byte hmem => htail byte (List.mem_append_right before hmem)⟩

/-- Each stray byte is one replacement character. -/
theorem decode_stray {stray : Bytes} (hstray : ∀ byte ∈ stray, Continues byte) (rest : Bytes) :
    decode (stray ++ rest) = List.replicate stray.length replacement ++ decode rest := by
  induction stray with
  | nil => rfl
  | cons byte stray ih =>
      obtain ⟨hlower, hupper⟩ := hstray byte List.mem_cons_self
      have hstart : startByte byte = ([replacement], none) := by
        unfold startByte
        dsimp only
        repeat rw [if_neg (by omega)]
      have hrest := ih fun other hmem => hstray other (List.mem_cons_of_mem byte hmem)
      rw [List.cons_append, decode, decodeFrom, decodeByte, hstart]
      exact congrArg (replacement :: ·) hrest

end SimulatorBroker.Text
