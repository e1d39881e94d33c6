import Mathlib.Data.List.TakeDrop
import SimulatorBroker.PublicSurface.Scanner

/-!
# Home paths that the scan finds

On ASCII texts the pre-check never matters and the line is right.  An occurrence is missed
where it begins inside one that was refused, which takes a home path that overlaps itself.
-/

namespace SimulatorBroker.PublicSurface

open Text

def Ascii (text : Units) : Prop :=
  ∀ unit ∈ text, unit < 0x80

theorem ascii_of_toNat {text : Units} (htext : text.all (·.toNat < 128) = true) :
    Ascii text := by
  intro unit hunit
  have hbelow := List.all_eq_true.mp htext unit hunit
  exact UInt16.lt_iff_toNat_lt.mpr (of_decide_eq_true hbelow)

/-- The text with its JSON escapes decoded. -/
def decoded (text : Units) : Units :=
  (normalizeJsonEscapes text).normalized

/-- One name of a normalized path. -/
structure PathName (name : Units) : Prop where
  ascii : Ascii name
  nonempty : name ≠ []
  noSlash : slash ∉ name
  notCurrent : name ≠ [period]
  notParent : name ≠ [period, period]

/-- An absolute path with these names. -/
def pathText (names : List Units) : Units :=
  if names = [] then [slash] else names.flatMap fun name => slash :: name

/-- An ASCII absolute normalized path. -/
def HomePath (home : Units) : Prop :=
  ∃ names, (∀ name ∈ names, PathName name) ∧ home = pathText names

/-- The home path occurs here, at a boundary. -/
def HomeAt (text home : Units) (offset : Nat) : Prop :=
  OccursAt home text offset ∧ isHomePathBoundary text offset home = true

/-- The unit of the decoded text comes from this offset of the text, and what follows there
decodes to what follows. -/
def ComesFrom (text : Units) (offset origin : Nat) : Prop :=
  (normalizeJsonEscapes text).originalOffsets[offset]? = some origin ∧
    decoded (text.drop origin) = (decoded text).drop offset

/-- The scan reports where it should and the right line, and the pre-check makes no difference. -/
structure MissesNone (text home : Units) : Prop where
  reports : (scanText text home).isSome = true ↔
    (∃ offset, HomeAt text home offset) ∨ ∃ offset, HomeAt (decoded text) home offset
  precheck : scanText text home = scanTextUnfiltered text home
  line : ∀ line, scanText text home = some line →
    (∃ offset, HomeAt text home offset ∧ line = lineNumberForOffset text offset) ∨
      ∃ offset origin, HomeAt (decoded text) home offset ∧ ComesFrom text offset origin ∧
        line = lineNumberForOffset text origin

/-- It is one of the occurrences that are counted from the left without overlaps. -/
def CountedHomeAt (text home : Units) (offset : Nat) : Prop :=
  Counted home text 0 offset ∧ isHomePathBoundary text offset home = true

/-- Where the home path occurs at a boundary, in the text or decoded, one of the occurrences
that are counted from the left is at a boundary. -/
def Uncovered (text home : Units) : Prop :=
  ((∃ offset, HomeAt text home offset) ∨ ∃ offset, HomeAt (decoded text) home offset) →
    (∃ offset, CountedHomeAt text home offset) ∨
      ∃ offset, CountedHomeAt (decoded text) home offset

/-- The home path overlaps itself behind a character that is no path fragment. -/
def OverlapsItself (home : Units) : Prop :=
  ∃ shift unit, 0 < shift ∧ shift < home.length ∧ home.drop shift <+: home ∧
    home[shift - 1]? = some unit ∧ isPathFragment unit = false

variable {text home : Units} {offset : Nat}

/-! ## Home paths -/

theorem HomePath.starts (hhome : HomePath home) : ∃ rest, home = slash :: rest := by
  obtain ⟨names, -, rfl⟩ := hhome
  cases names with
  | nil => exact ⟨[], rfl⟩
  | cons name names => exact ⟨_, rfl⟩

theorem HomePath.ne_nil (hhome : HomePath home) : home ≠ [] := by
  obtain ⟨rest, rfl⟩ := hhome.starts
  exact List.cons_ne_nil _ _

theorem HomePath.ascii (hhome : HomePath home) : Ascii home := by
  obtain ⟨names, hnames, rfl⟩ := hhome
  intro unit hunit
  unfold pathText at hunit
  split at hunit
  · rw [List.mem_singleton.mp hunit]
    decide
  · obtain ⟨name, hname, hmem⟩ := List.mem_flatMap.mp hunit
    rcases List.mem_cons.mp hmem with rfl | hmem
    · decide
    · exact (hnames name hname).ascii unit hmem

/-- No slash follows on a slash. -/
theorem noDoubleSlash {names : List Units} (hnames : ∀ name ∈ names, PathName name) {place : Nat}
    (hplace : (names.flatMap fun name => slash :: name)[place]? = some slash) :
    (names.flatMap fun name => slash :: name)[place + 1]? ≠ some slash := by
  induction names generalizing place with
  | nil => simp at hplace
  | cons name names ih =>
      have hname := hnames name List.mem_cons_self
      have hpositive := List.length_pos_of_ne_nil hname.nonempty
      rw [List.flatMap_cons, List.cons_append] at hplace ⊢
      cases place with
      | zero =>
          rw [List.getElem?_cons_succ, List.getElem?_append_left hpositive]
          exact fun hmem => hname.noSlash (List.mem_of_getElem? hmem)
      | succ place =>
          rw [List.getElem?_cons_succ] at hplace ⊢
          by_cases hinside : place < name.length
          · rw [List.getElem?_append_left hinside] at hplace
            exact absurd (List.mem_of_getElem? hplace) hname.noSlash
          · rw [List.getElem?_append_right (by omega)] at hplace ⊢
            rw [show place + 1 - name.length = place - name.length + 1 by omega]
            exact ih (fun other hother => hnames other (List.mem_cons_of_mem _ hother)) hplace

theorem HomePath.noDoubleSlash (hhome : HomePath home) {place : Nat}
    (hplace : home[place]? = some slash) : home[place + 1]? ≠ some slash := by
  obtain ⟨names, hnames, rfl⟩ := hhome
  unfold pathText at hplace ⊢
  split at hplace
  · next hnil =>
      rw [if_pos hnil]
      simp
  · next hcons =>
      rw [if_neg hcons]
      exact PublicSurface.noDoubleSlash hnames hplace

theorem OccursAt.slash (hhome : HomePath home) (hoccurs : OccursAt home text offset) :
    text[offset]? = some slash := by
  obtain ⟨rest, rfl⟩ := hhome.starts
  have hunit : text[offset + 0]? = (slash :: rest)[0]? := OccursAt.getElem? hoccurs (by simp)
  rwa [Nat.add_zero] at hunit

/-! ## The search -/

theorem CountedHomeAt.homeAt (hcounted : CountedHomeAt text home offset) :
    HomeAt text home offset :=
  ⟨hcounted.1.occursAt, hcounted.2⟩

theorem indexOfHomePath_eq_some (hindex : indexOfHomePath text home = some offset) :
    CountedHomeAt text home offset :=
  searchFrom_eq_some hindex

theorem indexOfHomePath_isSome (hhome : HomePath home) :
    (indexOfHomePath text home).isSome = true ↔ ∃ offset, CountedHomeAt text home offset := by
  constructor
  · intro hsome
    obtain ⟨offset, hindex⟩ := Option.isSome_iff_exists.mp hsome
    exact ⟨offset, indexOfHomePath_eq_some hindex⟩
  · rintro ⟨offset, hcounted, hboundary⟩
    exact searchFrom_isSome hhome.ne_nil hcounted hboundary (by omega)

/-! ## Graphemes -/

theorem graphemes_flatMap (index : Nat) (text : Units) :
    ((graphemes index text).flatMap fun segment => canonicalText segment.1) = text := by
  induction index, text using graphemes.induct with
  | case1 index => rfl
  | case2 index unit => rfl
  | case3 index first second rest hline ih =>
      rw [graphemes, if_pos hline, List.flatMap_cons, ih]
      rfl
  | case4 index first second rest hother ih =>
      rw [graphemes, if_neg hother, List.flatMap_cons, ih]
      rfl

theorem canonicalTextWithOffsets_normalized (text : Units) (sourceOffsets : Option (List Nat)) :
    (canonicalTextWithOffsets text sourceOffsets).normalized = text :=
  graphemes_flatMap 0 text

/-- Only a line feed may be mapped to the unit before it. -/
theorem graphemes_offsets (sourceOffsets : Option (List Nat)) (index : Nat) (text : Units)
    {place : Nat} {unit : Unit16} (hunit : text[place]? = some unit) (hother : unit ≠ lineFeed) :
    ((graphemes index text).flatMap fun segment =>
      List.replicate (canonicalText segment.1).length
        (sourceOffset sourceOffsets segment.2))[place]? =
      some (sourceOffset sourceOffsets (index + place)) := by
  induction index, text using graphemes.induct generalizing place with
  | case1 index => simp at hunit
  | case2 index only =>
      cases place with
      | zero => simp [graphemes, canonicalText]
      | succ place => simp at hunit
  | case3 index first second rest hline ih =>
      rw [graphemes, if_pos hline, List.flatMap_cons]
      cases place with
      | zero => simp [canonicalText]
      | succ place =>
          cases place with
          | zero =>
              simp only [Nat.zero_add, List.getElem?_cons_succ, List.getElem?_cons_zero,
                Option.some.injEq] at hunit
              exact absurd (hunit ▸ hline.2) hother
          | succ place =>
              simp only [List.getElem?_cons_succ] at hunit
              rw [List.getElem?_append_right (by simp [canonicalText]), List.length_replicate,
                show place + 1 + 1 - (canonicalText [first, second]).length = place from rfl,
                ih hunit, Nat.add_assoc, Nat.add_comm 2 place]
  | case4 index first second rest hother' ih =>
      rw [graphemes, if_neg hother', List.flatMap_cons]
      cases place with
      | zero => simp [canonicalText]
      | succ place =>
          rw [List.getElem?_cons_succ] at hunit
          rw [List.getElem?_append_right (by simp [canonicalText]), List.length_replicate,
            show place + 1 - (canonicalText [first]).length = place from rfl, ih hunit,
            Nat.add_assoc, Nat.add_comm 1 place]

theorem indexInMapped_canonical (hhome : HomePath home) (text : Units)
    (sourceOffsets : Option (List Nat)) :
    indexInMapped (canonicalTextWithOffsets text sourceOffsets) home =
      (indexOfHomePath text home).map (sourceOffset sourceOffsets) := by
  unfold indexInMapped
  rw [canonicalTextWithOffsets_normalized]
  cases hindex : indexOfHomePath text home with
  | none => rfl
  | some offset =>
      have hslash := OccursAt.slash hhome (indexOfHomePath_eq_some hindex).1.occursAt
      have hoffset := graphemes_offsets sourceOffsets 0 text hslash (by decide)
      rw [Nat.zero_add] at hoffset
      simp only [Option.map_some, canonicalTextWithOffsets, hoffset, Option.getD_some]

/-! ## Decoding -/

theorem decodeFrom_skip (index skipped : Nat) (text : Units) :
    decodeFrom index skipped text = decodeFrom (index + skipped) 0 (text.drop skipped) := by
  induction text generalizing index skipped with
  | nil => simp [decodeFrom]
  | cons unit rest ih =>
      cases skipped with
      | zero => rfl
      | succ skipped =>
          rw [decodeFrom, ih, List.drop_succ_cons, Nat.add_right_comm, Nat.add_assoc]

/-- The escape at the beginning, and the rest. -/
theorem decodeFrom_cons (index : Nat) (unit : Unit16) (rest : Units)
    (htaken : 0 < (decodeHead unit rest).2) :
    decodeFrom index 0 (unit :: rest) =
      ((decodeHead unit rest).1.map fun unit => (unit, index)) ++
        decodeFrom (index + (decodeHead unit rest).2) 0
          ((unit :: rest).drop (decodeHead unit rest).2) := by
  rw [decodeFrom]
  dsimp only
  rw [decodeFrom_skip]
  obtain ⟨taken, htaken⟩ : ∃ less, (decodeHead unit rest).2 = less + 1 :=
    ⟨(decodeHead unit rest).2 - 1, by omega⟩
  rw [htaken, Nat.add_sub_cancel, List.drop_succ_cons, Nat.add_right_comm, Nat.add_assoc]

/-- The second half of a surrogate pair is no slash. -/
theorem lowEscape?_ne_slash {rest : Units} {low : Nat} (hlow : lowEscape? rest = some low) :
    low.toUInt16 ≠ slash := by
  unfold lowEscape? at hlow
  split at hlow
  · rw [Option.filter_eq_some_iff, decide_eq_true_eq] at hlow
    intro hslash
    have hvalue := congrArg UInt16.toNat hslash
    rw [Nat.toUInt16_eq, UInt16.toNat_ofNat', Nat.mod_eq_of_lt (by omega)] at hvalue
    rw [hvalue] at hlow
    exact absurd hlow.2.1 (by decide)
  · cases hlow

/-- One unit is decoded, or a surrogate pair. -/
theorem decodeUnicode_cases {rest : Units} {found : Units × Nat}
    (hfound : decodeUnicode rest = some found) :
    0 < found.2 ∧ ((∃ only, found.1 = [only]) ∨
      ∃ high low, found.1 = [high, low] ∧ low ≠ slash) := by
  unfold decodeUnicode at hfound
  rw [Option.map_eq_some_iff] at hfound
  obtain ⟨high, -, rfl⟩ := hfound
  cases hlow : lowEscape? (rest.drop 4) with
  | none => exact ⟨Nat.zero_lt_succ _, .inl ⟨_, rfl⟩⟩
  | some low =>
      dsimp only
      split
      · exact ⟨Nat.zero_lt_succ _, .inr ⟨_, _, rfl, lowEscape?_ne_slash hlow⟩⟩
      · exact ⟨Nat.zero_lt_succ _, .inl ⟨_, rfl⟩⟩

theorem decodeHead_cases (unit : Unit16) (rest : Units) :
    0 < (decodeHead unit rest).2 ∧ ((∃ only, (decodeHead unit rest).1 = [only]) ∨
      ∃ high low, (decodeHead unit rest).1 = [high, low] ∧ low ≠ slash) := by
  unfold decodeHead
  split
  · exact ⟨Nat.zero_lt_succ _, .inl ⟨_, rfl⟩⟩
  · cases rest with
    | nil => exact ⟨Nat.zero_lt_succ _, .inl ⟨_, rfl⟩⟩
    | cons escape rest =>
        dsimp only
        cases hescape : jsonEscape? escape with
        | some found => exact ⟨Nat.zero_lt_succ _, .inl ⟨_, rfl⟩⟩
        | none =>
            dsimp only
            split
            · cases hunicode : decodeUnicode rest with
              | none => exact ⟨Nat.zero_lt_succ _, .inl ⟨_, rfl⟩⟩
              | some found => exact decodeUnicode_cases hunicode
            · exact ⟨Nat.zero_lt_succ _, .inl ⟨_, rfl⟩⟩

theorem decodeFrom_units (index skipped : Nat) (text : Units) :
    (decodeFrom index skipped text).map (·.1) = (decodeFrom 0 skipped text).map (·.1) := by
  suffices hsame : ∀ other, (decodeFrom index skipped text).map (·.1) =
      (decodeFrom other skipped text).map (·.1) from hsame 0
  intro other
  induction text generalizing index other skipped with
  | nil => rfl
  | cons unit rest ih =>
      cases skipped with
      | succ skipped => exact ih _ _ _
      | zero =>
          rw [decodeFrom, decodeFrom]
          dsimp only
          rw [List.map_append, List.map_append, List.map_map, List.map_map, ih _ _ (other + 1)]
          rfl

/-- From the origin of a slash on, the text decodes to the rest. -/
theorem decodeFrom_origin {index place origin : Nat}
    (hplace : (decodeFrom index 0 text)[place]? = some (slash, origin)) :
    ∃ more, origin = index + more ∧
      decodeFrom origin 0 (text.drop more) = (decodeFrom index 0 text).drop place := by
  induction hlength : text.length using Nat.strong_induction_on generalizing index place text with
  | _ length ih =>
      cases text with
      | nil => simp [decodeFrom] at hplace
      | cons unit rest =>
          obtain ⟨htaken, hunits⟩ := decodeHead_cases unit rest
          have hcons := decodeFrom_cons index unit rest htaken
          rcases Nat.lt_or_ge place ((decodeHead unit rest).1.map fun unit => (unit, index)).length
            with hinside | hle
          · rw [hcons, List.getElem?_append_left hinside] at hplace
            cases place with
            | zero =>
                rcases hunits with ⟨only, honly⟩ | ⟨high, low, hpair, -⟩
                · rw [honly] at hplace
                  cases hplace
                  exact ⟨0, rfl, rfl⟩
                · rw [hpair] at hplace
                  cases hplace
                  exact ⟨0, rfl, rfl⟩
            | succ place =>
                rcases hunits with ⟨only, honly⟩ | ⟨high, low, hpair, hlow⟩
                · rw [honly] at hplace
                  cases hplace
                · rw [hpair] at hplace
                  cases place with
                  | zero =>
                      cases hplace
                      exact absurd rfl hlow
                  | succ place => cases hplace
          · rw [hcons, List.getElem?_append_right hle] at hplace
            have hshorter : ((unit :: rest).drop (decodeHead unit rest).2).length < length := by
              rw [List.length_drop, ← hlength, List.length_cons]
              omega
            obtain ⟨more, horigin, hdrop⟩ := ih _ hshorter hplace rfl
            refine ⟨(decodeHead unit rest).2 + more, by omega, ?_⟩
            rw [← List.drop_drop, hdrop, hcons, List.drop_append, List.drop_eq_nil_of_le hle,
              List.nil_append]

/-- An occurrence in the decoded text comes from an offset of the text. -/
theorem comesFrom_of_occursAt (hhome : HomePath home)
    (hoccurs : OccursAt home (decoded text) offset) :
    ComesFrom text offset (sourceOffset (some (normalizeJsonEscapes text).originalOffsets)
      offset) := by
  have hslash := OccursAt.slash hhome hoccurs
  unfold decoded normalizeJsonEscapes at hslash
  rw [List.getElem?_map, Option.map_eq_some_iff] at hslash
  obtain ⟨⟨unit, origin⟩, hplace, rfl⟩ := hslash
  have horigins : (normalizeJsonEscapes text).originalOffsets[offset]? = some origin := by
    unfold normalizeJsonEscapes
    rw [List.getElem?_map, hplace]
    rfl
  have hsource : sourceOffset (some (normalizeJsonEscapes text).originalOffsets) offset = origin := by
    unfold sourceOffset
    rw [Option.bind_some, horigins]
    rfl
  rw [hsource]
  refine ⟨horigins, ?_⟩
  obtain ⟨more, hmore, hdrop⟩ := decodeFrom_origin hplace
  rw [Nat.zero_add] at hmore
  subst hmore
  unfold decoded normalizeJsonEscapes
  dsimp only
  rw [← decodeFrom_units origin, hdrop, List.map_drop]

/-! ## The pre-check -/

theorem decodeFrom_plain (index : Nat) (hplain : backslash ∉ text) :
    (decodeFrom index 0 text).map (·.1) = text := by
  induction text generalizing index with
  | nil => rfl
  | cons unit rest ih =>
      have hunit : unit ≠ backslash := fun hsame => hplain (hsame ▸ List.mem_cons_self)
      have hhead : decodeHead unit rest = ([unit], 1) := if_pos hunit
      rw [decodeFrom, hhead]
      dsimp only
      rw [List.map_append, ih _ fun hmem => hplain (List.mem_cons_of_mem _ hmem)]
      rfl

theorem indexOfHomePath_absent (habsent : ¬ home <:+: text) : indexOfHomePath text home = none := by
  cases hindex : indexOfHomePath text home with
  | none => rfl
  | some offset =>
      refine absurd ?_ habsent
      exact (indexOfHomePath_eq_some hindex).1.occursAt.isInfix.trans
        (List.drop_suffix _ _).isInfix

/-- Where the pre-check turns a text down, there is nothing to find. -/
theorem absent_of_precheck (hhome : HomePath home)
    (hprecheck : textMayContainCanonicalValue text home = false) :
    indexOfHomePath text home = none ∧ indexOfHomePath (decoded text) home = none := by
  unfold textMayContainCanonicalValue at hprecheck
  rw [if_neg (by simpa using hhome.ne_nil)] at hprecheck
  split at hprecheck
  · cases hprecheck
  · next habsent =>
      have hnone := indexOfHomePath_absent (by simpa [includesText] using habsent)
      split at hprecheck
      · cases hprecheck
      · split at hprecheck
        · cases hprecheck
        · have hplain : backslash ∉ text := by
            rw [Bool.or_eq_false_iff] at hprecheck
            simpa using hprecheck.1
          refine ⟨hnone, ?_⟩
          unfold decoded normalizeJsonEscapes
          rw [decodeFrom_plain 0 hplain]
          exact hnone

theorem scanTextUnfiltered_eq (hhome : HomePath home) (text : Units) :
    scanTextUnfiltered text home = ((indexOfHomePath text home).or
      ((indexOfHomePath (decoded text) home).map
        (sourceOffset (some (normalizeJsonEscapes text).originalOffsets)))).map
      (lineNumberForOffset text) := by
  have hself : (indexOfHomePath text home).map (sourceOffset none) = indexOfHomePath text home :=
    Option.map_id'
  unfold scanTextUnfiltered
  dsimp only
  rw [indexInMapped_canonical hhome, indexInMapped_canonical hhome, hself]
  rfl

theorem scanText_eq_unfiltered (hhome : HomePath home) (text : Units) :
    scanText text home = scanTextUnfiltered text home := by
  cases hprecheck : textMayContainCanonicalValue text home with
  | true =>
      unfold scanText indexOfCanonicalHomePath indexOfJsonEscapedHomePath
      rw [hprecheck]
      rfl
  | false =>
      obtain ⟨hraw, hdecoded⟩ := absent_of_precheck hhome hprecheck
      rw [scanTextUnfiltered_eq hhome, hraw, hdecoded]
      unfold scanText indexOfCanonicalHomePath indexOfJsonEscapedHomePath
      rw [hprecheck]
      rfl

theorem scanText_isSome (hhome : HomePath home) :
    (scanText text home).isSome = true ↔ (∃ offset, CountedHomeAt text home offset) ∨
      ∃ offset, CountedHomeAt (decoded text) home offset := by
  rw [scanText_eq_unfiltered hhome, scanTextUnfiltered_eq hhome, Option.isSome_map,
    Option.isSome_or, Bool.or_eq_true, Option.isSome_map, indexOfHomePath_isSome hhome,
    indexOfHomePath_isSome hhome]

theorem scanText_line (hhome : HomePath home) {line : Nat}
    (hscan : scanText text home = some line) :
    (∃ offset, HomeAt text home offset ∧ line = lineNumberForOffset text offset) ∨
      ∃ offset origin, HomeAt (decoded text) home offset ∧ ComesFrom text offset origin ∧
        line = lineNumberForOffset text origin := by
  rw [scanText_eq_unfiltered hhome, scanTextUnfiltered_eq hhome, Option.map_eq_some_iff] at hscan
  obtain ⟨found, hfound, rfl⟩ := hscan
  rw [Option.or_eq_some_iff] at hfound
  rcases hfound with hraw | ⟨-, hdecoded⟩
  · exact .inl ⟨found, (indexOfHomePath_eq_some hraw).homeAt, rfl⟩
  · obtain ⟨offset, hindex, rfl⟩ := Option.map_eq_some_iff.mp hdecoded
    have hat := (indexOfHomePath_eq_some hindex).homeAt
    exact .inr ⟨offset, _, hat, comesFrom_of_occursAt hhome hat.1, rfl⟩

/-- Nothing is missed exactly where an occurrence at a boundary is counted. -/
theorem missesNone_iff_uncovered (hhome : HomePath home) :
    MissesNone text home ↔ Uncovered text home := by
  constructor
  · rintro ⟨hreports, -, -⟩ hsome
    exact (scanText_isSome hhome).mp (hreports.mpr hsome)
  · intro huncovered
    refine ⟨?_, scanText_eq_unfiltered hhome text, fun line => scanText_line hhome⟩
    constructor
    · intro hscan
      rcases (scanText_isSome hhome).mp hscan with ⟨offset, hraw⟩ | ⟨offset, hdecoded⟩
      · exact .inl ⟨offset, hraw.homeAt⟩
      · exact .inr ⟨offset, hdecoded.homeAt⟩
    · exact fun hsome => (scanText_isSome hhome).mpr (huncovered hsome)

/-! ## Home paths that overlap themselves -/

theorem uncovered_of_homeAt (hhome : HomePath home) (hsingle : ¬ OverlapsItself home)
    (hat : HomeAt text home offset) : ∃ offset, CountedHomeAt text home offset := by
  rcases hat.1.counted_or_covered hhome.ne_nil (Nat.zero_le offset) with
    hcounted | ⟨earlier, hcounted, hlt, hinside⟩
  · exact ⟨offset, hcounted, hat.2⟩
  · exfalso
    obtain ⟨shift, rfl⟩ : ∃ shift, offset = earlier + shift := ⟨offset - earlier, by omega⟩
    have hpositive : 0 < shift := by omega
    have hshift : shift < home.length := by omega
    have hoverlap := hcounted.occursAt.overlap hat.1 hshift.le
    have hbefore : characterBefore text (earlier + shift) = home[shift - 1]? := by
      unfold characterBefore
      rw [if_pos (by omega), show earlier + shift - 1 = earlier + (shift - 1) by omega,
        hcounted.occursAt.getElem? (by omega)]
    obtain ⟨unit, hunit⟩ : ∃ unit, home[shift - 1]? = some unit :=
      ⟨_, List.getElem?_eq_getElem (by omega)⟩
    have hboundary := hat.2
    unfold isHomePathBoundary at hboundary
    rw [hbefore, hunit] at hboundary
    simp only [testPathFragment, Option.map_some, Option.getD_some, Bool.and_eq_true,
      Bool.or_eq_true, Bool.not_eq_true', beq_iff_eq, Option.some.injEq] at hboundary
    rcases hboundary.1 with hfragment | ⟨hslash, -⟩
    · exact hsingle ⟨shift, unit, hpositive, hshift, hoverlap, hunit, hfragment⟩
    · -- the occurrence begins with a slash of its own
      refine hhome.noDoubleSlash (hslash ▸ hunit) ?_
      have hown := OccursAt.slash hhome hat.1
      rw [hcounted.occursAt.getElem? hshift] at hown
      rwa [show shift - 1 + 1 = shift by omega]

/-- A character as a JSON escape of its code. -/
def escapeUnit (unit : Unit16) : Units :=
  let digit := fun value : Nat => if value < 10 then (0x30 + value).toUInt16
    else (0x57 + value).toUInt16
  [backslash, 0x75, 0x30, 0x30, digit (unit.toNat / 16), digit (unit.toNat % 16)]

def escapeText (text : Units) : Units :=
  text.flatMap escapeUnit

theorem escapeUnit_units {unit : Unit16} (hunit : unit < 0x80) :
    (∀ written ∈ escapeUnit unit, written < 0x80 ∧ written ≠ slash) ∧
      hexValue? ((escapeUnit unit).drop 2) = some unit.toNat := by
  have hall : ∀ value < 128,
      (escapeUnit (Nat.toUInt16 value)).all
          (fun written => written.toNat < 128 && written.toNat != 0x2F) = true ∧
        hexValue? ((escapeUnit (Nat.toUInt16 value)).drop 2) =
          some (Nat.toUInt16 value).toNat := by
    decide +kernel
  obtain ⟨hwritten, hhex⟩ := hall unit.toNat (UInt16.lt_iff_toNat_lt.mp hunit)
  rw [show unit.toNat.toUInt16 = unit by simp] at hwritten hhex
  refine ⟨fun written hmem => ?_, hhex⟩
  have hboth := List.all_eq_true.mp hwritten written hmem
  simp only [Bool.and_eq_true, decide_eq_true_eq, bne_iff_ne] at hboth
  exact ⟨UInt16.lt_iff_toNat_lt.mpr hboth.1, fun heq => hboth.2 (congrArg UInt16.toNat heq)⟩

theorem decodeHead_escape {unit : Unit16} (hunit : unit < 0x80) (rest : Units) :
    decodeHead backslash ((escapeUnit unit).drop 1 ++ rest) = ([unit], 6) := by
  have hhex := (escapeUnit_units hunit).2
  have htake : ((escapeUnit unit).drop 2 ++ rest).take 4 = (escapeUnit unit).drop 2 := rfl
  have hunicode : decodeUnicode ((escapeUnit unit).drop 2 ++ rest) = some ([unit], 6) := by
    have hself : unit.toNat.toUInt16 = unit := by simp
    have hlow : ¬ (0xD800 ≤ unit.toNat ∧ unit.toNat ≤ 0xDBFF) := by
      have : unit.toNat < 0x80 := hunit
      omega
    unfold decodeUnicode
    rw [htake, hhex, Option.map_some]
    split
    · rw [if_neg hlow, hself]
    · rw [hself]
  have hescape : jsonEscape? 0x75 = none := by decide
  unfold decodeHead
  rw [if_neg (by decide)]
  have hdrop : (escapeUnit unit).drop 1 ++ rest = 0x75 :: ((escapeUnit unit).drop 2 ++ rest) := rfl
  rw [hdrop]
  dsimp only
  rw [hescape]
  dsimp only
  rw [if_pos rfl, hunicode, Option.getD_some]

theorem decodeFrom_escapeText (hascii : Ascii text) (index : Nat) :
    (decodeFrom index 0 (escapeText text)).map (·.1) = text := by
  induction text generalizing index with
  | nil => rfl
  | cons unit rest ih =>
      have hunit := hascii unit List.mem_cons_self
      have hhead := decodeHead_escape hunit (escapeText rest)
      have hcons := decodeFrom_cons index backslash ((escapeUnit unit).drop 1 ++ escapeText rest)
        (by rw [hhead]; exact Nat.zero_lt_succ _)
      have htext : escapeText (unit :: rest) =
          backslash :: ((escapeUnit unit).drop 1 ++ escapeText rest) := rfl
      rw [htext, hcons, hhead, List.map_append]
      have hdrop : (backslash :: ((escapeUnit unit).drop 1 ++ escapeText rest)).drop 6 =
          escapeText rest := rfl
      rw [hdrop, ih fun other hother => hascii other (List.mem_cons_of_mem _ hother)]
      rfl

theorem decoded_escapeText (hascii : Ascii text) : decoded (escapeText text) = text :=
  decodeFrom_escapeText hascii 0

theorem ascii_escapeText (hascii : Ascii text) : Ascii (escapeText text) := by
  intro written hwritten
  obtain ⟨unit, hunit, hmem⟩ := List.mem_flatMap.mp hwritten
  exact ((escapeUnit_units (hascii unit hunit)).1 written hmem).1

theorem slash_notMem_escapeText (hascii : Ascii text) : slash ∉ escapeText text := by
  intro hwritten
  obtain ⟨unit, hunit, hmem⟩ := List.mem_flatMap.mp hwritten
  exact ((escapeUnit_units (hascii unit hunit)).1 slash hmem).2 rfl

/-- A letter, the beginning of the home path, and the home path. -/
def hiddenText (home : Units) (shift : Nat) : Units :=
  0x7A :: (home.take shift ++ home)

section Hidden

variable {shift : Nat} {unit : Unit16}

theorem ascii_hiddenText (hhome : HomePath home) : Ascii (hiddenText home shift) := by
  intro written hwritten
  rcases List.mem_cons.mp hwritten with rfl | hmem
  · decide
  · rcases List.mem_append.mp hmem with hbegin | hmem
    · exact hhome.ascii written (List.mem_of_mem_take hbegin)
    · exact hhome.ascii written hmem

theorem length_hiddenText (hshift : shift < home.length) :
    (hiddenText home shift).length = 1 + shift + home.length := by
  unfold hiddenText
  rw [List.length_cons, List.length_append, List.length_take, Nat.min_eq_left hshift.le]
  omega

/-- The second occurrence is at a boundary. -/
theorem homeAt_hiddenText (hshift : shift < home.length) (hpositive : 0 < shift)
    (hunit : home[shift - 1]? = some unit) (hfragment : isPathFragment unit = false) :
    HomeAt (hiddenText home shift) home (1 + shift) := by
  have htake : (home.take shift).length = shift := by
    rw [List.length_take, Nat.min_eq_left hshift.le]
  have hdrop : (hiddenText home shift).drop (1 + shift) = home := by
    rw [Nat.add_comm, hiddenText, List.drop_succ_cons, List.drop_append_of_le_length htake.ge,
      List.drop_eq_nil_of_le htake.le, List.nil_append]
  have hbefore : characterBefore (hiddenText home shift) (1 + shift) = some unit := by
    unfold characterBefore hiddenText
    rw [if_pos (by omega), show 1 + shift - 1 = shift - 1 + 1 by omega, List.getElem?_cons_succ,
      List.getElem?_append_left (by omega), List.getElem?_take_of_lt (by omega), hunit]
  have hafter : (hiddenText home shift)[1 + shift + home.length]? = none :=
    List.getElem?_eq_none (length_hiddenText hshift).le
  refine ⟨?_, ?_⟩
  · unfold OccursAt
    rw [hdrop]
  · unfold isHomePathBoundary
    rw [hbefore, hafter]
    simp [testPathFragment, hfragment]

/-- The first occurrence follows a letter, and the second begins inside it. -/
theorem not_counted_hiddenText (hhome : HomePath home) (hshift : shift < home.length)
    (hoverlap : home.drop shift <+: home) (offset : Nat) :
    ¬ CountedHomeAt (hiddenText home shift) home offset := by
  have hlength := length_hiddenText hshift
  have hfirst : OccursAt home (hiddenText home shift) 1 := by
    obtain ⟨rest, hrest⟩ := hoverlap
    refine ⟨rest, ?_⟩
    have hsplit : home.take shift ++ home = home.take shift ++ (home.drop shift ++ rest) :=
      congrArg (home.take shift ++ ·) hrest.symm
    rw [← List.append_assoc, List.take_append_drop] at hsplit
    exact hsplit.symm
  have hzero : ¬ OccursAt home (hiddenText home shift) 0 := by
    intro hoccurs
    have hslash := OccursAt.slash hhome hoccurs
    cases hslash
  rintro ⟨hcounted, hboundary⟩
  cases hcounted with
  | here hfound =>
      have hone : offset = 1 := by
        rcases Nat.lt_trichotomy offset 1 with hlt | heq | hgt
        · rw [Nat.lt_one_iff.mp hlt] at hfound
          exact absurd hfound.2.1 hzero
        · exact heq
        · exact absurd hfirst (hfound.2.2 1 (Nat.zero_le 1) hgt)
      subst hone
      have hbefore : characterBefore (hiddenText home shift) 1 = some 0x7A := rfl
      unfold isHomePathBoundary at hboundary
      rw [hbefore] at hboundary
      dsimp only at hboundary
      have hletter : testPathFragment (some 0x7A) = true := by decide
      have hslash : ((some 0x7A : Option Unit16) == some slash) = false := by decide
      rw [hletter, hslash] at hboundary
      simp at hboundary
  | later hfound hrest =>
      rename_i earlier
      have hone : 1 ≤ earlier := by
        rcases Nat.eq_zero_or_pos earlier with rfl | hpositive
        · exact absurd hfound.2.1 hzero
        · exact hpositive
      -- behind the first occurrence the rest is too short for another
      have hend := hrest.occursAt.end_le hhome.ne_nil
      have hle : earlier + home.length ≤ offset := by
        cases hrest with
        | here hagain => exact hagain.1
        | later hagain hmore =>
            have hshort := hagain.2.1.end_le hhome.ne_nil
            have := hagain.1
            omega
      omega

end Hidden

/-- For every home path: a text is scanned rightly exactly where an occurrence at a boundary, if
there is one, is among those counted from the left; and every text is, exactly where the home
path does not overlap itself behind a character that is no path fragment. -/
theorem missesNone_iff (home : Units) (hhome : HomePath home) :
    (∀ text, Ascii text → Ascii (decoded text) → (MissesNone text home ↔ Uncovered text home)) ∧
      ((∀ text, Ascii text → Ascii (decoded text) → MissesNone text home) ↔
        ¬ OverlapsItself home) := by
  refine ⟨fun text _ _ => missesNone_iff_uncovered hhome, ?_⟩
  constructor
  · rintro hall ⟨shift, unit, hpositive, hshift, hoverlap, hunit, hfragment⟩
    have hascii : Ascii (hiddenText home shift) := ascii_hiddenText hhome
    have hdecoded := decoded_escapeText hascii
    have hmisses := hall (escapeText (hiddenText home shift)) (ascii_escapeText hascii)
      (by rw [hdecoded]; exact hascii)
    have hat := homeAt_hiddenText hshift hpositive hunit hfragment
    rcases (missesNone_iff_uncovered hhome).mp hmisses 
      (.inr ⟨1 + shift, by rw [hdecoded]; exact hat⟩) with
      ⟨offset, hraw, -⟩ | ⟨offset, hcounted⟩
    · exact slash_notMem_escapeText hascii
        (List.mem_of_getElem? (OccursAt.slash hhome hraw.occursAt))
    · rw [hdecoded] at hcounted
      exact not_counted_hiddenText hhome hshift hoverlap offset hcounted
  · intro hsingle text _ _
    refine (missesNone_iff_uncovered hhome).mpr ?_
    rintro (⟨offset, hat⟩ | ⟨offset, hat⟩)
    · exact .inl (uncovered_of_homeAt hhome hsingle hat)
    · exact .inr (uncovered_of_homeAt hhome hsingle hat)

/-! ## Two home paths -/

def unitsOf (text : String) : Units :=
  text.toList.flatMap charUnits

theorem homePath_users : HomePath (unitsOf "/Users/me") := by
  refine ⟨[unitsOf "Users", unitsOf "me"], ?_, by decide +kernel⟩
  intro name hname
  simp only [List.mem_cons, List.not_mem_nil, or_false] at hname
  rcases hname with rfl | rfl
  all_goals
    constructor
    · apply ascii_of_toNat
      decide +kernel
    all_goals decide +kernel

theorem homePath_repeated : HomePath (unitsOf "/u@/u@") := by
  refine ⟨[unitsOf "u@", unitsOf "u@"], ?_, by decide +kernel⟩
  intro name hname
  simp only [List.mem_cons, List.not_mem_nil, or_false, or_self] at hname
  subst hname
  constructor
  · apply ascii_of_toNat
    decide +kernel
  all_goals decide +kernel

theorem missesNone_users :
    (∀ text, Ascii text → Ascii (decoded text) → MissesNone text (unitsOf "/Users/me")) ↔
      ¬ OverlapsItself (unitsOf "/Users/me") :=
  (missesNone_iff (unitsOf "/Users/me") homePath_users).2

/-- The home path after an at sign begins inside one that follows a letter. -/
theorem misses_overlapping :
    ¬ ∀ text home, HomePath home → Ascii text → Ascii (decoded text) → MissesNone text home := by
  intro hall
  have hmisses := hall (unitsOf "z/u@/u@/u@") _ homePath_repeated
    (ascii_of_toNat (by decide +kernel)) (ascii_of_toNat (by decide +kernel))
  have hat : HomeAt (unitsOf "z/u@/u@/u@") (unitsOf "/u@/u@") 4 := by
    unfold HomeAt
    decide +kernel
  have hreported := hmisses.reports.mpr (.inl ⟨4, hat⟩)
  revert hreported
  decide +kernel

end SimulatorBroker.PublicSurface
