import SimulatorBroker.State.HostSchema
import SimulatorBroker.Config.HostFormat

/-!
# Host configs in the state

The state keeps a host config decoded: its texts as strings, its simulators as the numbers that
stand for their identifiers.  What the reader of the file can return is exactly what the state
calls valid.
-/

namespace SimulatorBroker.Config

open SimulatorBroker.State (SimulatorId isWhiteSpace trimChars trimString isNonEmptyString isDigits
  versionComponents)
open SimulatorBroker.Text

/-! ## Characters and their code units -/

section mapped

variable {α β : Type} {f : α → List β} {p : α → Bool} {q : β → Bool}

theorem dropWhile_flatMap (hsome : ∀ a, f a ≠ []) (hsame : ∀ a, ∀ b ∈ f a, q b = p a)
    (elements : List α) :
    (elements.flatMap f).dropWhile q = (elements.dropWhile p).flatMap f := by
  induction elements with
  | nil => rfl
  | cons a elements ih =>
      rw [List.flatMap_cons]
      cases hp : p a with
      | true =>
          rw [List.dropWhile_append_of_pos fun b hmem => (hsame a b hmem).trans hp, ih,
            List.dropWhile_cons_of_pos hp]
      | false =>
          obtain ⟨b, rest, hcons⟩ := List.exists_cons_of_ne_nil (hsome a)
          have hq : ¬ q b = true := by
            rw [hsame a b (hcons ▸ List.mem_cons_self), hp]
            exact Bool.false_ne_true
          rw [List.dropWhile_cons_of_neg (by simp [hp]), List.flatMap_cons, hcons, List.cons_append,
            List.dropWhile_cons_of_neg hq]

theorem rdropWhile_flatMap (hsome : ∀ a, f a ≠ []) (hsame : ∀ a, ∀ b ∈ f a, q b = p a)
    (elements : List α) :
    (elements.flatMap f).rdropWhile q = (elements.rdropWhile p).flatMap f := by
  have hback := dropWhile_flatMap (f := List.reverse ∘ f) (p := p) (q := q)
    (fun a hnil => hsome a (List.reverse_eq_nil_iff.mp hnil))
    (fun a b hmem => hsame a b (List.mem_reverse.mp hmem)) elements.reverse
  unfold List.rdropWhile
  have htwice : List.reverse ∘ List.reverse ∘ f = f := funext fun a => List.reverse_reverse (f a)
  rw [List.reverse_flatMap, hback, List.reverse_flatMap, htwice]

end mapped

theorem charUnits_ne_nil (c : Char) : charUnits c ≠ [] := by
  unfold charUnits
  split <;> exact List.cons_ne_nil _ _

/-- A unit of a character is its code, or one of two surrogates. -/
theorem toNat_of_mem_charUnits {c : Char} {unit : UInt16} (hmem : unit ∈ charUnits c) :
    unit.toNat = c.toNat ∨
      0x10000 ≤ c.toNat ∧ 0xD800 ≤ unit.toNat ∧ unit.toNat ≤ 0xDFFF := by
  have hbounds := char_bounds c
  unfold charUnits at hmem
  split at hmem
  · obtain rfl := List.mem_singleton.mp hmem
    simp only [Nat.toUInt16, UInt16.toNat_ofNat']
    omega
  · rcases List.mem_cons.mp hmem with rfl | hmem
    · simp only [Nat.toUInt16, UInt16.toNat_ofNat']
      omega
    · obtain rfl := List.mem_singleton.mp hmem
      simp only [Nat.toUInt16, UInt16.toNat_ofNat']
      omega

theorem isWhiteSpaceUnit_of_mem (c : Char) :
    ∀ unit ∈ charUnits c, isWhiteSpaceUnit unit = isWhiteSpace c := by
  rintro unit hmem
  unfold isWhiteSpaceUnit
  rcases toNat_of_mem_charUnits hmem with hplain | ⟨hlarge, hlow, hhigh⟩
  · rw [hplain, Char.ofNat_toNat]
  · have hinvalid : ¬ unit.toNat.isValidChar := by
      rintro (hsmall | ⟨hpast, -⟩)
      · exact absurd hsmall (by omega)
      · omega
    have hnone : isWhiteSpace c = false := by
      simp only [isWhiteSpace, Bool.or_eq_false_iff, decide_eq_false_iff_not, beq_eq_false_iff_ne]
      omega
    rw [Char.ofNat, dif_neg hinvalid, hnone]
    rfl

theorem trimUnits_stringUnits (content : String) :
    trimUnits (stringUnits content) = stringUnits (trimString content) := by
  unfold trimUnits stringUnits trimString trimChars State.trimEnd
  rw [dropWhile_flatMap charUnits_ne_nil isWhiteSpaceUnit_of_mem,
    rdropWhile_flatMap charUnits_ne_nil isWhiteSpaceUnit_of_mem, String.toList_ofList]
  rfl

theorem isDigitUnit_of_mem (c : Char) :
    ∀ unit ∈ charUnits c, decide (0x30 ≤ unit ∧ unit ≤ 0x39) = c.isDigit := by
  rintro unit hmem
  have hunit : (0x30 ≤ unit ∧ unit ≤ 0x39) ↔ 48 ≤ unit.toNat ∧ unit.toNat ≤ 57 := by
    rw [UInt16.le_iff_toNat_le, UInt16.le_iff_toNat_le]
    rfl
  have hchar : c.isDigit = true ↔ 48 ≤ c.toNat ∧ c.toNat ≤ 57 := by
    rw [Char.isDigit, Bool.and_eq_true, decide_eq_true_eq, decide_eq_true_eq, ge_iff_le,
      UInt32.le_iff_toNat_le, UInt32.le_iff_toNat_le]
    rfl
  rw [Bool.eq_iff_iff, decide_eq_true_eq, hunit, hchar]
  rcases toNat_of_mem_charUnits hmem with hplain | ⟨hlarge, hlow, hhigh⟩
  · rw [hplain]
  · omega

theorem all_charUnits {q : UInt16 → Bool} {p : Char → Bool}
    (hsame : ∀ c, ∀ unit ∈ charUnits c, q unit = p c) (part : List Char) :
    (part.flatMap charUnits).all q = part.all p := by
  induction part with
  | nil => rfl
  | cons c part ih =>
      have hfirst : (charUnits c).all q = p c := by
        obtain ⟨unit, rest, hcons⟩ := List.exists_cons_of_ne_nil (charUnits_ne_nil c)
        cases hp : p c with
        | true => exact List.all_eq_true.mpr fun unit hmem => (hsame c unit hmem).trans hp
        | false =>
            rw [hcons, List.all_cons, hsame c unit (hcons ▸ List.mem_cons_self), hp, Bool.false_and]
      rw [List.flatMap_cons, List.all_append, hfirst, ih, List.all_cons]

/-! ## Versions -/

theorem splitOn_append {mark : UInt16} {units rest : Units} (hplain : mark ∉ units) :
    (units ++ rest).splitOn mark = (rest.splitOn mark).modifyHead (units ++ ·) := by
  induction units with
  | nil =>
      cases hsplit : rest.splitOn mark with
      | nil => exact hsplit
      | cons first others => exact hsplit
  | cons unit units ih =>
      have hne : unit ≠ mark := fun heq => hplain (heq ▸ List.mem_cons_self)
      have hrest := ih fun hmem => hplain (List.mem_cons_of_mem _ hmem)
      unfold List.splitOn at hrest ⊢
      rw [List.cons_append, List.splitOnP_cons_eq_if_modifyHead, if_neg (by simpa using hne), hrest]
      cases rest.splitOnP (· == mark) <;> rfl

theorem splitOn_charUnits (content : List Char) :
    (content.flatMap charUnits).splitOn 0x2E =
      (content.splitOn '.').map (·.flatMap charUnits) := by
  induction content with
  | nil => rfl
  | cons c content ih =>
      rw [List.flatMap_cons]
      by_cases hdot : c = '.'
      · subst hdot
        have hunits : charUnits '.' = [0x2E] := by decide
        unfold List.splitOn at ih ⊢
        rw [hunits, List.singleton_append, List.splitOnP_cons_eq_if_modifyHead,
          if_pos (by simp), ih, List.splitOnP_cons_eq_if_modifyHead, if_pos (by simp)]
        rfl
      · have hplain : (0x2E : UInt16) ∉ charUnits c := by
          intro hmem
          rcases toNat_of_mem_charUnits hmem with hcode | ⟨-, hlow, -⟩
          · exact hdot (Char.ext (UInt32.toNat_inj.mp hcode.symm))
          · exact absurd hlow (by decide)
        rw [splitOn_append hplain, ih]
        unfold List.splitOn
        rw [List.splitOnP_cons_eq_if_modifyHead, if_neg (by simpa using hdot)]
        cases content.splitOnP (· == '.') <;> simp

theorem isHostSchemaIosVersion_stringUnits (content : String) :
    isHostSchemaIosVersion (stringUnits content) = State.isHostSchemaIosVersion content := by
  have hpart : ∀ part : List Char, (!(part.flatMap charUnits).isEmpty &&
      (part.flatMap charUnits).all fun unit => decide (0x30 ≤ unit ∧ unit ≤ 0x39)) =
        isDigits part := by
    intro part
    rw [all_charUnits isDigitUnit_of_mem]
    cases part with
    | nil => rfl
    | cons c part =>
        obtain ⟨unit, rest, hcons⟩ := List.exists_cons_of_ne_nil (charUnits_ne_nil c)
        rw [List.flatMap_cons, hcons]
        rfl
  unfold isHostSchemaIosVersion State.isHostSchemaIosVersion State.iosVersionComponents
    versionComponents stringUnits
  rw [splitOn_charUnits]
  simp only [List.length_map, List.all_map, Function.comp_def, hpart]
  split
  · rename_i hversion
    simpa using hversion
  · rename_i hversion
    simpa using hversion

/-! ## Decoding -/

/-- The identifiers of the simulators: the state only ever compares them. -/
structure SimulatorNames where
  name : SimulatorId → FieldText
  injective : Function.Injective name

theorem trimUnits_of_plain {content : Units}
    (hplain : ∀ unit ∈ content, isWhiteSpaceUnit unit = false) : trimUnits content = content := by
  have hfront : content.dropWhile isWhiteSpaceUnit = content := by
    rw [List.dropWhile_eq_self_iff]
    intro hlength
    simpa using hplain _ (List.getElem_mem hlength)
  unfold trimUnits
  rw [hfront, List.rdropWhile_eq_self_iff]
  intro hsome
  simpa using hplain _ (List.getLast_mem hsome)

/-- One letter, as often as the number says. -/
instance : Nonempty SimulatorNames := by
  refine ⟨fun simulatorId => ⟨List.replicate (simulatorId + 1) 0x61, ?_, by simp⟩, ?_⟩
  · apply trimUnits_of_plain
    rintro unit hmem
    obtain rfl := List.eq_of_mem_replicate hmem
    rfl
  · rintro left right hsame
    simpa using congrArg (fun text : FieldText => text.units.length) hsame

def Spells (text : FieldText) (content : String) : Prop :=
  text.units = stringUnits content

structure DecodesAlias (names : SimulatorNames) (read : HostAlias) (hostAlias : State.HostAlias) :
    Prop where
  aliasName : Spells read.aliasName hostAlias.aliasName
  capabilities : List.Forall₂ Spells read.capabilities.texts hostAlias.capabilities
  deviceFamily : read.deviceFamily = hostAlias.deviceFamily
  displayName : Spells read.displayName hostAlias.displayName
  iosVersion : Spells read.iosVersion.toFieldText hostAlias.iosVersion
  resetPolicy : read.resetPolicy = hostAlias.resetPolicy
  simulatorId : read.simulatorId = names.name hostAlias.simulatorId

def ClassPolicy.decoded (policy : ClassPolicy) : State.ReclaimClassPolicy where
  enabled := policy.enabled
  maxAgeSeconds := policy.maxAgeSeconds.value
  maxDiskBytes := policy.maxDiskBytes.value
  maxLeasesSinceErase := policy.maxLeasesSinceErase.value

def SlotReclaimPolicy.decoded (policy : SlotReclaimPolicy) : State.SlotReclaimPolicy where
  enabled := policy.enabled
  build := policy.build.decoded
  manual := policy.manual.decoded

/-- A config that the reader returned, as the state keeps it. -/
structure Decodes (names : SimulatorNames) (read : HostConfig) (config : State.HostConfig) :
    Prop where
  aliases : List.Forall₂ (DecodesAlias names) read.aliases.list config.aliases
  hostId : Spells read.hostId config.hostId
  pendingRetirements : read.pendingRetirements.1 = config.pendingRetirements.map names.name
  slotReclaim : read.slotReclaim.map SlotReclaimPolicy.decoded = config.slotReclaim

/-- What the reader has trimmed and rid of repetitions. -/
structure TidyAlias (hostAlias : State.HostAlias) : Prop where
  aliasName : trimString hostAlias.aliasName = hostAlias.aliasName
  capabilities : ∀ capability ∈ hostAlias.capabilities, trimString capability = capability
  distinct : hostAlias.capabilities.Nodup
  displayName : trimString hostAlias.displayName = hostAlias.displayName
  iosVersion : trimString hostAlias.iosVersion = hostAlias.iosVersion

structure Tidy (config : State.HostConfig) : Prop where
  aliases : ∀ hostAlias ∈ config.aliases, TidyAlias hostAlias
  hostId : trimString config.hostId = config.hostId
  pendingRetirements : config.pendingRetirements.Nodup

/-! ## Texts -/

theorem exists_spells_iff {content : String} :
    (∃ text, Spells text content) ↔
      trimString content = content ∧ isNonEmptyString content = true := by
  constructor
  · rintro ⟨text, hspells⟩
    have htrimmed : trimString content = content := by
      apply stringUnits_injective
      rw [← trimUnits_stringUnits, ← hspells, text.trimmed]
    refine ⟨htrimmed, ?_⟩
    unfold isNonEmptyString
    rw [htrimmed, decide_eq_true_eq]
    rintro rfl
    exact text.nonempty hspells
  · rintro ⟨htrimmed, hnonempty⟩
    unfold isNonEmptyString at hnonempty
    rw [htrimmed, decide_eq_true_eq] at hnonempty
    refine ⟨⟨stringUnits content, ?_, fun hnil => ?_⟩, rfl⟩
    · rw [trimUnits_stringUnits, htrimmed]
    · exact hnonempty (stringUnits_injective (hnil.trans rfl))

theorem biUnique_spells : Relator.BiUnique Spells := by
  constructor
  · rintro left right content hleft hright
    exact FieldText.ext (hleft.trans hright.symm)
  · rintro text left right hleft hright
    exact stringUnits_injective (hleft.symm.trans hright)

theorem exists_iosVersion_iff {content : String} :
    (∃ version : IosVersion, Spells version.toFieldText content) ↔
      trimString content = content ∧ State.isHostSchemaIosVersion content = true := by
  constructor
  · rintro ⟨version, hspells⟩
    refine ⟨(exists_spells_iff.mp ⟨_, hspells⟩).1, ?_⟩
    rw [← isHostSchemaIosVersion_stringUnits, ← hspells, version.wellFormed]
  · rintro ⟨htrimmed, hversion⟩
    have hnonempty : isNonEmptyString content = true := by
      unfold isNonEmptyString
      rw [htrimmed, decide_eq_true_eq]
      rintro rfl
      revert hversion
      decide
    obtain ⟨text, hspells⟩ := exists_spells_iff.mpr ⟨htrimmed, hnonempty⟩
    rw [← isHostSchemaIosVersion_stringUnits, ← hspells] at hversion
    exact ⟨⟨text, hversion⟩, hspells⟩

theorem exists_forall₂_iff {α β : Type} {R : α → β → Prop} {right : List β} :
    (∃ left, List.Forall₂ R left right) ↔ ∀ b ∈ right, ∃ a, R a b := by
  induction right with
  | nil => exact ⟨fun _ _ hmem => (nomatch hmem), fun _ => ⟨[], .nil⟩⟩
  | cons b right ih =>
      rw [List.forall_mem_cons, ← ih]
      constructor
      · rintro ⟨_, hfirst | ⟨hfirst, hrest⟩⟩
        exact ⟨⟨_, hfirst⟩, _, hrest⟩
      · rintro ⟨⟨a, hfirst⟩, left, hrest⟩
        exact ⟨a :: left, .cons hfirst hrest⟩

theorem exists_capabilities_iff {capabilities : List String} :
    (∃ read : Capabilities, List.Forall₂ Spells read.texts capabilities) ↔
      capabilities ≠ [] ∧ capabilities.Nodup ∧ ∀ capability ∈ capabilities,
        trimString capability = capability ∧ isNonEmptyString capability = true := by
  constructor
  · rintro ⟨read, hspells⟩
    refine ⟨?_, (List.rel_nodup biUnique_spells hspells).mp read.distinct, fun capability hmem =>
      exists_spells_iff.mp (exists_forall₂_iff.mp ⟨_, hspells⟩ capability hmem)⟩
    rintro rfl
    exact read.nonempty (List.forall₂_nil_right_iff.mp hspells)
  · rintro ⟨hsome, hnodup, htexts⟩
    obtain ⟨texts, hspells⟩ := exists_forall₂_iff.mpr fun capability hmem =>
      exists_spells_iff.mpr (htexts capability hmem)
    refine ⟨⟨texts, ?_, (List.rel_nodup biUnique_spells hspells).mpr hnodup⟩, hspells⟩
    rintro rfl
    exact hsome (List.forall₂_nil_left_iff.mp hspells)

/-! ## Policies -/

theorem exists_classPolicy_iff {policy : State.ReclaimClassPolicy} :
    (∃ read : ClassPolicy, read.decoded = policy) ↔ policy.Valid := by
  constructor
  · rintro ⟨read, rfl⟩
    exact ⟨⟨read.maxAgeSeconds.lower, read.maxAgeSeconds.upper⟩,
      ⟨read.maxDiskBytes.lower, read.maxDiskBytes.upper⟩,
      ⟨read.maxLeasesSinceErase.lower, read.maxLeasesSinceErase.upper⟩⟩
  · rintro ⟨⟨hageLow, hageHigh⟩, ⟨hdiskLow, hdiskHigh⟩, ⟨hleasesLow, hleasesHigh⟩⟩
    have hage : policy.maxAgeSeconds ≤ maxSafeInteger := hageHigh.trans (by decide)
    have hleases : policy.maxLeasesSinceErase ≤ maxSafeInteger := hleasesHigh.trans (by decide)
    exact ⟨⟨policy.enabled, ⟨_, hage, hageLow, hageHigh⟩, ⟨_, hdiskHigh, hdiskLow, hdiskHigh⟩,
      ⟨_, hleases, hleasesLow, hleasesHigh⟩⟩, rfl⟩

theorem exists_slotReclaim_iff {policy : Option State.SlotReclaimPolicy} :
    (∃ read : Option SlotReclaimPolicy, read.map SlotReclaimPolicy.decoded = policy) ↔
      ∀ found ∈ policy, found.build.Valid ∧ found.manual.Valid := by
  constructor
  · rintro ⟨read, rfl⟩ found hfound
    obtain ⟨policy, -, rfl⟩ := Option.map_eq_some_iff.mp hfound
    exact ⟨exists_classPolicy_iff.mp ⟨_, rfl⟩, exists_classPolicy_iff.mp ⟨_, rfl⟩⟩
  · intro hvalid
    cases policy with
    | none => exact ⟨none, rfl⟩
    | some policy =>
        obtain ⟨hbuild, hmanual⟩ := hvalid policy rfl
        obtain ⟨build, hbuild⟩ := exists_classPolicy_iff.mpr hbuild
        obtain ⟨manual, hmanual⟩ := exists_classPolicy_iff.mpr hmanual
        refine ⟨some ⟨build, policy.enabled, manual⟩, ?_⟩
        rw [Option.map_some, SlotReclaimPolicy.decoded, hbuild, hmanual]

/-! ## Aliases -/

variable {names : SimulatorNames}

theorem exists_decodesAlias_iff {hostAlias : State.HostAlias} :
    (∃ read, DecodesAlias names read hostAlias) ↔ hostAlias.Valid ∧ TidyAlias hostAlias := by
  constructor
  · rintro ⟨read, hread⟩
    obtain ⟨haliasName, haliasSome⟩ := exists_spells_iff.mp ⟨_, hread.aliasName⟩
    obtain ⟨hsome, hdistinct, hcapabilities⟩ := exists_capabilities_iff.mp ⟨_, hread.capabilities⟩
    obtain ⟨hdisplayName, hdisplaySome⟩ := exists_spells_iff.mp ⟨_, hread.displayName⟩
    obtain ⟨hiosVersion, hversion⟩ := exists_iosVersion_iff.mp ⟨_, hread.iosVersion⟩
    constructor
    · exact ⟨haliasSome, hsome, fun capability hmem => (hcapabilities capability hmem).2,
        hdisplaySome, hversion⟩
    · exact ⟨haliasName, fun capability hmem => (hcapabilities capability hmem).1, hdistinct,
        hdisplayName, hiosVersion⟩
  · rintro ⟨⟨haliasSome, hsome, hcapabilitySome, hdisplaySome, hversion⟩, htidy⟩
    obtain ⟨aliasName, haliasName⟩ := exists_spells_iff.mpr ⟨htidy.aliasName, haliasSome⟩
    obtain ⟨capabilities, hcapabilities⟩ := exists_capabilities_iff.mpr
      ⟨hsome, htidy.distinct, fun capability hmem =>
        ⟨htidy.capabilities capability hmem, hcapabilitySome capability hmem⟩⟩
    obtain ⟨displayName, hdisplayName⟩ := exists_spells_iff.mpr ⟨htidy.displayName, hdisplaySome⟩
    obtain ⟨iosVersion, hiosVersion⟩ := exists_iosVersion_iff.mpr ⟨htidy.iosVersion, hversion⟩
    exact ⟨⟨aliasName, capabilities, hostAlias.deviceFamily, displayName, iosVersion,
      hostAlias.resetPolicy, names.name hostAlias.simulatorId⟩,
      ⟨haliasName, hcapabilities, rfl, hdisplayName, hiosVersion, rfl, rfl⟩⟩

section aliases

variable {read : List HostAlias} {aliases : List State.HostAlias}

theorem nodup_aliasNames (hread : List.Forall₂ (DecodesAlias names) read aliases) :
    (read.map (·.aliasName)).Nodup ↔ (aliases.map (·.aliasName)).Nodup := by
  apply List.rel_nodup biUnique_spells
  rw [List.forall₂_map_left_iff, List.forall₂_map_right_iff]
  exact hread.imp fun _ _ hdecodes => hdecodes.aliasName

theorem map_simulatorId (hread : List.Forall₂ (DecodesAlias names) read aliases) :
    read.map (·.simulatorId) = (aliases.map (·.simulatorId)).map names.name := by
  induction hread with
  | nil => rfl
  | cons hfirst hrest ih => rw [List.map_cons, List.map_cons, List.map_cons, hfirst.simulatorId, ih]

theorem nodup_simulatorIds (hread : List.Forall₂ (DecodesAlias names) read aliases) :
    (read.map (·.simulatorId)).Nodup ↔ (aliases.map (·.simulatorId)).Nodup := by
  rw [map_simulatorId hread, List.nodup_map_iff names.injective]

end aliases

/-! ## Configs -/

theorem exists_decodes_iff {config : State.HostConfig} :
    (∃ read, Decodes names read config) ↔ config.Valid ∧ Tidy config := by
  constructor
  · rintro ⟨read, hread⟩
    have haliases : ∀ hostAlias ∈ config.aliases, hostAlias.Valid ∧ TidyAlias hostAlias :=
      fun hostAlias hmem => exists_decodesAlias_iff.mp
        (exists_forall₂_iff.mp ⟨_, hread.aliases⟩ hostAlias hmem)
    obtain ⟨hhostId, hhostSome⟩ := exists_spells_iff.mp ⟨_, hread.hostId⟩
    refine ⟨⟨(nodup_aliasNames hread.aliases).mp read.aliases.names,
      (nodup_simulatorIds hread.aliases).mp read.aliases.simulators,
      fun hostAlias hmem => (haliases hostAlias hmem).1, hhostSome,
      exists_slotReclaim_iff.mp ⟨_, hread.slotReclaim⟩⟩,
      ⟨fun hostAlias hmem => (haliases hostAlias hmem).2, hhostId, ?_⟩⟩
    have hdistinct := read.pendingRetirements.2
    rwa [hread.pendingRetirements, List.nodup_map_iff names.injective] at hdistinct
  · rintro ⟨⟨hnames, hsimulators, haliases, hhostSome, hslotReclaim⟩, htidy⟩
    obtain ⟨list, hlist⟩ := exists_forall₂_iff.mpr fun hostAlias hmem =>
      exists_decodesAlias_iff.mpr ⟨haliases hostAlias hmem, htidy.aliases hostAlias hmem⟩
    obtain ⟨hostId, hhostId⟩ := exists_spells_iff.mpr ⟨htidy.hostId, hhostSome⟩
    obtain ⟨slotReclaim, hpolicy⟩ := exists_slotReclaim_iff.mpr hslotReclaim
    exact ⟨⟨⟨list, (nodup_aliasNames hlist).mpr hnames, (nodup_simulatorIds hlist).mpr hsimulators⟩,
      hostId, ⟨config.pendingRetirements.map names.name,
        htidy.pendingRetirements.map names.injective⟩, slotReclaim⟩,
      ⟨hlist, hhostId, rfl, hpolicy⟩⟩

/-- What the reader can return, as the state keeps it, is what the state calls valid. -/
theorem valid_iff_read (names : SimulatorNames) (config : State.HostConfig) :
    (∃ raw read, validateHostConfig raw = .ok read ∧ Decodes names read config) ↔
      config.Valid ∧ Tidy config := by
  rw [← @exists_decodes_iff names]
  constructor
  · rintro ⟨raw, read, -, hdecodes⟩
    exact ⟨read, hdecodes⟩
  · rintro ⟨read, hdecodes⟩
    exact ⟨_, read, validateHostConfig_of_reads (readsHostConfig_value true read), hdecodes⟩

end SimulatorBroker.Config
