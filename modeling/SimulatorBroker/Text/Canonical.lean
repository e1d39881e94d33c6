import Mathlib.Data.List.Lex
import Mathlib.Data.List.Sort
import SimulatorBroker.Text.Properties

/-!
# Canonical values

`canonicalize` puts the keys of every object in one order, so that the text of a value, and its
digest, depend only on what the value says.
-/

namespace SimulatorBroker.Text

/-! ## Sorted keys -/

/-- `__proto__`: an assignment to it makes no property. -/
def protoKey : Units := stringUnits "__proto__"

/-- The order of `Array.prototype.sort`: by code units. -/
def KeyLE (left right : Units × Value) : Prop :=
  left.1.map UInt16.toNat ≤ right.1.map UInt16.toNat

instance (left right : Units × Value) : Decidable (KeyLE left right) :=
  inferInstanceAs (Decidable (left.1.map UInt16.toNat ≤ right.1.map UInt16.toNat))

def sortKeys (members : List (Units × Value)) : List (Units × Value) :=
  members.insertionSort KeyLE

theorem keyLE_antisymm {left right : Units × Value} (hle : KeyLE left right)
    (hge : KeyLE right left) : left.1 = right.1 :=
  List.map_injective_iff.mpr (fun _ _ heq => UInt16.toNat_inj.mp heq) (le_antisymm hle hge)

theorem pairwise_sortKeys (members : List (Units × Value)) :
    (sortKeys members).Pairwise KeyLE := by
  have htotal : Std.Total KeyLE := ⟨fun left right => le_total (left.1.map _) (right.1.map _)⟩
  have htrans : IsTrans (Units × Value) KeyLE := ⟨fun _ _ _ hleft hright => le_trans hleft hright⟩
  exact List.pairwise_insertionSort KeyLE members

theorem sortKeys_perm (members : List (Units × Value)) : (sortKeys members).Perm members :=
  List.perm_insertionSort KeyLE members

theorem eq_of_mem_of_key {members : List (Units × Value)} (hnodup : (members.map (·.1)).Nodup)
    {left right : Units × Value} (hleft : left ∈ members) (hright : right ∈ members)
    (hkey : left.1 = right.1) : left = right :=
  List.inj_on_of_nodup_map hnodup hleft hright hkey

/-- The order in which the keys came does not matter. -/
theorem sortKeys_eq_of_perm {left right : List (Units × Value)} (hperm : left.Perm right)
    (hnodup : (left.map (·.1)).Nodup) : sortKeys left = sortKeys right := by
  have hsorted := (sortKeys_perm left).trans (hperm.trans (sortKeys_perm right).symm)
  refine hsorted.eq_of_pairwise ?_ (pairwise_sortKeys left) (pairwise_sortKeys right)
  intro first second hfirst hsecond hle hge
  have hmem : second ∈ left := hperm.mem_iff.mpr ((sortKeys_perm right).mem_iff.mp hsecond)
  exact eq_of_mem_of_key hnodup ((sortKeys_perm left).mem_iff.mp hfirst) hmem
    (keyLE_antisymm hle hge)

/-! ## The function -/

mutual

def canonicalize : Value → Value
  | .null => .null
  | .bool value => .bool value
  | .number value => .number value
  | .string content => .string content
  | .array elements => .array (canonicalizeElements elements)
  | .object members => .object (ownKeyOrder (sortKeys (canonicalizeMembers members)))

def canonicalizeElements : List Value → List Value
  | [] => []
  | element :: rest => canonicalize element :: canonicalizeElements rest

/-- The properties that are assigned; the first member of a name is its property. -/
def canonicalizeMembers : List (Units × Value) → List (Units × Value)
  | [] => []
  | (name, value) :: rest =>
      if name = protoKey then canonicalizeMembers rest
      else (name, canonicalize value) ::
        (canonicalizeMembers rest).filter fun member => !decide (member.1 = name)

end

/-! ## What a value says -/

/-- A value without an order of keys. -/
inductive Content where
  | null
  | bool (value : Bool)
  | number (value : Double)
  | string (content : Units)
  | array (elements : List Content)
  | object (properties : Units → Option Content)

mutual

def contentOf : Value → Content
  | .null => .null
  | .bool value => .bool value
  | .number value => .number value
  | .string content => .string content
  | .array elements => .array (contentsOf elements)
  | .object members => .object (propertiesOf members)

def contentsOf : List Value → List Content
  | [] => []
  | element :: rest => contentOf element :: contentsOf rest

/-- The properties by their names, but for `__proto__`. -/
def propertiesOf : List (Units × Value) → Units → Option Content
  | [] => fun _ => none
  | (name, value) :: rest => fun asked =>
      if name = asked ∧ name ≠ protoKey then some (contentOf value) else propertiesOf rest asked

end

/-! ## Induction on values -/

theorem Value.inductionOn {motive : Value → Prop} (value : Value) (null : motive .null)
    (bool : ∀ value, motive (.bool value)) (number : ∀ value, motive (.number value))
    (string : ∀ contentOf, motive (.string contentOf))
    (array : ∀ elements, (∀ element ∈ elements, motive element) → motive (.array elements))
    (object : ∀ members, (∀ member ∈ members, motive member.2) → motive (.object members)) :
    motive value :=
  @Value.rec motive (fun elements => ∀ element ∈ elements, motive element)
    (fun members => ∀ member ∈ members, motive member.2) (fun member => motive member.2)
    null bool number string array object
    (fun _ hmem => (nomatch hmem))
    (fun _ _ hfirst hrest => List.forall_mem_cons.mpr ⟨hfirst, hrest⟩)
    (fun _ hmem => (nomatch hmem))
    (fun _ _ hfirst hrest => List.forall_mem_cons.mpr ⟨hfirst, hrest⟩)
    (fun _ _ hvalue => hvalue) value

theorem canonicalizeElements_eq (elements : List Value) :
    canonicalizeElements elements = elements.map canonicalize := by
  induction elements with
  | nil => rfl
  | cons element rest ih => rw [canonicalizeElements, ih, List.map_cons]

theorem contentsOf_eq (elements : List Value) : contentsOf elements = elements.map contentOf := by
  induction elements with
  | nil => rfl
  | cons element rest ih => rw [contentsOf, ih, List.map_cons]

/-! ## Members -/

theorem lookup_cons (member : Units × Value) (members : List (Units × Value)) (name : Units) :
    lookup (member :: members) name =
      if member.1 = name then some member.2 else lookup members name := by
  unfold lookup
  split
  · rename_i hname
    rw [List.find?_cons_of_pos (by simpa using hname)]
    rfl
  · rename_i hname
    rw [List.find?_cons_of_neg (by simpa using hname)]

theorem lookup_filter (members : List (Units × Value)) (left name : Units) :
    lookup (members.filter fun member => !decide (member.1 = left)) name =
      if name = left then none else lookup members name := by
  induction members with
  | nil => simp [lookup]
  | cons member members ih =>
      rw [List.filter_cons, lookup_cons]
      by_cases hleft : member.1 = left
      · rw [if_neg (by simp [hleft]), ih]
        split
        · rfl
        · rename_i hname
          rw [if_neg fun heq => hname (heq.symm.trans hleft)]
      · rw [if_pos (by simp [hleft]), lookup_cons, ih]
        split
        · rename_i hname
          rw [if_neg fun heq => hleft (hname.trans heq)]
        · rfl

theorem lookup_canonicalizeMembers (members : List (Units × Value)) (name : Units) :
    lookup (canonicalizeMembers members) name =
      if name = protoKey then none else (lookup members name).map canonicalize := by
  induction members with
  | nil => simp [canonicalizeMembers, lookup]
  | cons member members ih =>
      obtain ⟨key, value⟩ := member
      rw [canonicalizeMembers, lookup_cons]
      by_cases hproto : key = protoKey
      · rw [if_pos hproto, ih]
        split
        · rfl
        · rename_i hname
          rw [if_neg fun heq => hname (heq.symm.trans hproto)]
      · rw [if_neg hproto, lookup_cons, lookup_filter, ih]
        by_cases hname : key = name
        · rw [if_pos hname, if_pos hname, if_neg fun heq => hproto (hname.trans heq)]
          rfl
        · rw [if_neg hname, if_neg hname, if_neg fun heq => hname heq.symm]

theorem nodup_canonicalizeMembers (members : List (Units × Value)) :
    ((canonicalizeMembers members).map (·.1)).Nodup := by
  induction members with
  | nil => exact List.nodup_nil
  | cons member members ih =>
      obtain ⟨key, value⟩ := member
      rw [canonicalizeMembers]
      split
      · exact ih
      · rw [List.map_cons, List.nodup_cons]
        constructor
        · intro hmem
          obtain ⟨member, hmember, hkey⟩ := List.mem_map.mp hmem
          have hother := (List.mem_filter.mp hmember).2
          simp [hkey] at hother
        · exact ih.sublist (List.filter_sublist.map _)

theorem propertiesOf_eq (members : List (Units × Value)) (name : Units) :
    propertiesOf members name =
      if name = protoKey then none else (lookup members name).map contentOf := by
  induction members with
  | nil => simp [propertiesOf, lookup]
  | cons member members ih =>
      obtain ⟨key, value⟩ := member
      rw [propertiesOf, lookup_cons]
      simp only [ih]
      by_cases hname : key = name
      · subst hname
        by_cases hproto : key = protoKey
        · simp [hproto]
        · simp [hproto]
      · simp [hname]

/-- The members of the canonical object, in the order in which they are listed. -/
theorem lookup_canonical (members : List (Units × Value)) (name : Units) :
    lookup (ownKeyOrder (sortKeys (canonicalizeMembers members))) name =
      lookup (canonicalizeMembers members) name := by
  have hperm := (ownKeyOrder_perm _).trans (sortKeys_perm (canonicalizeMembers members))
  exact lookup_perm hperm ((hperm.map _).nodup_iff.mpr (nodup_canonicalizeMembers members)) name

theorem mem_of_lookup {members : List (Units × Value)} {name : Units} {value : Value}
    (hlookup : lookup members name = some value) : (name, value) ∈ members := by
  obtain ⟨member, hfound, rfl⟩ := Option.map_eq_some_iff.mp hlookup
  have hname : member.1 = name := by simpa using List.find?_some hfound
  exact hname ▸ List.mem_of_find?_eq_some hfound

/-! ## Canonical values and what they say -/

/-- Nothing is lost. -/
theorem contentOf_canonicalize (value : Value) :
    contentOf (canonicalize value) = contentOf value := by
  induction value using Value.inductionOn with
  | null => rfl
  | bool value => rfl
  | number value => rfl
  | string contentOf => rfl
  | array elements ih =>
      rw [canonicalize, contentOf, contentOf, contentsOf_eq, contentsOf_eq, canonicalizeElements_eq,
        List.map_map]
      exact congrArg Content.array (List.map_congr_left ih)
  | object members ih =>
      rw [canonicalize, contentOf, contentOf]
      refine congrArg Content.object (funext fun name => ?_)
      rw [propertiesOf_eq, propertiesOf_eq, lookup_canonical, lookup_canonicalizeMembers]
      split
      · rfl
      · cases hlookup : lookup members name with
        | none => rfl
        | some value => exact congrArg some (ih _ (mem_of_lookup hlookup))

theorem map_canonicalize {left right : List Value}
    (heach : ∀ value ∈ left, ∀ other, contentOf value = contentOf other →
      canonicalize value = canonicalize other) (heq : left.map contentOf = right.map contentOf) :
    left.map canonicalize = right.map canonicalize := by
  induction left generalizing right with
  | nil =>
      cases right with
      | nil => rfl
      | cons other right => cases heq
  | cons value left ih =>
      cases right with
      | nil => cases heq
      | cons other right =>
          obtain ⟨hfirst, hrest⟩ := List.cons.inj heq
          rw [List.map_cons, List.map_cons, heach value List.mem_cons_self other hfirst,
            ih (fun value hmem => heach value (List.mem_cons_of_mem _ hmem)) hrest]

theorem canonicalizeMembers_perm {left right : List (Units × Value)}
    (heach : ∀ member ∈ left, ∀ other, contentOf member.2 = contentOf other →
      canonicalize member.2 = canonicalize other)
    (heq : propertiesOf left = propertiesOf right) :
    (canonicalizeMembers left).Perm (canonicalizeMembers right) := by
  have hleft := nodup_canonicalizeMembers left
  have hright := nodup_canonicalizeMembers right
  have hlookup : ∀ name,
      lookup (canonicalizeMembers left) name = lookup (canonicalizeMembers right) name := by
    intro name
    have hname := congrFun heq name
    rw [propertiesOf_eq, propertiesOf_eq] at hname
    rw [lookup_canonicalizeMembers, lookup_canonicalizeMembers]
    split
    · rfl
    · rename_i hproto
      rw [if_neg hproto, if_neg hproto] at hname
      cases hfound : lookup left name with
      | none =>
          rw [hfound] at hname
          rw [Option.map_eq_none_iff.mp hname.symm]
      | some value =>
          rw [hfound] at hname
          obtain ⟨other, hother, hcontent⟩ := Option.map_eq_some_iff.mp hname.symm
          rw [hother]
          exact congrArg some (heach _ (mem_of_lookup hfound) other hcontent.symm)
  refine (List.perm_ext_iff_of_nodup hleft.of_map hright.of_map).mpr fun member => ?_
  obtain ⟨name, value⟩ := member
  rw [← lookup_eq_some_iff hleft, ← lookup_eq_some_iff hright, hlookup]

theorem canonicalize_of_contentOf (left right : Value) (heq : contentOf left = contentOf right) :
    canonicalize left = canonicalize right := by
  induction left using Value.inductionOn generalizing right with
  | null =>
      cases right with
      | null => rfl
      | _ => cases heq
  | bool value =>
      cases right with
      | bool other =>
          cases heq
          rfl
      | _ => cases heq
  | number value =>
      cases right with
      | number other =>
          cases heq
          rfl
      | _ => cases heq
  | string text =>
      cases right with
      | string other =>
          cases heq
          rfl
      | _ => cases heq
  | array elements ih =>
      cases right with
      | array others =>
          rw [contentOf, contentOf, contentsOf_eq, contentsOf_eq] at heq
          rw [canonicalize, canonicalize, canonicalizeElements_eq, canonicalizeElements_eq]
          exact congrArg Value.array (map_canonicalize ih (Content.array.inj heq))
      | _ => cases heq
  | object members ih =>
      cases right with
      | object others =>
          rw [contentOf, contentOf] at heq
          have hperm := canonicalizeMembers_perm ih (Content.object.inj heq)
          rw [canonicalize, canonicalize,
            sortKeys_eq_of_perm hperm (nodup_canonicalizeMembers members)]
      | _ => cases heq

/-- Two values have the same canonical form exactly if they say the same, whatever the order of
their keys. -/
theorem canonicalize_eq_iff (left right : Value) :
    canonicalize left = canonicalize right ↔ contentOf left = contentOf right := by
  constructor
  · intro heq
    rw [← contentOf_canonicalize left, heq, contentOf_canonicalize]
  · exact canonicalize_of_contentOf left right

end SimulatorBroker.Text
