import Mathlib.Data.List.Nodup
import SimulatorBroker.Text.Utf8
import SimulatorBroker.Text.Value

/-!
# Properties of JSON values

The own properties of a value that `JSON.parse` built, and what `JSON.parse` makes of a value
that `JSON.stringify` wrote.
-/

namespace SimulatorBroker.Text

/-! ## Strings -/

/-- The code units of a text. -/
def stringUnits (text : String) : Units :=
  text.toList.flatMap charUnits

/-- The first code unit of a character is no surrogate, or it is followed by the one that
completes it. -/
theorem charUnits_append_inj {left right : Char} {leftRest rightRest : Units}
    (heq : charUnits left ++ leftRest = charUnits right ++ rightRest) :
    left = right ∧ leftRest = rightRest := by
  have hleft := char_bounds left
  have hright := char_bounds right
  unfold charUnits at heq
  split at heq
  · rename_i hplainLeft
    split at heq
    · rename_i hplainRight
      obtain ⟨hhead, hrest⟩ := List.cons.inj heq
      have hnat : left.toNat = right.toNat := by
        have := congrArg UInt16.toNat hhead
        simp only [Nat.toUInt16, UInt16.toNat_ofNat'] at this
        omega
      exact ⟨Char.ext (UInt32.toNat_inj.mp hnat), hrest⟩
    · have hhead := congrArg UInt16.toNat (List.cons.inj heq).1
      simp only [Nat.toUInt16, UInt16.toNat_ofNat'] at hhead
      omega
  · split at heq
    · have hhead := congrArg UInt16.toNat (List.cons.inj heq).1
      simp only [Nat.toUInt16, UInt16.toNat_ofNat'] at hhead
      omega
    · obtain ⟨hhigh, htail⟩ := List.cons.inj heq
      obtain ⟨hlow, hrest⟩ := List.cons.inj htail
      have hhigh' := congrArg UInt16.toNat hhigh
      have hlow' := congrArg UInt16.toNat hlow
      simp only [Nat.toUInt16, UInt16.toNat_ofNat'] at hhigh' hlow'
      have hnat : left.toNat = right.toNat := by omega
      exact ⟨Char.ext (UInt32.toNat_inj.mp hnat), hrest⟩

theorem flatMap_charUnits_injective {left right : List Char}
    (heq : left.flatMap charUnits = right.flatMap charUnits) : left = right := by
  have hsome : ∀ c : Char, charUnits c ≠ [] := by
    intro c
    unfold charUnits
    split <;> exact List.cons_ne_nil _ _
  induction left generalizing right with
  | nil =>
      cases right with
      | nil => rfl
      | cons c right => exact absurd (List.append_eq_nil_iff.mp heq.symm).1 (hsome c)
  | cons c left ih =>
      cases right with
      | nil => exact absurd (List.append_eq_nil_iff.mp heq).1 (hsome c)
      | cons d right =>
          obtain ⟨rfl, hrest⟩ := charUnits_append_inj heq
          rw [ih hrest]

theorem stringUnits_injective {left right : String} (heq : stringUnits left = stringUnits right) :
    left = right :=
  String.toList_inj.mp (flatMap_charUnits_injective heq)

/-! ## Own properties -/

/-- The member of that name. -/
def lookup (members : List (Units × Value)) (name : Units) : Option Value :=
  (members.find? fun member => member.1 = name).map (·.2)

/-- `Object.hasOwn(value, name) ? value[name] : undefined`. -/
def Value.property (value : Value) (name : Units) : Option Value :=
  match value with
  | .object members => lookup members name
  | _ => none

theorem lookup_eq_some_iff {members : List (Units × Value)} (hnodup : (members.map (·.1)).Nodup)
    {name : Units} {value : Value} : lookup members name = some value ↔ (name, value) ∈ members := by
  induction members with
  | nil => simp [lookup]
  | cons member members ih =>
      obtain ⟨hnew, hrest⟩ := List.nodup_cons.mp hnodup
      unfold lookup at ih ⊢
      by_cases hname : member.1 = name
      · subst hname
        constructor
        · intro h
          rw [List.find?_cons_of_pos (by simp)] at h
          obtain rfl := Option.some.inj h
          exact List.mem_cons_self
        · intro h
          obtain h | h := List.mem_cons.mp h
          · rw [← h, List.find?_cons_of_pos (by simp)]
            rfl
          · exact absurd (List.mem_map_of_mem (f := (·.1)) h) hnew
      · rw [List.find?_cons_of_neg (by simpa using hname), ih hrest, List.mem_cons]
        constructor
        · exact Or.inr
        · rintro (h | h)
          · exact absurd (congrArg Prod.fst h).symm hname
          · exact h

/-- The order of the members does not matter to a lookup. -/
theorem lookup_perm {left right : List (Units × Value)} (hperm : left.Perm right)
    (hnodup : (left.map (·.1)).Nodup) (name : Units) : lookup left name = lookup right name := by
  apply Option.ext
  intro value
  have hright : (right.map (·.1)).Nodup := (hperm.map _).nodup_iff.mp hnodup
  rw [lookup_eq_some_iff hnodup, lookup_eq_some_iff hright]
  exact hperm.mem_iff

/-- The members of an object in the order in which they are listed. -/
theorem ownKeyOrder_perm (members : List (Units × Value)) :
    (ownKeyOrder members).Perm members := by
  unfold ownKeyOrder
  have hindexed : ∀ members : List (Units × Value),
      (members.filterMap fun member => (arrayIndex member.1).map (·, member)).map (·.2) =
        members.filter fun member => (arrayIndex member.1).isSome := by
    intro members
    induction members with
    | nil => rfl
    | cons member members ih =>
        cases hindex : arrayIndex member.1 with
        | none => simp [hindex, ← ih]
        | some index => simp [hindex, ← ih]
  have hsplit := List.filter_append_perm
    (fun member : Units × Value => (arrayIndex member.1).isSome) members
  refine List.Perm.trans (.append ?_ ?_) hsplit
  · rw [← hindexed]
    exact (List.mergeSort_perm _ _).map _
  · apply List.Perm.of_eq
    apply List.filter_congr
    intro member _
    cases arrayIndex member.1 <;> rfl

/-! ## Writing and reading back -/

mutual

/-- `JSON.parse(JSON.stringify(value))`: the keys of an object come back in the order in which
they are listed, and what is no JSON number comes back as one or as `null`. -/
def reparse : Value → Value
  | .null => .null
  | .bool value => .bool value
  | .number (.infinite _) => .null
  | .number (.finite negative mantissa exponent) =>
      .number (.finite (negative && decide (mantissa ≠ 0)) mantissa exponent)
  | .string content => .string content
  | .array elements => .array (reparseElements elements)
  | .object members => .object (ownKeyOrder (reparseMembers members))

def reparseElements : List Value → List Value
  | [] => []
  | element :: rest => reparse element :: reparseElements rest

def reparseMembers : List (Units × Value) → List (Units × Value)
  | [] => []
  | (name, value) :: rest => (name, reparse value) :: reparseMembers rest

end

theorem reparseMembers_eq (members : List (Units × Value)) :
    reparseMembers members = members.map fun member => (member.1, reparse member.2) := by
  induction members with
  | nil => rfl
  | cons member members ih =>
      obtain ⟨name, value⟩ := member
      rw [reparseMembers, ih]
      rfl

/-- Reading back a written object gives each property its value read back. -/
theorem property_reparse_object {members : List (Units × Value)}
    (hnodup : (members.map (·.1)).Nodup) (name : Units) :
    (reparse (.object members)).property name = (lookup members name).map reparse := by
  have hkeys : ((reparseMembers members).map (·.1)).Nodup := by
    rw [reparseMembers_eq, List.map_map]
    exact hnodup
  unfold reparse Value.property
  simp only
  rw [lookup_perm (ownKeyOrder_perm _) ((ownKeyOrder_perm _).map _ |>.nodup_iff.mpr hkeys),
    reparseMembers_eq]
  unfold lookup
  rw [List.find?_map, Option.map_map, Option.map_map]
  rfl

/-! ## Objects with given fields -/

/-- An object literal. -/
def objectOf (fields : List (String × Value)) : Value :=
  .object (fields.map fun field => (stringUnits field.1, field.2))

theorem lookup_fields (fields : List (String × Value)) (name : String) :
    lookup (fields.map fun field => (stringUnits field.1, field.2)) (stringUnits name) =
      fields.lookup name := by
  induction fields with
  | nil => rfl
  | cons field fields ih =>
      unfold lookup at ih ⊢
      by_cases hname : field.1 = name
      · subst hname
        rw [List.map_cons, List.find?_cons_of_pos (by simp), List.lookup_cons, beq_self_eq_true]
        rfl
      · have hunits : ¬ stringUnits field.1 = stringUnits name :=
          fun h => hname (stringUnits_injective h)
        have hbeq : (name == field.1) = false := by simpa using fun h => hname h.symm
        rw [List.map_cons, List.find?_cons_of_neg (by simpa using hunits), ih,
          List.lookup_cons, hbeq]

theorem property_reparse_objectOf {fields : List (String × Value)}
    (hnodup : (fields.map (·.1)).Nodup) (name : String) :
    (reparse (objectOf fields)).property (stringUnits name) = (fields.lookup name).map reparse := by
  unfold objectOf
  rw [property_reparse_object, lookup_fields]
  rw [List.map_map]
  have hmap : (fun field : String × Value => stringUnits field.1) = stringUnits ∘ (·.1) := rfl
  show (fields.map (fun field : String × Value => stringUnits field.1)).Nodup
  rw [hmap, ← List.map_map]
  exact List.Nodup.map (fun _ _ h => stringUnits_injective h) hnodup

end SimulatorBroker.Text
