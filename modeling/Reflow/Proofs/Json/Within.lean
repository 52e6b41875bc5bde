import Reflow.Json.Basic

/-!
# The parts of a value

What is true of a container follows from what is true of its items or members, so there is one
induction over values, and one relation between a value and everything inside of it.
-/

namespace Reflow.Json

namespace Value

/-- Whether a value is no container. -/
def isScalar : Value → Bool
  | .null | .bool _ | .number _ | .string _ => true
  | .array _ | .object _ => false

-- These are proved by `rw`, since equations by `rfl` alone do not serve `simp` for side conditions.
@[simp] theorem isScalar_null : null.isScalar = true := by rw [isScalar]

@[simp] theorem isScalar_bool (truth : Bool) : (bool truth).isScalar = true := by rw [isScalar]

@[simp] theorem isScalar_number (number : Number) : (Value.number number).isScalar = true := by
  rw [isScalar]

@[simp] theorem isScalar_string (text : Text) : (string text).isScalar = true := by rw [isScalar]

@[simp] theorem isScalar_array (items : List Value) : (array items).isScalar = false := by
  rw [isScalar]

@[simp] theorem isScalar_object (members : List Member) : (object members).isScalar = false := by
  rw [isScalar]

/-- Induction over values: what holds of scalars, and of a container whose parts it holds of, holds
of every value. -/
@[elab_as_elim, induction_eliminator]
theorem induct {motive : Value → Prop}
    (scalar : ∀ value, value.isScalar = true → motive value)
    (array : ∀ items, (∀ item ∈ items, motive item) → motive (.array items))
    (object : ∀ members, (∀ member ∈ members, motive member.2) → motive (.object members)) :
    ∀ value, motive value
  | .null => scalar _ rfl
  | .bool _ => scalar _ rfl
  | .number _ => scalar _ rfl
  | .string _ => scalar _ rfl
  | .array items => array items fun item listed =>
      have := List.sizeOf_lt_of_mem listed
      induct scalar array object item
  | .object members => object members fun (key, value) listed =>
      have := List.sizeOf_lt_of_mem listed
      induct scalar array object value
decreasing_by
  all_goals
    simp_all
    omega

/-! ## Parts -/

/-- A value is within another one if it is that value, or within an item or member of it. -/
inductive Within (part : Value) : Value → Prop where
  | self : Within part part
  | item {items : List Value} {item : Value} (listed : item ∈ items) (within : Within part item) :
      Within part (.array items)
  | member {members : List Member} {member : Member} (listed : member ∈ members)
      (within : Within part member.2) : Within part (.object members)

@[simp] theorem within_iff_of_isScalar {part value : Value} (scalar : value.isScalar = true) :
    part.Within value ↔ part = value := by
  constructor
  · intro within
    cases within with
    | self => rfl
    | item => cases scalar
    | member => cases scalar
  · rintro rfl
    exact .self

@[simp] theorem within_array_iff {part : Value} {items : List Value} :
    part.Within (.array items) ↔ part = .array items ∨ ∃ item ∈ items, part.Within item := by
  constructor
  · intro within
    cases within with
    | self => exact .inl rfl
    | item listed within => exact .inr ⟨_, listed, within⟩
  · rintro (rfl | ⟨item, listed, within⟩)
    · exact .self
    · exact .item listed within

@[simp] theorem within_object_iff {part : Value} {members : List Member} :
    part.Within (.object members) ↔
      part = .object members ∨ ∃ member ∈ members, part.Within member.2 := by
  constructor
  · intro within
    cases within with
    | self => exact .inl rfl
    | member listed within => exact .inr ⟨_, listed, within⟩
  · rintro (rfl | ⟨member, listed, within⟩)
    · exact .self
    · exact .member listed within

theorem not_within_of_isScalar {part value : Value} (container : part.isScalar = false)
    (scalar : value.isScalar = true) : ¬part.Within value := by
  rw [within_iff_of_isScalar scalar]
  rintro rfl
  rw [scalar] at container
  cases container

/-! ## The objects within a value -/

section Objects

variable {Property : List Member → Prop} {value : Value} {items : List Value}
  {members : List Member}

theorem forall_object_within_of_isScalar (scalar : value.isScalar = true) :
    ∀ members, (object members).Within value → Property members :=
  fun _ within => absurd within (not_within_of_isScalar rfl scalar)

/-- What holds of all objects within an array holds of those within its items, as the array is none
itself. -/
theorem forall_object_within_array_iff :
    (∀ members, (object members).Within (array items) → Property members) ↔
      ∀ item ∈ items, ∀ members, (object members).Within item → Property members := by
  constructor
  · exact fun each item listed members within => each members (.item listed within)
  · intro each members within
    obtain same | ⟨item, listed, within⟩ := within_array_iff.mp within
    · cases same
    · exact each item listed members within

theorem forall_object_within_object_iff :
    (∀ inner, (object inner).Within (object members) → Property inner) ↔
      Property members ∧
        ∀ member ∈ members, ∀ inner, (object inner).Within member.2 → Property inner := by
  constructor
  · exact fun each => ⟨each members .self,
      fun member listed inner within => each inner (.member listed within)⟩
  · rintro ⟨whole, each⟩ inner within
    obtain same | ⟨member, listed, within⟩ := within_object_iff.mp within
    · rwa [Value.object.inj same]
    · exact each member listed inner within

/-- No object within a value has two members with the same key. -/
def Keyed (value : Value) : Prop :=
  ∀ members, (Value.object members).Within value → (members.map Prod.fst).Nodup

@[simp] theorem keyed_of_isScalar (scalar : value.isScalar = true) : value.Keyed :=
  forall_object_within_of_isScalar scalar

@[simp] theorem keyed_array_iff :
    (Value.array items).Keyed ↔ ∀ item ∈ items, item.Keyed :=
  forall_object_within_array_iff

@[simp] theorem keyed_object_iff :
    (Value.object members).Keyed ↔
      (members.map Prod.fst).Nodup ∧ ∀ member ∈ members, member.2.Keyed :=
  forall_object_within_object_iff

end Objects

end Value

end Reflow.Json
