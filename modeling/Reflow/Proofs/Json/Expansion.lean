import Reflow.Json.Expand
import Reflow.Proofs.Json.Reading

/-!
# What expansion does

An item, or the value of a member, stands for the array or object that it holds as a string, or else
for itself. Expansion goes down from a container to what its parts stand for, so that is also how
statements about it are proved. Nothing is left to expand in the end.
-/

namespace Reflow.Json

/-! ## What strings hold -/

section Embedded

variable {text : Text} {value : Value}

theorem parse_eq_ok_iff_readDocument : parse text = .ok value ↔ readDocument text = .ok value := by
  rw [parse_eq_ok_iff, readDocument_eq_ok_iff]

/-- A text holds a value if it is read as this value and the value is an array or an object. -/
theorem embedded?_eq_some_iff :
    Json.embedded? text = some value ↔ parse text = .ok value ∧ value.isScalar = false := by
  rw [parse_eq_ok_iff_readDocument, Json.embedded?]
  split
  · next items read =>
    rw [read, Option.some.injEq, Except.ok.injEq]
    refine ⟨?_, And.left⟩
    rintro rfl
    exact ⟨rfl, rfl⟩
  · next members read =>
    rw [read, Option.some.injEq, Except.ok.injEq]
    refine ⟨?_, And.left⟩
    rintro rfl
    exact ⟨rfl, rfl⟩
  · next noArray noObject =>
    refine iff_of_false (by simp) ?_
    rintro ⟨read, container⟩
    cases value with
    | array items => exact noArray items read
    | object members => exact noObject members read
    | _ => cases container

/-- A value holds another one if it is a string that is read as an array or an object. -/
theorem Value.embedded?_eq_some_iff {inner : Value} :
    value.embedded? = some inner ↔
      ∃ text, value = .string text ∧ parse text = .ok inner ∧ inner.isScalar = false := by
  cases value with
  | string text => simp [Value.embedded?, Json.embedded?_eq_some_iff]
  | _ => simp [Value.embedded?]

end Embedded

namespace Value

/-- What an item or the value of a member stands for: the array or object that it holds as a string,
or else itself. -/
def opened (value : Value) : Value :=
  value.embedded?.getD value

theorem opened_of_embedded?_eq_none {value : Value} (holds : value.embedded? = none) :
    value.opened = value := by
  rw [opened, holds, Option.getD_none]

theorem opened_of_embedded?_eq_some {value inner : Value} (holds : value.embedded? = some inner) :
    value.opened = inner := by
  rw [opened, holds, Option.getD_some]

@[simp] theorem opened_array (items : List Value) : (array items).opened = array items := rfl

/-- What a value stands for does not stand for something else again, unless it is expanded. -/
@[simp] theorem embedded?_opened (value : Value) : value.opened.embedded? = none := by
  cases holds : value.embedded? with
  | none => rwa [opened_of_embedded?_eq_none holds]
  | some inner =>
      rw [opened_of_embedded?_eq_some holds]
      obtain ⟨_, _, _, container⟩ := embedded?_eq_some_iff.mp holds
      cases inner with
      | string => cases container
      | _ => rfl

theorem weight_opened_le (value : Value) : value.opened.weight ≤ value.weight := by
  cases holds : value.embedded? with
  | none => rw [opened_of_embedded?_eq_none holds]
  | some inner =>
      rw [opened_of_embedded?_eq_some holds]
      exact (weight_lt_of_embedded? holds).le

end Value

/-! ## The passes over items and members -/

section Passes

variable {mark : Bool}

theorem expandPart_eq (mark : Bool) (value : Value) :
    expandPart mark value = value.opened.expand mark := by
  rw [expandPart]
  split
  · next holds => rw [Value.opened_of_embedded?_eq_some holds]
  · next holds => rw [Value.opened_of_embedded?_eq_none holds]

theorem expandItems_eq (mark : Bool) (items : List Value) :
    expandItems mark items = items.map fun item => item.opened.expand mark := by
  induction items with
  | nil => rw [expandItems, List.map_nil]
  | cons item items ih => rw [expandItems, expandPart_eq, ih, List.map_cons]

theorem expandMembers_eq (mark : Bool) (members : List Member) :
    expandMembers mark members = members.map fun member =>
      (expandedKey mark member.2.embedded?.isSome member.1, member.2.opened.expand mark) := by
  induction members with
  | nil => rw [expandMembers, List.map_nil]
  | cons member members ih => rw [expandMembers, expandPart_eq, ih, List.map_cons]

@[simp] theorem expand_of_isScalar {value : Value} (scalar : value.isScalar = true) :
    value.expand mark = value := by
  cases value with
  | array => cases scalar
  | object => cases scalar
  | _ => simp [Value.expand]

@[simp] theorem expand_array (mark : Bool) (items : List Value) :
    (Value.array items).expand mark = .array (items.map fun item => item.opened.expand mark) := by
  rw [Value.expand, expandItems_eq]

@[simp] theorem expand_object (mark : Bool) (members : List Member) :
    (Value.object members).expand mark =
      .object (collectMembers (members.map fun member =>
        (expandedKey mark member.2.embedded?.isSome member.1, member.2.opened.expand mark))) := by
  rw [Value.expand, expandMembers_eq]

end Passes

/-! ## Going down along the expansion -/

theorem weight_le_itemsWeight {items : List Value} {item : Value} (listed : item ∈ items) :
    item.weight ≤ itemsWeight items := by
  induction items with
  | nil => cases listed
  | cons first items ih =>
      rw [itemsWeight]
      rcases List.mem_cons.mp listed with rfl | listed
      · exact Nat.le_add_right _ _
      · exact (ih listed).trans (Nat.le_add_left _ _)

theorem weight_le_membersWeight {members : List Member} {member : Member}
    (listed : member ∈ members) : member.2.weight ≤ membersWeight members := by
  induction members with
  | nil => cases listed
  | cons first members ih =>
      rw [membersWeight]
      rcases List.mem_cons.mp listed with rfl | listed
      · omega
      · exact (ih listed).trans (Nat.le_add_left _ _)

namespace Value

/-- Induction along the expansion: what holds of scalars, and of a container if it holds of whatever
the parts of the container stand for, holds of every value. -/
@[elab_as_elim]
theorem inductOpened {motive : Value → Prop}
    (scalar : ∀ value, value.isScalar = true → motive value)
    (array : ∀ items, (∀ item ∈ items, motive item.opened) → motive (.array items))
    (object : ∀ members, (∀ member ∈ members, motive member.2.opened) → motive (.object members)) :
    ∀ value, motive value
  | .null => scalar _ rfl
  | .bool _ => scalar _ rfl
  | .number _ => scalar _ rfl
  | .string _ => scalar _ rfl
  | .array items => array items fun item listed =>
      have := item.weight_opened_le.trans (weight_le_itemsWeight listed)
      inductOpened scalar array object item.opened
  | .object members => object members fun member listed =>
      have := member.2.weight_opened_le.trans (weight_le_membersWeight listed)
      inductOpened scalar array object member.2.opened
termination_by value => value.weight
decreasing_by
  all_goals
    rw [weight]
    omega

/-- The items of an array, or the values of the members of an object. -/
def contents : Value → List Value
  | .array items => items
  | .object members => members.map Prod.snd
  | _ => []

@[simp] theorem contents_of_isScalar {value : Value} (scalar : value.isScalar = true) :
    value.contents = [] := by
  cases value with
  | array => cases scalar
  | object => cases scalar
  | _ => rfl

theorem within_iff {part value : Value} :
    part.Within value ↔ part = value ∨ ∃ content ∈ value.contents, part.Within content := by
  cases value with
  | array items => exact within_array_iff
  | object members =>
      rw [within_object_iff, contents]
      simp only [List.mem_map, exists_exists_and_eq_and]
  | _ => simp [contents]

/-- The expansion of a value meets another one if this is the value itself, or is met where what a
content of the value stands for is expanded. -/
inductive Met (part : Value) : Value → Prop where
  | self : Met part part
  | content {value content : Value} (listed : content ∈ value.contents)
      (met : Met part content.opened) : Met part value

theorem met_iff {part value : Value} :
    part.Met value ↔ part = value ∨ ∃ content ∈ value.contents, part.Met content.opened := by
  constructor
  · intro met
    cases met with
    | self => exact .inl rfl
    | content listed met => exact .inr ⟨_, listed, met⟩
  · rintro (rfl | ⟨content, listed, met⟩)
    · exact .self
    · exact .content listed met

end Value

/-! ## Nothing left to expand -/

namespace Value

/-- Nothing is left to expand in a value: no string that is an item or the value of a member is read
as an array or an object. -/
def Expanded (value : Value) : Prop :=
  ∀ container : Value, container.Within value →
    ∀ text : Text, Value.string text ∈ container.contents →
      ∀ inner : Value, parse text = .ok inner → inner.isScalar = true

theorem embedded?_eq_none_iff {value : Value} :
    value.embedded? = none ↔
      ∀ text : Text, Value.string text = value →
        ∀ inner : Value, parse text = .ok inner → inner.isScalar = true := by
  rw [Option.eq_none_iff_forall_ne_some]
  constructor
  · rintro holdsNone text rfl inner read
    rw [← Bool.not_eq_false]
    intro container
    exact holdsNone inner (embedded?_eq_some_iff.mpr ⟨text, rfl, read, container⟩)
  · intro scalars inner holds
    obtain ⟨text, rfl, read, container⟩ := embedded?_eq_some_iff.mp holds
    rw [scalars text rfl inner read] at container
    cases container

theorem expanded_iff {value : Value} :
    value.Expanded ↔
      ∀ content ∈ value.contents, content.embedded? = none ∧ content.Expanded := by
  constructor
  · intro expanded content listed
    constructor
    · rw [embedded?_eq_none_iff]
      rintro text rfl
      exact expanded value .self text listed
    · intro container within
      exact expanded container (within_iff.mpr (.inr ⟨content, listed, within⟩))
  · intro each container within text listed
    rcases within_iff.mp within with rfl | ⟨content, inContents, within⟩
    · exact embedded?_eq_none_iff.mp (each _ listed).1 text rfl
    · exact (each content inContents).2 container within text listed

/-- A string stays what it is when it stands alone, and anything else stays what it is not. -/
@[simp] theorem embedded?_expand (mark : Bool) (value : Value) :
    (value.expand mark).embedded? = value.embedded? := by
  cases value with
  | array => rw [expand_array]; rfl
  | object => rw [expand_object]; rfl
  | _ => rw [expand_of_isScalar rfl]

/-- Whatever has been put in place of a content is not expanded again. -/
theorem embedded?_expand_opened (mark : Bool) (value : Value) :
    (value.opened.expand mark).embedded? = none := by
  rw [embedded?_expand, embedded?_opened]

@[simp] theorem opened_expand_opened (mark : Bool) (value : Value) :
    (value.opened.expand mark).opened = value.opened.expand mark :=
  opened_of_embedded?_eq_none (embedded?_expand_opened mark value)

/-- Expansion leaves nothing to expand, whatever it had to go through. -/
theorem expanded_expand (mark : Bool) (value : Value) : (value.expand mark).Expanded := by
  induction value using inductOpened with
  | scalar value scalar =>
      rw [expand_of_isScalar scalar, expanded_iff, contents_of_isScalar scalar]
      exact List.forall_mem_nil _
  | array items ih =>
      rw [expand_array, expanded_iff, contents, List.forall_mem_map]
      intro item listed
      exact ⟨embedded?_expand_opened mark item, ih item listed⟩
  | object members ih =>
      rw [expand_object, expanded_iff, contents, List.forall_mem_map]
      intro member listed
      obtain ⟨original, inMembers, rfl⟩ := List.mem_map.mp (mem_of_mem_collectMembers listed)
      exact ⟨embedded?_expand_opened mark original.2, ih original inMembers⟩

/-- No two members of an object have the same key after expansion, even if keys came to be equal. -/
theorem keyed_expand (mark : Bool) (value : Value) : (value.expand mark).Keyed := by
  induction value using inductOpened with
  | scalar value scalar =>
      rw [expand_of_isScalar scalar]
      exact keyed_of_isScalar scalar
  | array items ih =>
      rw [expand_array, keyed_array_iff, List.forall_mem_map]
      exact ih
  | object members ih =>
      rw [expand_object, keyed_object_iff]
      refine ⟨nodup_keys_collectMembers _, fun member listed => ?_⟩
      obtain ⟨original, inMembers, rfl⟩ := List.mem_map.mp (mem_of_mem_collectMembers listed)
      exact ih original inMembers

/-- Where nothing is left to expand, marking expansion changes nothing. -/
theorem Expanded.expand_eq {value : Value} (expanded : value.Expanded) (keyed : value.Keyed) :
    value.expand true = value := by
  induction value with
  | scalar value scalar => exact expand_of_isScalar scalar
  | array items ih =>
      rw [expanded_iff] at expanded
      rw [keyed_array_iff] at keyed
      have same : ∀ item ∈ items, item.opened.expand true = item := by
        intro item listed
        obtain ⟨alone, expanded⟩ := expanded item listed
        rw [opened_of_embedded?_eq_none alone]
        exact ih item listed expanded (keyed item listed)
      rw [expand_array, List.map_congr_left same, List.map_id']
  | object members ih =>
      rw [expanded_iff] at expanded
      obtain ⟨distinct, keyed⟩ := keyed_object_iff.mp keyed
      have same : ∀ member ∈ members,
          (expandedKey true member.2.embedded?.isSome member.1, member.2.opened.expand true) =
            member := by
        intro member listed
        obtain ⟨alone, expanded⟩ := expanded member.2 (List.mem_map_of_mem listed)
        rw [opened_of_embedded?_eq_none alone, alone,
          ih member listed expanded (keyed member listed)]
        rfl
      rw [expand_object, List.map_congr_left same, List.map_id', collectMembers_of_nodup distinct]

/-- Expansion expands everything there is to expand: no string that is an item or the value of a
member anywhere in the result is read as an array or an object. So expanding the result again, with
marks, changes nothing. -/
theorem expand_leaves_nothing_embedded (mark : Bool) (value : Value) :
    (value.expand mark).Expanded ∧ (value.expand true).expand true = value.expand true :=
  ⟨expanded_expand mark value, (expanded_expand true value).expand_eq (keyed_expand true value)⟩

end Value

end Reflow.Json
