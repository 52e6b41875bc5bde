import Mathlib
import Reflow.Proofs.Json.Expansion

/-!
# Expansion shrinks

A string weighs more than what it holds, since every part of the value has been read from characters
of its own. So expansion steps into lighter and lighter values, however deep JSON is embedded in
JSON, and it ends for every value. Without marks keys only get shorter and members only fewer, so
that the result weighs at most as much as the value itself.
-/

namespace Reflow.Json

/-! ## Lighter parts -/

section Parts

variable {members : List Member}

theorem itemsWeight_map_le {items : List Value} {replace : Value → Value}
    (lighter : ∀ item ∈ items, (replace item).weight ≤ item.weight) :
    itemsWeight (items.map replace) ≤ itemsWeight items := by
  induction items with
  | nil => exact Nat.le_refl _
  | cons item items ih =>
      rw [List.forall_mem_cons] at lighter
      rw [List.map_cons, itemsWeight, itemsWeight]
      exact Nat.add_le_add lighter.1 (ih lighter.2)

/-- Members that are replaced by ones with shorter keys and lighter values weigh less together. -/
theorem membersWeight_map_le {replace : Member → Member}
    (shorter : ∀ member ∈ members, (replace member).1.length ≤ member.1.length)
    (lighter : ∀ member ∈ members, (replace member).2.weight ≤ member.2.weight) :
    membersWeight (members.map replace) ≤ membersWeight members := by
  induction members with
  | nil => exact Nat.le_refl _
  | cons member members ih =>
      rw [List.forall_mem_cons] at shorter lighter
      rw [List.map_cons, membersWeight, membersWeight]
      exact Nat.add_le_add (Nat.add_le_add shorter.1 lighter.1) (ih shorter.2 lighter.2)

theorem length_expandedKey_false_le (embedded : Bool) (key : Text) :
    (expandedKey false embedded key).length ≤ key.length := by
  cases embedded with
  | true => exact Nat.le_refl _
  | false =>
      rw [expandedKey]
      cases dropped : Text.dropEnd? expansionMark key with
      | none => exact Nat.le_refl _
      | some front =>
          rw [Text.dropEnd?_eq_some_iff.mp dropped, Option.getD_some, List.length_append]
          exact Nat.le_add_right _ _

end Parts

/-! ## The way down -/

namespace Value

variable {inner outer : Value}

/-- Expanding the outer value takes expanding the inner one, which is what some content of it stands
for. -/
def StepsInto (inner outer : Value) : Prop :=
  ∃ content ∈ outer.contents, content.opened = inner

theorem weight_lt_of_mem_contents (listed : inner ∈ outer.contents) :
    inner.weight < outer.weight := by
  cases outer with
  | array items =>
      rw [weight]
      exact Nat.lt_one_add_iff.mpr (weight_le_itemsWeight listed)
  | object members =>
      obtain ⟨member, isMember, rfl⟩ := List.mem_map.mp listed
      rw [weight]
      exact Nat.lt_one_add_iff.mpr (weight_le_membersWeight isMember)
  | _ => cases listed

/-- Each step of expansion leads to a lighter value, also if the step is to what a string holds. -/
theorem StepsInto.weight_lt (steps : StepsInto inner outer) : inner.weight < outer.weight := by
  obtain ⟨content, listed, rfl⟩ := steps
  exact Nat.lt_of_le_of_lt content.weight_opened_le (weight_lt_of_mem_contents listed)

theorem wellFounded_stepsInto : WellFounded StepsInto :=
  Subrelation.wf StepsInto.weight_lt (measure weight).wf

/-- Without marks, expansion adds no weight: keys only lose suffixes, and members that overtake
others only take their places. -/
theorem weight_expand_false_le (value : Value) : (value.expand false).weight ≤ value.weight := by
  induction value using inductOpened with
  | scalar value scalar => rw [expand_of_isScalar scalar]
  | array items ih =>
      rw [expand_array, weight, weight]
      apply Nat.add_le_add_left
      apply itemsWeight_map_le
      intro item listed
      exact (ih item listed).trans item.weight_opened_le
  | object members ih =>
      rw [expand_object, weight, weight]
      apply Nat.add_le_add_left
      apply (membersWeight_collectMembers_le _).trans
      apply membersWeight_map_le
      · intro member _
        exact length_expandedKey_false_le _ member.1
      · intro member listed
        exact (ih member listed).trans member.2.weight_opened_le

end Value

/-- Embedding shrinks. A value weighs at most as much as a text that holds it has characters, and so
less than the text as a string. Expansion, which steps from a value into what its contents hold or
are, therefore goes down a well-founded order, and what it makes of a value without marks weighs at
most as much as the value. -/
theorem expansion_shrinks :
    (∀ (text : Text) (value : Value), Json.embedded? text = some value →
      value.weight ≤ text.length ∧ value.weight < (Value.string text).weight) ∧
    WellFounded Value.StepsInto ∧
    ∀ value : Value, (value.expand false).weight ≤ value.weight := by
  refine ⟨?_, Value.wellFounded_stepsInto, Value.weight_expand_false_le⟩
  intro text value holds
  have found : (Value.string text).embedded? = some value := holds
  exact ⟨weight_le_of_embedded? holds, Value.weight_lt_of_embedded? found⟩

/-- A character in two escaped halves, a key that comes twice, and containers in containers. -/
theorem expansion_shrinks_of_repeated_key :
    Json.embedded? "\x7b\"k\":[[]],\"k\":\"\\ud83d\\ude00\"\x7d".toList =
      some (.object [(['k'], .string ['😀'])]) ∧
    (Value.object [(['k'], .string ['😀'])]).weight = 4 ∧
    (Value.object [(['k'], .string ['😀'])]).weight ≤
      "\x7b\"k\":[[]],\"k\":\"\\ud83d\\ude00\"\x7d".toList.length ∧
    (Value.object [(['k'], .string ['😀'])]).weight <
      (Value.string "\x7b\"k\":[[]],\"k\":\"\\ud83d\\ude00\"\x7d".toList).weight := by
  have holds : Json.embedded? "\x7b\"k\":[[]],\"k\":\"\\ud83d\\ude00\"\x7d".toList =
      some (.object [(['k'], .string ['😀'])]) := by
    cbv
  exact ⟨holds, rfl, expansion_shrinks.1 _ _ holds⟩

end Reflow.Json
