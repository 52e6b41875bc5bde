import Mathlib
import Reflow.Proofs.Json.Expansion

/-!
# Marked keys

Expansion with marks adds a suffix to the keys of the members that it expands. Where no key ends
with the suffix, no two keys come to be equal in this way, and expanding once more without marks
takes exactly the added suffixes away.
-/

namespace Reflow.Json

/-! ## One key -/

section Key

variable {key : Text}

/-- What comes to be equal to the key of an expanded member: that key with the suffix and, as only
expansion without marks leaves it, the key itself if it has no suffix to lose. -/
theorem expandedKey_eq_iff {mark : Bool} {base : Text} :
    expandedKey mark false key = expandedKey mark true base ↔
      key = base ++ expansionMark ∨ key = base ∧ mark = false ∧ ¬expansionMark <:+ base := by
  cases mark with
  | true => simp [expandedKey]
  | false =>
      rw [expandedKey, expandedKey]
      cases dropped : Text.dropEnd? expansionMark key with
      | none =>
          have unmarked : ¬expansionMark <:+ key := by
            rintro ⟨front, rfl⟩
            rw [Text.dropEnd?_eq_some_iff.mpr rfl] at dropped
            cases dropped
          constructor
          · rintro rfl
            exact .inr ⟨rfl, rfl, unmarked⟩
          · rintro (rfl | ⟨rfl, -⟩)
            · exact absurd (List.suffix_append _ _) unmarked
            · rfl
      | some front =>
          rw [Text.dropEnd?_eq_some_iff.mp dropped, Option.getD_some]
          constructor
          · rintro rfl
            exact .inl rfl
          · rintro (same | ⟨rfl, -, unmarked⟩)
            · exact List.append_cancel_right same
            · exact absurd (List.suffix_append _ _) unmarked

theorem expandedKey_false (unmarked : ¬expansionMark <:+ key) (embedded : Bool) :
    expandedKey false embedded key = key := by
  cases embedded with
  | true => rfl
  | false => exact expandedKey_eq_iff.mpr (.inr ⟨rfl, rfl, unmarked⟩)

theorem expandedKey_false_expandedKey_true (unmarked : ¬expansionMark <:+ key) (embedded : Bool) :
    expandedKey false false (expandedKey true embedded key) = key := by
  cases embedded with
  | true => exact expandedKey_eq_iff.mpr (.inl rfl)
  | false => exact expandedKey_false unmarked false

end Key

/-! ## All keys -/

namespace Value

/-- The keys of the members of an object. -/
def keys : Value → List Text
  | .object members => members.map Prod.fst
  | _ => []

/-- What holds of all keys that the expansion of a value meets holds of its own keys, and of those
that are met in what its contents stand for. -/
theorem forall_met_keys_iff {value : Value} {holds : Text → Prop} :
    (∀ part : Value, part.Met value → ∀ key ∈ part.keys, holds key) ↔
      (∀ key ∈ value.keys, holds key) ∧
        ∀ content ∈ value.contents, ∀ part : Value, part.Met content.opened →
          ∀ key ∈ part.keys, holds key := by
  constructor
  · intro each
    exact ⟨each value .self, fun content listed part met => each part (.content listed met)⟩
  · rintro ⟨own, each⟩ part met
    rcases met_iff.mp met with rfl | ⟨content, listed, met⟩
    · exact own
    · exact each content listed part met

/-- No key that the expansion of a value meets ends with the suffix that marks keys. -/
def Unmarked (value : Value) : Prop :=
  ∀ part : Value, part.Met value → ∀ key ∈ part.keys, ¬expansionMark <:+ key

theorem unmarked_iff {value : Value} :
    value.Unmarked ↔ (∀ key ∈ value.keys, ¬expansionMark <:+ key) ∧
      ∀ content ∈ value.contents, content.opened.Unmarked :=
  forall_met_keys_iff

/-- What a value stands for has been read, or is the value itself. -/
theorem Keyed.opened {value : Value} (keyed : value.Keyed) : value.opened.Keyed := by
  cases holds : value.embedded? with
  | none => rwa [opened_of_embedded?_eq_none holds]
  | some inner =>
      rw [opened_of_embedded?_eq_some holds]
      obtain ⟨text, _, read, _⟩ := embedded?_eq_some_iff.mp holds
      exact keyed_of_parse read

end Value

theorem nodup_keys_marked {members : List Member} (distinct : (members.map Prod.fst).Nodup)
    (unmarked : ∀ key ∈ members.map Prod.fst, ¬expansionMark <:+ key) (embedded : Member → Bool) :
    (members.map fun member => expandedKey true (embedded member) member.1).Nodup := by
  rw [List.forall_mem_map] at unmarked
  apply List.Nodup.map_on
  · intro left inLeft right inRight same
    have sameKey := congrArg (expandedKey false false) same
    rw [expandedKey_false_expandedKey_true (unmarked left inLeft),
      expandedKey_false_expandedKey_true (unmarked right inRight)] at sameKey
    exact List.inj_on_of_nodup_map distinct inLeft inRight sameKey
  · exact distinct.of_map

/-- Unmarking undoes marking. Where no key that the expansion of a value meets ends with the suffix
that marks keys, expanding with marks and then without gives what expanding without marks gives at
once, with the same members in the same order. -/
theorem expand_false_expand_true {value : Value} (keyed : value.Keyed)
    (unmarked : value.Unmarked) : (value.expand true).expand false = value.expand false := by
  induction value using Value.inductOpened with
  | scalar value scalar => rw [expand_of_isScalar scalar]
  | array items ih =>
      rw [Value.keyed_array_iff] at keyed
      obtain ⟨-, unmarked⟩ := Value.unmarked_iff.mp unmarked
      rw [expand_array, expand_array, expand_array, List.map_map, Value.array.injEq]
      apply List.map_congr_left
      intro item listed
      rw [Function.comp_apply, Value.opened_expand_opened]
      exact ih item listed (keyed item listed).opened (unmarked item listed)
  | object members ih =>
      obtain ⟨distinct, keyed⟩ := Value.keyed_object_iff.mp keyed
      obtain ⟨unmarkedKeys, unmarked⟩ := Value.unmarked_iff.mp unmarked
      have distinctMarked : ((members.map fun member =>
          (expandedKey true member.2.embedded?.isSome member.1,
            member.2.opened.expand true)).map Prod.fst).Nodup := by
        rw [List.map_map]
        exact nodup_keys_marked distinct unmarkedKeys _
      rw [expand_object, collectMembers_of_nodup distinctMarked, expand_object, expand_object,
        List.map_map]
      -- The members that are entered without marks are the same on both sides.
      congr 2
      apply List.map_congr_left
      intro member listed
      have unmarkedKey := unmarkedKeys member.1 (List.mem_map_of_mem listed)
      have unmarkedValue := unmarked member.2 (List.mem_map_of_mem listed)
      rw [Function.comp_apply, Value.opened_expand_opened, Value.embedded?_expand_opened,
        Option.isSome_none, expandedKey_false_expandedKey_true unmarkedKey,
        expandedKey_false unmarkedKey,
        ih member listed (keyed member listed).opened unmarkedValue]

/-- A member that is expanded twice over, beside one that is not. -/
theorem expand_false_expand_true_of_nested :
    let value : Value := .object [(['a'], .string "\x7b\"b\":\"[1]\"\x7d".toList),
      (['c'], .string ['2'])]
    value.Keyed ∧ value.Unmarked ∧
      value.expand true = .object [("a [@String]".toList, .object [("b [@String]".toList,
        .array [.number (.integer 1)])]), (['c'], .string ['2'])] ∧
      (value.expand true).expand false = .object [(['a'], .object [(['b'],
        .array [.number (.integer 1)])]), (['c'], .string ['2'])] := by
  intro value
  have keyed : value.Keyed := by simp [value]
  have outer : (Value.string "\x7b\"b\":\"[1]\"\x7d".toList).opened =
      .object [(['b'], .string "[1]".toList)] := by
    cbv
  have inner : (Value.string "[1]".toList).opened = .array [.number (.integer 1)] := by
    cbv
  have alone : (Value.string ['2']).opened = .string ['2'] := by
    cbv
  have number : (Value.number (.integer 1)).opened.Unmarked :=
    Value.unmarked_iff.mpr ⟨List.forall_mem_nil _, List.forall_mem_nil _⟩
  have string : (Value.string ['2']).opened.Unmarked := by
    rw [alone]
    exact Value.unmarked_iff.mpr ⟨List.forall_mem_nil _, List.forall_mem_nil _⟩
  have array : (Value.string "[1]".toList).opened.Unmarked := by
    rw [inner]
    exact Value.unmarked_iff.mpr ⟨List.forall_mem_nil _, List.forall_mem_singleton.mpr number⟩
  have object : (Value.string "\x7b\"b\":\"[1]\"\x7d".toList).opened.Unmarked := by
    rw [outer]
    exact Value.unmarked_iff.mpr ⟨by decide, List.forall_mem_singleton.mpr array⟩
  have unmarked : value.Unmarked :=
    Value.unmarked_iff.mpr ⟨by decide, List.forall_mem_cons.mpr
      ⟨object, List.forall_mem_singleton.mpr string⟩⟩
  have marked : value.expand true = .object [("a [@String]".toList, .object [("b [@String]".toList,
      .array [.number (.integer 1)])]), (['c'], .string ['2'])] := by
    cbv
  have plain : value.expand false = .object [(['a'], .object [(['b'],
      .array [.number (.integer 1)])]), (['c'], .string ['2'])] := by
    cbv
  exact ⟨keyed, unmarked, marked, (expand_false_expand_true keyed unmarked).trans plain⟩

end Reflow.Json
