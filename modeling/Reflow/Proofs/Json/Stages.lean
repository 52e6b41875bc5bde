import Mathlib.Data.List.Basic
import Reflow.Proofs.Json.Cleaning

/-!
# Cleaning in stages

Options cover others if they ask for whatever the others ask for. What the weaker options remove
the stronger ones remove as well, and a container that the weaker ones have emptied would have been
emptied anyway. So it makes no difference whether a value is first cleaned with weaker options.
-/

namespace Reflow.Json

namespace CleanOptions

variable {stronger weaker : CleanOptions}

/-- The strings that are to be removed for what they hold. -/
def MatchesText (options : CleanOptions) (text : Text) : Prop :=
  ∃ pattern, options.valuePattern = some pattern ∧ pattern.occursIn text = true

/-- Options cover others if every choice of the others is made, and whatever a pattern of the others
matches is matched. -/
structure Covers (stronger weaker : CleanOptions) : Prop where
  null (chosen : weaker.null = true) : stronger.null = true
  blankString (chosen : weaker.blankString = true) : stronger.blankString = true
  falseBool (chosen : weaker.falseBool = true) : stronger.falseBool = true
  emptyObject (chosen : weaker.emptyObject = true) : stronger.emptyObject = true
  emptyArray (chosen : weaker.emptyArray = true) : stronger.emptyArray = true
  key (key : Text) (matching : weaker.MatchesKey key) : stronger.MatchesKey key
  text (text : Text) (matching : weaker.MatchesText text) : stronger.MatchesText text

theorem Covers.refl (options : CleanOptions) : options.Covers options where
  null := id
  blankString := id
  falseBool := id
  emptyObject := id
  emptyArray := id
  key _ := id
  text _ := id

variable (covers : stronger.Covers weaker) {value : Value}
include covers

theorem Selects.mono (selected : weaker.Selects value) : stronger.Selects value := by
  cases selected with
  | null chosen => exact .null (covers.null chosen)
  | falseBool chosen => exact .falseBool (covers.falseBool chosen)
  | blankString chosen blank => exact .blankString (covers.blankString chosen) blank
  | matching chosen occurs =>
      obtain ⟨pattern, chosen, occurs⟩ := covers.text _ ⟨_, chosen, occurs⟩
      exact .matching chosen occurs

theorem Removes.mono (removed : weaker.Removes value) : stronger.Removes value := by
  induction removed with
  | scalar selected => exact .scalar (selected.mono covers)
  | array chosen _ ih => exact .array (covers.emptyArray chosen) ih
  | object chosen _ ih =>
      apply Removes.object (covers.emptyObject chosen)
      intro member listed unmatched
      exact ih member listed (mt (covers.key member.1) unmatched)

end CleanOptions

section Stages

variable {stronger weaker : CleanOptions} (covers : stronger.Covers weaker)
include covers

/-- Two stages come to one if they do where the first stage leaves something. -/
theorem clean?_bind_of_left {value : Value}
    (each : ∀ left, value.clean? weaker = some left →
      left.clean? stronger = value.clean? stronger) :
    (value.clean? weaker).bind (Value.clean? stronger) = value.clean? stronger := by
  cases first : value.clean? weaker with
  | none =>
      symm
      exact clean?_eq_none_iff.mpr ((clean?_eq_none_iff.mp first).mono covers)
  | some left => exact each left first

theorem cleanMember?_bind_cleanMember? {member : Member}
    (value : (member.2.clean? weaker).bind (Value.clean? stronger) = member.2.clean? stronger) :
    (cleanMember? weaker member).bind (cleanMember? stronger) = cleanMember? stronger member := by
  cases first : cleanMember? weaker member with
  | none =>
      symm
      apply cleanMember?_eq_none_iff.mpr
      intro unmatched
      rw [← value, cleanMember?_eq_none_iff.mp first (mt (covers.key member.1) unmatched)]
      rfl
  | some left =>
      obtain ⟨-, sameKey, cleaned⟩ := cleanMember?_eq_some_iff.mp first
      rw [cleaned, Option.bind_some] at value
      rw [Option.bind_some, cleanMember?, cleanMember?, sameKey, value]

/-- What the stronger options leave of a value they leave of what the weaker ones leave of it. -/
theorem clean?_bind_clean? (value : Value) :
    (value.clean? weaker).bind (Value.clean? stronger) = value.clean? stronger := by
  induction value with
  | scalar value scalar =>
      apply clean?_bind_of_left covers
      intro left first
      rw [clean?_of_isScalar scalar, keep_eq_some_iff] at first
      rw [first.2]
  | array items ih =>
      apply clean?_bind_of_left covers
      intro left first
      rw [clean?_array, keep_eq_some_iff] at first
      rw [← first.2, clean?_array, clean?_array, List.filterMap_filterMap, List.filterMap_congr ih]
  | object members ih =>
      apply clean?_bind_of_left covers
      intro left first
      rw [clean?_object, keep_eq_some_iff] at first
      have each : ∀ member ∈ members,
          (cleanMember? weaker member).bind (cleanMember? stronger) =
            cleanMember? stronger member := by
        intro member listed
        exact cleanMember?_bind_cleanMember? covers (ih member listed)
      rw [← first.2, clean?_object, clean?_object, List.filterMap_filterMap,
        List.filterMap_congr each]

theorem clean_clean (value : Value) :
    (value.clean weaker).clean stronger = value.clean stronger := by
  have stages := clean?_bind_clean? covers value
  cases first : value.clean? weaker with
  | none =>
      rw [first, Option.bind_none] at stages
      have removed : value.clean weaker = .string [] := by rw [Value.clean, first]; rfl
      -- The empty string is what is left of itself, whether it is removed or not.
      rw [removed, Value.clean, Value.clean, ← stages, clean?_of_isScalar rfl, CleanOptions.keep]
      split <;> rfl
  | some left =>
      rw [first, Option.bind_some] at stages
      have remains : value.clean weaker = left := by rw [Value.clean, first]; rfl
      rw [remains, Value.clean, Value.clean, stages]

/-- Cleaning in stages is absorbed by the stronger cleaning: where options cover others, cleaning
with the others first makes no difference. So cleaning a second time changes nothing. -/
theorem clean_in_stages (value : Value) :
    (value.clean weaker).clean stronger = value.clean stronger ∧
      (value.clean weaker).clean weaker = value.clean weaker := by
  constructor
  · exact clean_clean covers value
  · exact clean_clean (.refl weaker) value

end Stages

/-- An array that the weaker options empty and the stronger ones remove, beside a member with a
matching key. -/
theorem clean_in_stages_of_emptied :
    let pattern : Pattern := .oneOf (.only 'b')
    let weaker : CleanOptions := { null := true, keyPattern := some pattern }
    let stronger : CleanOptions := { null := true, emptyArray := true, keyPattern := some pattern }
    let value : Value := .object [(['a'], .array [.null]), (['b'], .bool true), (['c'], .null),
      (['d'], .bool false)]
    stronger.Covers weaker ∧
      value.clean weaker = .object [(['a'], .array []), (['d'], .bool false)] ∧
      (value.clean weaker).clean stronger = .object [(['d'], .bool false)] := by
  intro pattern weaker stronger value
  have covers : stronger.Covers weaker :=
    { null := id, blankString := id, falseBool := id, emptyObject := id,
      emptyArray := fun _ => rfl, key := fun _ => id, text := fun _ => id }
  have once : value.clean stronger = .object [(['d'], .bool false)] := by
    cbv
  exact ⟨covers, by cbv, (clean_in_stages covers value).1.trans once⟩

end Reflow.Json
