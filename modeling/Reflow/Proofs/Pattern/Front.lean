import Reflow.Proofs.Pattern.Confinement

/-!
# Texts that a search passes over

If a search finds no match up to some place of a text, then replacing all matches leaves the text up
to there as it is, whatever becomes of the rest.
-/

namespace Reflow.Pattern

variable {pattern : Pattern} {front left right rest : Text}

/-- No match starts in a text, or right behind it, when another text follows. -/
def Passes (pattern : Pattern) (front rest : Text) : Prop :=
  ∀ passed ahead, front = passed ++ ahead → ∀ before,
    pattern.matchHere? before (ahead ++ rest) = none

namespace Passes

theorem tail {char : Char} (passes : pattern.Passes (char :: front) rest) :
    pattern.Passes front rest :=
  fun passed ahead equal => passes (char :: passed) ahead (congrArg (char :: ·) equal)

theorem append (first : pattern.Passes left (right ++ rest)) (second : pattern.Passes right rest) :
    pattern.Passes (left ++ right) rest := by
  intro passed ahead equal before
  rcases List.append_eq_append_iff.mp equal with ⟨between, -, inRight⟩ | ⟨between, inLeft, rfl⟩
  · exact second between ahead inRight before
  · rw [List.append_assoc]
    exact first passed between inLeft before

/-- A match that is found leaves out what the search passes over, and one character more. -/
theorem skipped_eq (passes : pattern.Passes front rest) {before : Option Char} {found : Found}
    (search : pattern.find? before (front ++ rest) = some found) :
    ∃ char behind skipped, rest = char :: behind ∧ found.skipped = front ++ char :: skipped := by
  induction front generalizing before found with
  | nil =>
      have here := passes [] [] rfl before
      rw [List.nil_append] at here search
      cases rest with
      | nil => simp [Pattern.find?, here] at search
      | cons char behind =>
          rw [find?_of_matchHere?_eq_none here, Option.map_eq_some_iff] at search
          obtain ⟨later, -, rfl⟩ := search
          exact ⟨char, behind, later.skipped, rfl, rfl⟩
  | cons first front ih =>
      have here := passes [] (first :: front) rfl before
      rw [List.cons_append] at here search
      rw [find?_of_matchHere?_eq_none here, Option.map_eq_some_iff] at search
      obtain ⟨later, search, rfl⟩ := search
      obtain ⟨char, behind, skipped, equal, laterEqual⟩ := ih passes.tail search
      exact ⟨char, behind, skipped, equal, by rw [laterEqual, List.cons_append]⟩

/-- Replacing matches keeps what the search passes over, and the character behind it. -/
theorem exists_replaceAll (passes : pattern.Passes front rest) (fill : Found → Text) :
    ∃ result, pattern.replaceAll fill (front ++ rest) = front ++ result ∧
      result.head? = rest.head? := by
  rw [replaceAll, replaceFrom.eq_def]
  dsimp only
  cases search : pattern.find? none (front ++ rest) with
  | none => exact ⟨rest, rfl, rfl⟩
  | some found =>
      obtain ⟨char, behind, skipped, rfl, equal⟩ := passes.skipped_eq search
      dsimp only
      rw [Bool.false_and, Bool.false_and, if_neg Bool.false_ne_true, equal, List.append_assoc,
        List.append_assoc]
      exact ⟨char :: skipped ++ _, rfl, rfl⟩

end Passes

/-! ## Reasons to pass over a text -/

variable {Property Needed : Char → Prop}

theorem Starts.passes (starts : pattern.Starts Property)
    (outside : ∀ char ∈ front, ¬Property char)
    (stops : ∀ char, rest.head? = some char → ¬Property char) : pattern.Passes front rest := by
  rintro passed ahead rfl
  refine matchHere?_eq_none fun taken => starts.not_describes fun char first => ?_
  cases ahead with
  | nil => exact stops char first
  | cons _ ahead =>
      cases first
      exact outside char (List.mem_append_right passed List.mem_cons_self)

theorem exists_prefix_of_describes_followedBy {first : Pattern} {others : List Pattern}
    {taken : Text} (isDescribed : (first.followedBy others).Describes taken) :
    ∃ start, start <+: taken ∧ first.Describes start := by
  induction others generalizing first with
  | nil => exact ⟨taken, List.prefix_refl taken, isDescribed⟩
  | cons second others ih =>
      obtain ⟨start, isStart, left, right, rfl, isLeft, -⟩ := ih isDescribed
      exact ⟨left, (List.prefix_append left right).trans isStart, isLeft⟩

/-- A search for a sequence passes over a text without a character that the front of the sequence
needs, up to a character that this front does not hold. -/
theorem Needs.passes {first : Pattern} {others : List Pattern} (needs : first.Needs Needed)
    (holds : first.Holds Property) (lacking : ∀ char ∈ front, ¬Needed char)
    (stops : ∀ char, rest.head? = some char → ¬Property char) :
    (first.followedBy others).Passes front rest := by
  rintro passed ahead rfl
  refine matchHere?_eq_none fun taken isStart isDescribed => ?_
  obtain ⟨start, isFront, isDescribed⟩ := exists_prefix_of_describes_followedBy isDescribed
  have lackingAhead : ∀ char ∈ ahead, ¬Needed char := (List.forall_mem_append.mp lacking).2
  exact needs.not_describes holds lackingAhead stops (isFront.trans isStart) isDescribed

end Reflow.Pattern
