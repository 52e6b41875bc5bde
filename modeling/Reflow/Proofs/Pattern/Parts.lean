import Reflow.Proofs.Pattern.Preference

/-!
# The usual parts of patterns

Most patterns are sequences of signs, of given texts and of greedy runs of characters. For these it
is easy to say what they describe and what they prefer to match.
-/

namespace Reflow.Pattern

variable {set : CharSet} {least : Nat} {text taken after : Text}

/-! ## Signs and runs -/

/-- A sign. -/
def sign (char : Char) : Pattern :=
  .oneOf (.only char)

/-- Either of two signs. -/
def either (first second : Char) : Pattern :=
  .oneOf (.union (.union .none (.only first)) (.only second))

/-- A sign that may be left out. -/
def maybe (char : Char) : Pattern :=
  .repeated 0 (some 1) true (.oneOf (.only char))

/-- A run of characters as long as there are any. -/
def run (least : Nat) (set : CharSet) : Pattern :=
  .repeated least none true (.oneOf set)

theorem matches_sign (char : Char) (after : Text) : (sign char).Matches [char] after [] :=
  .oneOf (beq_self_eq_true char)

theorem matches_run (enough : least ≤ taken.length)
    (inside : ∀ char ∈ taken, set.contains char = true)
    (stops : ∀ char, after.head? = some char → set.contains char = false) :
    (run least set).Matches taken after [] :=
  .run { inside, enough, bounded := fun _ none => absurd none (by simp), stops := .inr stops }

@[simp] theorem describes_sign_iff (char : Char) :
    (sign char).Describes taken ↔ taken = [char] := by
  simp [sign, Describes, CharSet.contains]

theorem enough_and_inside_of_describes_run (isDescribed : (run least set).Describes taken) :
    least ≤ taken.length ∧ ∀ char ∈ taken, set.contains char = true := by
  obtain ⟨rounds, rfl, enough, each⟩ := isDescribed
  induction rounds generalizing least with
  | nil => exact ⟨enough, List.forall_mem_nil _⟩
  | cons round rounds ih =>
      rw [List.forall_mem_cons] at each
      obtain ⟨⟨char, rfl, inside⟩, others⟩ := each
      obtain ⟨enoughMore, insideMore⟩ := @ih rounds.length (Nat.le_refl _) others
      refine ⟨Nat.le_trans enough ?_, List.forall_mem_cons.mpr ⟨inside, insideMore⟩⟩
      rw [List.flatten_cons, List.length_append, List.length_singleton, List.length_cons,
        Nat.add_comm]
      exact Nat.add_le_add_left enoughMore 1

/-! ## Given texts -/

/-- A text character by character. -/
def spelled (text : Text) : Pattern :=
  sequence (text.map sign)

theorem matches_followedBy {first : Pattern} {left right : Text} {groups : List (Nat × Text)}
    (isLeft : first.Matches left (right ++ after) groups) :
    (first.followedBy (right.map sign)).Matches (left ++ right) after groups := by
  induction right generalizing first left groups with
  | nil => rwa [List.append_nil]
  | cons char right ih =>
      have isNext := matches_sign char (right ++ after)
      have more := ih (Matches.seq isLeft isNext)
      rwa [List.append_assoc] at more

theorem matches_spelled (text after : Text) : (spelled text).Matches text after [] := by
  cases text with
  | nil => exact .empty
  | cons char text => exact matches_followedBy (matches_sign char (text ++ after))

theorem describes_followedBy_iff {first : Pattern} :
    (first.followedBy (text.map sign)).Describes taken ↔
      ∃ left, taken = left ++ text ∧ first.Describes left := by
  induction text generalizing first with
  | nil => simp [followedBy]
  | cons char text ih => simp [followedBy, ih, Describes]

/-- A pattern that spells a text describes this text only. -/
@[simp] theorem describes_spelled_iff (text : Text) :
    (spelled text).Describes taken ↔ taken = text := by
  cases text with
  | nil => rfl
  | cons char text => simp [spelled, sequence, describes_followedBy_iff]

end Reflow.Pattern
