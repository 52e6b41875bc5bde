import Mathlib.Data.List.Infix
import Reflow.Proofs.Pattern.Replace

/-!
# Places without a match

Most places of a text can be seen to have no match by a look at a few characters: no match starts
with the character there, or the text ahead lacks a character that every match holds, up to one that
none holds. Which characters these are is read off the pattern.
-/

namespace Reflow.Pattern

/-! ## The characters of a pattern -/

/-- Every text that is described starts with a character that has a property. Only the leftmost part
of a sequence is looked at. -/
def Starts (Property : Char → Prop) : Pattern → Prop
  | .empty | .look _ => False
  | .oneOf set => ∀ char, set.contains char = true → Property char
  | .group _ body => body.Starts Property
  | .seq first _ => first.Starts Property
  | .alt first second => first.Starts Property ∧ second.Starts Property
  | .repeated least _ _ body => 0 < least ∧ body.Starts Property

/-- Every character of a text that is described has a property. -/
def Holds (Property : Char → Prop) : Pattern → Prop
  | .empty | .look _ => True
  | .oneOf set => ∀ char, set.contains char = true → Property char
  | .group _ body | .repeated _ _ _ body => body.Holds Property
  | .seq first second | .alt first second => first.Holds Property ∧ second.Holds Property

/-- Some character of every text that is described has a property. -/
def Needs (Property : Char → Prop) : Pattern → Prop
  | .empty | .look _ => False
  | .oneOf set => ∀ char, set.contains char = true → Property char
  | .group _ body => body.Needs Property
  | .seq first second => first.Needs Property ∨ second.Needs Property
  | .alt first second => first.Needs Property ∧ second.Needs Property
  | .repeated least _ _ body => 0 < least ∧ body.Needs Property

section Described

variable {Property : Char → Prop} {pattern : Pattern} {text : Text}

theorem Starts.exists_eq_cons (starts : pattern.Starts Property)
    (isDescribed : pattern.Describes text) : ∃ char rest, text = char :: rest ∧ Property char := by
  induction pattern generalizing text with
  | empty => cases starts
  | look => cases starts
  | oneOf set =>
      obtain ⟨char, rfl, inside⟩ := isDescribed
      exact ⟨char, [], rfl, starts char inside⟩
  | group _ _ ih => exact ih starts isDescribed
  | seq first second ih =>
      obtain ⟨left, right, rfl, isLeft, -⟩ := isDescribed
      obtain ⟨char, rest, rfl, has⟩ := ih starts isLeft
      exact ⟨char, rest ++ right, rfl, has⟩
  | alt first second firstIH secondIH =>
      exact isDescribed.elim (firstIH starts.1) (secondIH starts.2)
  | repeated least most greedy body ih =>
      obtain ⟨rounds, rfl, enough, each⟩ := isDescribed
      obtain ⟨round, others, rfl⟩ :=
        List.exists_cons_of_length_pos (Nat.lt_of_lt_of_le starts.1 enough)
      obtain ⟨char, rest, rfl, has⟩ := ih starts.2 (each round List.mem_cons_self)
      exact ⟨char, rest ++ others.flatten, rfl, has⟩

theorem Holds.forall_mem (holds : pattern.Holds Property) (isDescribed : pattern.Describes text) :
    ∀ char ∈ text, Property char := by
  induction pattern generalizing text with
  | empty => exact isDescribed ▸ List.forall_mem_nil _
  | look => exact isDescribed ▸ List.forall_mem_nil _
  | oneOf set =>
      obtain ⟨char, rfl, inside⟩ := isDescribed
      exact List.forall_mem_singleton.mpr (holds char inside)
  | group _ _ ih => exact ih holds isDescribed
  | seq first second firstIH secondIH =>
      obtain ⟨left, right, rfl, isLeft, isRight⟩ := isDescribed
      exact List.forall_mem_append.mpr ⟨firstIH holds.1 isLeft, secondIH holds.2 isRight⟩
  | alt first second firstIH secondIH =>
      exact isDescribed.elim (firstIH holds.1) (secondIH holds.2)
  | repeated least most greedy body ih =>
      obtain ⟨rounds, rfl, -, each⟩ := isDescribed
      intro char member
      obtain ⟨round, listed, member⟩ := List.mem_flatten.mp member
      exact ih holds (each round listed) char member

theorem Needs.exists_mem (needs : pattern.Needs Property) (isDescribed : pattern.Describes text) :
    ∃ char ∈ text, Property char := by
  induction pattern generalizing text with
  | empty => cases needs
  | look => cases needs
  | oneOf set =>
      obtain ⟨char, rfl, inside⟩ := isDescribed
      exact ⟨char, List.mem_cons_self, needs char inside⟩
  | group _ _ ih => exact ih needs isDescribed
  | seq first second firstIH secondIH =>
      obtain ⟨left, right, rfl, isLeft, isRight⟩ := isDescribed
      rcases needs with inFirst | inSecond
      · obtain ⟨char, member, has⟩ := firstIH inFirst isLeft
        exact ⟨char, List.mem_append_left right member, has⟩
      · obtain ⟨char, member, has⟩ := secondIH inSecond isRight
        exact ⟨char, List.mem_append_right left member, has⟩
  | alt first second firstIH secondIH =>
      exact isDescribed.elim (firstIH needs.1) (secondIH needs.2)
  | repeated least most greedy body ih =>
      obtain ⟨rounds, rfl, enough, each⟩ := isDescribed
      obtain ⟨round, others, rfl⟩ :=
        List.exists_cons_of_length_pos (Nat.lt_of_lt_of_le needs.1 enough)
      obtain ⟨char, member, has⟩ := ih needs.2 (each round List.mem_cons_self)
      exact ⟨char, List.mem_append_left _ member, has⟩

end Described

/-! ## Characters that are kept -/

variable {pattern : Pattern} {fill : Found → Text} {Property Needed : Char → Prop}
  {front more rest result : Text}

/-- Where a match needs a character, none is empty. -/
theorem Needs.rewrites_nil (needs : pattern.Needs Needed) : Rewrites pattern fill [] [] := by
  refine .nil (matchHere?_eq_none fun taken start isDescribed => ?_)
  obtain ⟨char, member, -⟩ := needs.exists_mem isDescribed
  rw [List.prefix_nil.mp start] at member
  cases member

/-- A start of a text whose characters have a property ends before a character that has not. -/
theorem prefix_of_stops {taken front rest : Text} (start : taken <+: front ++ rest)
    (each : ∀ char ∈ taken, Property char)
    (stops : ∀ char, rest.head? = some char → ¬Property char) : taken <+: front := by
  rcases List.prefix_or_prefix_of_prefix start (List.prefix_append front rest) with
    inside | ⟨behind, rfl⟩
  · exact inside
  · rw [List.prefix_append_right_inj] at start
    cases behind with
    | nil => exact (List.append_nil front).symm ▸ List.prefix_refl front
    | cons char behind =>
        obtain ⟨others, rfl⟩ := start
        exact absurd (each char (by simp)) (stops char rfl)

theorem Starts.not_describes (starts : pattern.Starts Property)
    (outside : ∀ char, front.head? = some char → ¬Property char) {taken : Text}
    (isStart : taken <+: front) : ¬pattern.Describes taken := by
  intro isDescribed
  obtain ⟨char, others, rfl, has⟩ := starts.exists_eq_cons isDescribed
  obtain ⟨behind, rfl⟩ := isStart
  exact outside char rfl has

/-- No start of a text is described if the text, up to a character that no description holds, has
none of the characters that a description needs. -/
theorem Needs.not_describes (needs : pattern.Needs Needed) (holds : pattern.Holds Property)
    (lacking : ∀ char ∈ front, ¬Needed char)
    (stops : ∀ char, rest.head? = some char → ¬Property char) {taken : Text}
    (isStart : taken <+: front ++ rest) : ¬pattern.Describes taken := by
  intro isDescribed
  obtain ⟨char, member, isNeeded⟩ := needs.exists_mem isDescribed
  have inside := prefix_of_stops isStart (holds.forall_mem isDescribed) stops
  exact lacking char (inside.subset member) isNeeded

theorem Starts.rewrites_append (starts : pattern.Starts Property)
    (outside : ∀ char ∈ front, ¬Property char) (others : Rewrites pattern fill rest result) :
    Rewrites pattern fill (front ++ rest) (front ++ result) := by
  induction front with
  | nil => exact others
  | cons char front ih =>
      rw [List.forall_mem_cons] at outside
      refine .skip (matchHere?_eq_none fun taken => starts.not_describes ?_) (ih outside.2)
      rintro first ⟨rfl⟩
      exact outside.1

/-- If a text up to a character that no match holds has none of the characters that a match needs,
then no match starts in it. -/
theorem Needs.rewrites_append (needs : pattern.Needs Needed) (holds : pattern.Holds Property)
    (lacking : ∀ char ∈ front ++ more, ¬Needed char)
    (stops : ∀ char, rest.head? = some char → ¬Property char)
    (others : Rewrites pattern fill (more ++ rest) result) :
    Rewrites pattern fill (front ++ (more ++ rest)) (front ++ result) := by
  induction front with
  | nil => exact others
  | cons char front ih =>
      refine .skip (matchHere?_eq_none fun taken isStart => ?_)
        (ih (List.forall_mem_cons.mp lacking).2)
      refine needs.not_describes holds lacking stops ?_
      rwa [List.append_assoc]

theorem Needs.rewrites_self (needs : pattern.Needs Needed)
    (lacking : ∀ char ∈ front, ¬Needed char) : Rewrites pattern fill front front := by
  induction front with
  | nil => exact needs.rewrites_nil
  | cons char front ih =>
      refine .skip (matchHere?_eq_none fun taken start isDescribed => ?_)
        (ih (List.forall_mem_cons.mp lacking).2)
      obtain ⟨needed, member, isNeeded⟩ := needs.exists_mem isDescribed
      exact lacking needed (start.subset member) isNeeded

end Reflow.Pattern
