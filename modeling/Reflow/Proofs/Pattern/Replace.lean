import Reflow.Pattern.Replace
import Reflow.Proofs.Pattern.Description
import Reflow.Proofs.Pattern.Search

/-!
# What replacing matches comes to

Replacing all matches of a pattern goes through a text from left to right. At each place the pattern
either does not match, and a character is kept, or it matches, and the match is replaced. Where this
is known of all places, the outcome is known: it does not matter that a search looks for the next
match first.
-/

namespace Reflow.Pattern

/-- A text in which each match, from left to right, is replaced by what `fill` says, whatever the
text stands behind. No match is empty. -/
inductive Rewrites (pattern : Pattern) (fill : Found → Text) : (text result : Text) → Prop where
  | nil (nowhere : ∀ before, pattern.matchHere? before [] = none) : Rewrites pattern fill [] []
  | skip {char : Char} {rest result : Text}
      (nowhere : ∀ before, pattern.matchHere? before (char :: rest) = none)
      (others : Rewrites pattern fill rest result) :
      Rewrites pattern fill (char :: rest) (char :: result)
  | hit {taken rest replacement result : Text} (notEmpty : taken ≠ [])
      (matched : ∀ before, ∃ last, pattern.matchHere? before (taken ++ rest) = some last ∧
        last.rest = rest ∧ last.place = taken.length ∧
        fill { skipped := [], text := taken, last } = replacement)
      (others : Rewrites pattern fill rest result) :
      Rewrites pattern fill (taken ++ rest) (replacement ++ result)

namespace Rewrites

variable {pattern : Pattern} {fill : Found → Text} {text result : Text}

section Search

-- What a match is replaced by does not depend on the text before it.
variable (steady : ∀ found skipped, fill { found with skipped } = fill found)
include steady

/-- The next match that a search finds is the next one that is replaced. -/
theorem find? (rewrites : Rewrites pattern fill text result) (before : Option Char) :
    pattern.find? before text = none ∧ result = text ∨
      ∃ found rest, pattern.find? before text = some found ∧ found.text ≠ [] ∧
        found.last.rest.length < text.length ∧
        result = found.skipped ++ fill found ++ rest ∧
        Rewrites pattern fill found.last.rest rest := by
  induction rewrites generalizing before with
  | nil nowhere =>
      left
      simp [Pattern.find?, nowhere before]
  | @skip char rest result nowhere _ ih =>
      rw [find?_of_matchHere?_eq_none (nowhere before)]
      rcases ih (some char) with ⟨none, rfl⟩ | ⟨found, left, search, solid, shorter, rfl, others⟩
      · exact .inl ⟨by rw [none, Option.map_none], rfl⟩
      · refine .inr
          ⟨{ found with skipped := char :: found.skipped }, left, ?_, solid, ?_, ?_, others⟩
        · rw [search, Option.map_some]
        · exact Nat.lt_succ_of_lt shorter
        · rw [steady found (char :: found.skipped), List.cons_append, List.cons_append]
  | @hit taken rest replacement result notEmpty matched others ih =>
      obtain ⟨last, here, lastRest, place, rfl⟩ := matched before
      have whole : (taken ++ rest).take last.place = taken := by rw [place, List.take_left]
      refine .inr ⟨_, result, find?_of_matchHere? here, ?_, ?_, ?_, lastRest ▸ others⟩
      · rwa [whole]
      · rw [lastRest, List.length_append]
        exact Nat.lt_add_of_pos_left (List.length_pos_iff.mpr notEmpty)
      · rw [whole]
        rfl

theorem replaceFrom_eq (rewrites : Rewrites pattern fill text result) {fuel : Nat}
    (enough : text.length < fuel) (before : Option Char) (behindMatch : Bool) :
    pattern.replaceFrom fill fuel before behindMatch text = result := by
  induction fuel generalizing text result before behindMatch with
  | zero => cases enough
  | succ fuel ih =>
      rw [Pattern.replaceFrom.eq_def]
      dsimp only
      rcases rewrites.find? steady before with
        ⟨none, rfl⟩ | ⟨found, rest, search, solid, shorter, rfl, others⟩
      · rw [none]
      · have counts : (behindMatch && found.skipped.isEmpty && found.text.isEmpty) = false := by
          simp [solid]
        rw [search]
        dsimp only
        rw [counts, if_neg Bool.false_ne_true,
          ih others (Nat.lt_of_lt_of_le shorter (Nat.le_of_lt_succ enough))]

/-- Replacing all matches comes to what replacing them one by one comes to. -/
theorem replaceAll_eq (rewrites : Rewrites pattern fill text result) :
    pattern.replaceAll fill text = result := by
  refine rewrites.replaceFrom_eq steady ?_ none false
  omega

end Search

end Rewrites

end Reflow.Pattern
