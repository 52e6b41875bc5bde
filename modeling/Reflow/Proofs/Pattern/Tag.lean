import Reflow.Proofs.Pattern.Parts

/-!
# Patterns of tags

The pattern of a tag is anchored: some given characters at the start of a text, then as many
characters of words as there are, then a sign that belongs to no word. So what a tag matches can be
divided in one way only.
-/

namespace Reflow.Pattern

/-- A pattern at the start of a text, then a word, then a sign. -/
def tag (front : Pattern) (sign : Char) : Pattern :=
  .seq (.look .textStart)
    (.seq (.seq front (.repeated 1 none true (.oneOf .word))) (.oneOf (.only sign)))

/-- At the start of a text, an anchor makes no difference. -/
theorem matchHere?_textStart (pattern : Pattern) (text : Text) :
    (Pattern.seq (.look .textStart) pattern).matchHere? none text =
      pattern.matchHere? none text := by
  have begun : (look .textStart).ends none (.start none text) = [.start none text] := rfl
  rw [matchHere?, ends, reach, head?_distinct]
  simp only [part, Option.map_none, begun, List.flatMap_cons, List.flatMap_nil, List.append_nil]
  rfl

variable {start text : Text} {char : Char}

/-- What the pattern of a tag describes behind its anchor. -/
theorem exists_eq_of_describes_tag {taken : Text}
    (isDescribed : (seq (seq (spelled start) (run 1 .word)) (sign char)).Describes taken) :
    ∃ name, taken = start ++ name ++ [char] ∧ name ≠ [] ∧
      ∀ letter ∈ name, Unicode.isWord letter = true := by
  obtain ⟨front, last, rfl, ⟨left, name, rfl, isStart, isName⟩, isSign⟩ := isDescribed
  rw [describes_spelled_iff] at isStart
  rw [describes_sign_iff] at isSign
  obtain ⟨enough, inside⟩ := enough_and_inside_of_describes_run isName
  exact ⟨name, by rw [isStart, isSign], List.length_pos_iff.mp enough, inside⟩

theorem exists_matchHere?_tag_iff (start : Text) (outside : Unicode.isWord char = false)
    {place : Nat} :
    (∃ last, (tag (spelled start) char).matchHere? none text = some last ∧ last.place = place) ↔
      ∃ name after, text = start ++ (name ++ char :: after) ∧ name ≠ [] ∧
        (∀ letter ∈ name, Unicode.isWord letter = true) ∧
        place = start.length + name.length + 1 := by
  have anchor : (tag (spelled start) char).matchHere? none text =
      (seq (seq (spelled start) (run 1 .word)) (sign char)).matchHere? none text :=
    matchHere?_textStart _ text
  rw [anchor]
  constructor
  · rintro ⟨last, matched, rfl⟩
    obtain ⟨taken, takes, isDescribed⟩ :=
      exists_describes_of_mem_ends (List.mem_of_mem_head? matched)
    obtain ⟨name, rfl, notEmpty, words⟩ := exists_eq_of_describes_tag isDescribed
    refine ⟨name, last.rest, ?_, notEmpty, words, ?_⟩
    · simpa [Cursor.start] using takes.rest
    · simpa [Cursor.start, Nat.add_assoc] using takes.place
  · rintro ⟨name, after, rfl, notEmpty, words, rfl⟩
    have isName : (run 1 .word).Matches name ([char] ++ after) [] := by
      refine matches_run (List.length_pos_iff.mpr notEmpty) words fun letter first => ?_
      cases first
      exact outside
    have isMatch := ((matches_spelled start _).seq isName).seq (matches_sign char after)
    obtain ⟨last, here, -, place, -⟩ := isMatch.matchHere? none
    exact ⟨last, by simpa using here, by simpa [Nat.add_assoc] using place⟩

end Reflow.Pattern
