import Reflow.Text.Blank
import Reflow.Unicode.Word

/-!
# Words and blanks

No character of a word is blank. There are many characters of words and few blanks, so each blank is
looked up.
-/

namespace Reflow

namespace Unicode.CodeRanges

/-- The code points in ranges. -/
def codePoints (ranges : CodeRanges) : List Nat :=
  ranges.flatMap fun range => List.range' range.1 (range.2 + 1 - range.1)

theorem mem_codePoints_of_contains {ranges : CodeRanges} {char : Char}
    (contained : ranges.contains char = true) : char.toNat ∈ ranges.codePoints := by
  obtain ⟨⟨first, last⟩, member, bounds⟩ := List.any_eq_true.mp contained
  simp only [Bool.and_eq_true, decide_eq_true_eq] at bounds
  refine List.mem_flatMap.mpr ⟨(first, last), member, List.mem_range'_1.mpr ⟨bounds.1, ?_⟩⟩
  simp only
  omega

end Unicode.CodeRanges

theorem Unicode.ne_of_isWord {char sign : Char} (word : isWord char = true)
    (other : isWord sign = false) : char ≠ sign := by
  rintro rfl
  cases word.symm.trans other

namespace Text

theorem isWord_eq_false_of_isBlank {char : Char} (isBlank : isBlank char = true) :
    Unicode.isWord char = false := by
  have noWord : ∀ code ∈ blankRanges.codePoints, Unicode.isWord (Char.ofNat code) = false := by
    decide +kernel
  have code := noWord char.toNat (Unicode.CodeRanges.mem_codePoints_of_contains isBlank)
  rwa [Char.ofNat_toNat] at code

theorem isBlank_eq_false_of_isWord {char : Char} (word : Unicode.isWord char = true) :
    isBlank char = false := by
  cases blank : isBlank char with
  | false => rfl
  | true => cases (isWord_eq_false_of_isBlank blank).symm.trans word

end Text

end Reflow
