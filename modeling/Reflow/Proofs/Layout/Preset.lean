import Reflow.Proofs.Layout.Regular
import Reflow.Proofs.Layout.Tag

/-!
# Options with regular tokens

Two kinds of options have regular tokens: those whose candidates are single characters other than
blanks, and the preset for tags. A single character has neither a start nor an end for another token
to lie across. The tokens of the preset start and end with signs that are in no word.
-/

namespace Reflow

namespace LayoutOptions

/-- Options whose candidates are single characters, none of them a blank. -/
def SingleSigns (options : LayoutOptions) : Prop :=
  ∀ candidate ∈ options.openTokens ++ options.closeTokens ++ options.breakTokens,
    ∃ char, candidate = [char] ∧ Text.isBlank char = false

namespace SingleSigns

variable {options : LayoutOptions} (signs : options.SingleSigns)
include signs

theorem singleCharacters : options.SingleCharacters := by
  intro candidate listed
  obtain ⟨char, equal, -⟩ := signs candidate listed
  exact ⟨char, equal⟩

theorem single (role : TokenClass) : ∀ candidate ∈ options.candidates role,
    ∃ char, candidate = [char] :=
  fun candidate listed => signs.singleCharacters candidate (mem_of_mem_candidates listed)

/-- Whether a sign is a token does not depend on what follows it. -/
theorem classify?_cons (char : Char) (rest other : Text) :
    (Layout.ofOptions options).classify? (char :: rest) =
      (Layout.ofOptions options).classify? (char :: other) := by
  have matched (role : TokenClass) :
      (Candidates.ofTexts (options.candidates role)).match? (char :: rest) =
        (Candidates.ofTexts (options.candidates role)).match? (char :: other) := by
    rw [Candidates.match?_of_single (signs.single role),
      Candidates.match?_of_single (signs.single role)]
  have opening := matched .opening
  have closing := matched .closing
  have breaking := matched .breaking
  simp only [candidates] at opening closing breaking
  simp only [Layout.classify?, Layout.ofOptions, opening, closing, breaking]

/-- A token is a sign that is listed once for its role. -/
theorem eq_of_classify? {char : Char} {rest : Text} {role : TokenClass} {token : Token}
    (found : (Layout.ofOptions options).classify? (char :: rest) = some (role, token)) :
    token = { text := [char], kind := .literal } ∧ (options.candidates role).count [char] = 1 := by
  have matched := Layout.match?_of_classify? found
  rw [Candidates.match?_of_single (signs.single role)] at matched
  split at matched
  · next once =>
    cases matched
    exact ⟨rfl, once⟩
  · cases matched

theorem exists_of_hasToken {role : TokenClass} {token : Token}
    (known : (Layout.ofOptions options).HasToken role token) :
    ∃ char, token.text = [char] ∧ Text.isBlank char = false ∧
      ∀ rest, (Layout.ofOptions options).classify? (char :: rest) = some (role, token) := by
  obtain ⟨text, found⟩ := known
  cases text with
  | nil => simp at found
  | cons char rest =>
      obtain ⟨rfl, once⟩ := signs.eq_of_classify? found
      have listed : [char] ∈ options.candidates role :=
        List.count_pos_iff.mp (once ▸ Nat.one_pos)
      obtain ⟨_, equal, inked⟩ := signs [char] (mem_of_mem_candidates listed)
      cases equal
      exact ⟨char, rfl, inked, fun other => (signs.classify?_cons char other rest).trans found⟩

theorem regular : (Layout.ofOptions options).Regular where
  starts := Layout.tokensStart_ofOptions (keepToStart_of_singleCharacters signs.singleCharacters)
  carries {role token} known after := by
    obtain ⟨char, equal, -, found⟩ := signs.exists_of_hasToken known
    rw [equal]
    exact found after
  inked {role token} known := by
    obtain ⟨char, equal, inked, -⟩ := signs.exists_of_hasToken known
    intro other member
    rw [equal, List.mem_singleton] at member
    rw [member]
    exact inked
  lastOutside _ _ otherKnown := by
    obtain ⟨char, equal, -⟩ := signs.exists_of_hasToken otherKnown
    simp [equal]
  firstOutside _ _ otherKnown := by
    obtain ⟨char, equal, -⟩ := signs.exists_of_hasToken otherKnown
    simp [equal]

end SingleSigns

end LayoutOptions

namespace TagToken

open LayoutOptions

variable {role : TokenClass} {token : Token}

/-- The characters of a token before its end: those of words, and signs of another kind than the
last ones. -/
def inFront (char : Char) : Bool :=
  Unicode.isWord char || "<\\/+".toList.contains char

/-- The characters of a token behind its start. -/
def inTail (char : Char) : Bool :=
  Unicode.isWord char || "\\/+>".toList.contains char

/-- The last characters of tokens. -/
def lastSigns : Text :=
  "\x7b[(\x7d]);,>".toList

/-- The first characters of closing tokens. -/
def closingSigns : Text :=
  "\x7d])<".toList

/-- A token of the preset ends with a sign that is nowhere before its end. -/
theorem exists_eq_append (isToken : TagToken role token) :
    ∃ front last, token.text = front ++ [last] ∧ last ∈ lastSigns ∧
      ∀ char ∈ front, inFront char = true := by
  cases isToken with
  | literal listed =>
      have all : ∀ text ∈ tags.candidates role,
          text = text.dropLast ++ [text.getLastD ' '] ∧ text.getLastD ' ' ∈ lastSigns ∧
            text.dropLast.all inFront = true := by
        cases role <;> decide
      obtain ⟨equal, sign, front⟩ := all _ listed
      exact ⟨_, _, equal, sign, List.all_eq_true.mp front⟩
  | @named start name known notEmpty words =>
      have signs : start.all inFront = true := by
        cases role <;> cases known <;> decide
      refine ⟨start ++ name, '>', rfl, by decide, ?_⟩
      intro char member
      rcases List.mem_append.mp member with member | member
      · exact List.all_eq_true.mp signs char member
      · rw [inFront, words char member, Bool.true_or]

/-- A closing token starts with a sign that is in no token behind its start. -/
theorem exists_eq_cons (isToken : TagToken role token) :
    ∃ first rest, token.text = first :: rest ∧ (role = .closing → first ∈ closingSigns) ∧
      ∀ char ∈ rest, inTail char = true := by
  cases isToken with
  | literal listed =>
      have all : ∀ text ∈ tags.candidates role,
          text = text.headD ' ' :: text.tail ∧
            (role = .closing → text.headD ' ' ∈ closingSigns) ∧ text.tail.all inTail = true := by
        cases role <;> decide
      obtain ⟨equal, sign, tail⟩ := all _ listed
      exact ⟨_, _, equal, sign, List.all_eq_true.mp tail⟩
  | @named start name known notEmpty words =>
      obtain ⟨slash, rfl, signs⟩ :
          ∃ slash, start = '<' :: slash ∧ slash.all inTail = true := by
        cases role <;> cases known
        · exact ⟨[], rfl, by decide⟩
        · exact ⟨['/'], rfl, by decide⟩
      refine ⟨'<', slash ++ name ++ ['>'], by simp, fun _ => by decide, ?_⟩
      intro char member
      rcases List.mem_append.mp member with member | member
      · rcases List.mem_append.mp member with member | member
        · exact List.all_eq_true.mp signs char member
        · rw [inTail, words char member, Bool.true_or]
      · rw [List.mem_singleton.mp member]
        decide

theorem inFront_eq_false {char : Char} (sign : char ∈ lastSigns) : inFront char = false := by
  have apart : (lastSigns.all fun char => !inFront char) = true := by decide
  simpa using List.all_eq_true.mp apart char sign

theorem inTail_eq_false {char : Char} (sign : char ∈ closingSigns) : inTail char = false := by
  have apart : (closingSigns.all fun char => !inTail char) = true := by decide
  simpa using List.all_eq_true.mp apart char sign

theorem inked (isToken : TagToken role token) : token.text.Inked := by
  have front : ("<\\/+".toList.all fun char => !Text.isBlank char) = true := by decide
  have last : (lastSigns.all fun char => !Text.isBlank char) = true := by decide
  obtain ⟨_, _, equal, sign, within⟩ := isToken.exists_eq_append
  intro char member
  rw [equal] at member
  rcases List.mem_append.mp member with member | member
  · rcases Bool.or_eq_true_iff.mp (within char member) with word | other
    · exact Text.isBlank_eq_false_of_isWord word
    · simpa using List.all_eq_true.mp front char (List.contains_iff_mem.mp other)
  · rw [List.mem_singleton.mp member]
    simpa using List.all_eq_true.mp last _ sign

end TagToken

namespace LayoutOptions

theorem regular_tags (indentWidth : Nat) (lineEnding : LineEnding) :
    (Layout.ofOptions { tags with indentWidth, lineEnding }).Regular := by
  have isToken {role : TokenClass} {token : Token} (known :
      (Layout.ofOptions { tags with indentWidth, lineEnding }).HasToken role token) :
      TagToken role token := by
    obtain ⟨text, found⟩ := known
    exact (Layout.classify?_tags_eq_some_iff.mp found).1
  constructor
  case starts => exact Layout.tokensStart_ofOptions (keepToStart_tags indentWidth lineEnding)
  case carries =>
    intro role token known after
    exact Layout.classify?_tags_eq_some_iff.mpr ⟨isToken known, List.prefix_append ..⟩
  case inked =>
    intro role token known
    exact (isToken known).inked
  case lastOutside =>
    intro role otherRole token other front char known ends otherKnown member
    obtain ⟨otherFront, otherLast, otherEqual, -, within⟩ := (isToken otherKnown).exists_eq_append
    obtain ⟨_, last, equal, sign, -⟩ := (isToken known).exists_eq_append
    obtain ⟨-, same⟩ := List.append_inj' (ends.symm.trans equal) rfl
    obtain rfl : char = last := List.singleton_inj.mp same
    rw [otherEqual, List.dropLast_concat] at member
    cases (TagToken.inFront_eq_false sign).symm.trans (within char member)
  case firstOutside =>
    intro otherRole token other char rest known begins otherKnown member
    obtain ⟨_, otherRest, otherEqual, -, within⟩ := (isToken otherKnown).exists_eq_cons
    obtain ⟨first, _, equal, sign, -⟩ := (isToken known).exists_eq_cons
    obtain rfl : char = first := (List.cons.inj (begins.symm.trans equal)).1
    rw [otherEqual, List.tail_cons] at member
    cases (TagToken.inTail_eq_false (sign rfl)).symm.trans (within char member)

end LayoutOptions

end Reflow
