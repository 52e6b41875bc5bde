import Reflow.Proofs.Layout.Content
import Reflow.Proofs.Pattern.Tag
import Reflow.Proofs.Text.Word
import Reflow.Proofs.Token.Literal

/-!
# Tokens of tags

The preset for tags has two kinds of tokens: its candidates as they are written, and tags, which are
a word between a start and the sign `>`. At most one of them starts a text, so the order in which
the candidates are looked through does not matter.
-/

namespace Reflow

/-- What a tag in a role starts with. -/
def tagStart? : TokenClass → Option Text
  | .opening => some ['<']
  | .closing => some ['<', '/']
  | .breaking => none

/-- The tokens of the preset for tags in their roles. -/
inductive TagToken : TokenClass → Token → Prop where
  | literal {role : TokenClass} {text : Text} (listed : text ∈ LayoutOptions.tags.candidates role) :
      TagToken role { text, kind := .literal }
  | named {role : TokenClass} {start name : Text} (known : tagStart? role = some start)
      (notEmpty : name ≠ []) (words : ∀ char ∈ name, Unicode.isWord char = true) :
      TagToken role { text := start ++ name ++ ['>'], kind := .pattern }

namespace Candidate

variable {candidate : Candidate} {start text : Text} {token : Token}

theorem matchPattern?_eq_some_iff_of_tag
    (compiled : candidate.pattern = some (.tag (.spelled start) '>')) :
    candidate.matchPattern? text = some token ↔
      ∃ name after, text = start ++ (name ++ '>' :: after) ∧ name ≠ [] ∧
        (∀ char ∈ name, Unicode.isWord char = true) ∧
        token = { text := start ++ name ++ ['>'], kind := .pattern } := by
  have outside : Unicode.isWord '>' = false := by decide
  have anchored : (Pattern.tag (.spelled start) '>').anchored = true := rfl
  have taken (name after : Text) :
      (start ++ (name ++ '>' :: after)).take (start.length + name.length + 1) =
        start ++ name ++ ['>'] := by
    rw [show start ++ (name ++ '>' :: after) = start ++ name ++ ['>'] ++ after by simp]
    exact List.take_left' (by simp [Nat.add_assoc])
  rw [matchPattern?_eq, Option.map_eq_some_iff]
  constructor
  · rintro ⟨found, decided, rfl⟩
    obtain ⟨pattern, compiled', search, -⟩ := find?_of_found? decided
    cases compiled.symm.trans compiled'
    rw [Pattern.find?_of_anchored anchored, Option.map_eq_some_iff] at search
    obtain ⟨last, here, rfl⟩ := search
    obtain ⟨name, after, equal, notEmpty, words, place⟩ :=
      (Pattern.exists_matchHere?_tag_iff start outside).mp ⟨last, here, rfl⟩
    refine ⟨name, after, equal, notEmpty, words, ?_⟩
    rw [place, equal, taken]
  · rintro ⟨name, after, rfl, notEmpty, words, rfl⟩
    obtain ⟨last, here, place⟩ := (Pattern.exists_matchHere?_tag_iff start outside).mpr
      ⟨name, after, rfl, notEmpty, words, rfl⟩
    refine ⟨{ skipped := [], text := start ++ name ++ ['>'], last }, ?_, rfl⟩
    simp [found?, compiled, Pattern.find?_of_anchored anchored, here, place, taken]

end Candidate

namespace TagToken

open LayoutOptions

variable {role otherRole : TokenClass} {token other : Token} {text : Text}

/-! ## The two phases -/

/-- No candidate for tags starts with another one. -/
theorem matchLiteral?_tags_eq_some_iff :
    (Candidates.ofTexts (tags.candidates role)).matchLiteral? text = some token ↔
      token.kind = .literal ∧ token.text ∈ tags.candidates role ∧ token.text <+: text := by
  apply Candidates.matchLiteral?_ofTexts_of_alone
  cases role <;> decide

/-- The last candidate is the only one with a pattern, if there is any. -/
theorem matchPattern?_tags_eq_some_iff :
    (Candidates.ofTexts (tags.candidates role)).matchPattern? text = some token ↔
      ∃ start name after, tagStart? role = some start ∧ text = start ++ (name ++ '>' :: after) ∧
        name ≠ [] ∧ (∀ char ∈ name, Unicode.isWord char = true) ∧
        token = { text := start ++ name ++ ['>'], kind := .pattern } := by
  have last (singles : List Text) (candidate : Text)
      (short : ∀ single ∈ singles, single.length ≤ 1) :
      (Candidates.ofTexts (singles ++ [candidate])).matchPattern? text =
        (Candidate.ofText candidate).matchPattern? text := by
    have skipped : (singles.map Candidate.ofText).findSome? (·.matchPattern? text) = none := by
      rw [List.findSome?_eq_none_iff]
      intro single member
      obtain ⟨literal, listed, rfl⟩ := List.mem_map.mp member
      simp [Candidate.ofText, Candidate.matchPattern?, short literal listed]
    rw [Candidates.matchPattern?, Candidates.ofTexts, List.map_append, List.findSome?_append,
      skipped, Option.none_or, List.map_singleton, List.findSome?_singleton]
  have openingTag : (Candidate.ofText "<\\w+>".toList).pattern =
      some (.tag (.spelled ['<']) '>') := rfl
  have closingTag : (Candidate.ofText "</\\w+>".toList).pattern =
      some (.tag (.spelled ['<', '/']) '>') := rfl
  cases role with
  | opening =>
      rw [show tags.candidates .opening = [['{'], ['['], ['(']] ++ ["<\\w+>".toList] from rfl,
        last _ _ (by decide), Candidate.matchPattern?_eq_some_iff_of_tag openingTag]
      simp [tagStart?]
  | closing =>
      rw [show tags.candidates .closing = [['}'], [']'], [')']] ++ ["</\\w+>".toList] from rfl,
        last _ _ (by decide), Candidate.matchPattern?_eq_some_iff_of_tag closingTag]
      simp [tagStart?]
  | breaking =>
      have single : ∀ candidate ∈ tags.candidates .breaking, ∃ char, candidate = [char] := by
        intro candidate listed
        simp only [candidates, tags, List.mem_cons, List.not_mem_nil, or_false] at listed
        rcases listed with rfl | rfl <;> exact ⟨_, rfl⟩
      simp [Candidates.matchPattern?_of_single single, tagStart?]

theorem of_match? (found : (Candidates.ofTexts (tags.candidates role)).match? text = some token) :
    TagToken role token ∧ token.text <+: text := by
  simp only [Candidates.match?] at found
  split at found
  · cases found
  · rcases Option.or_eq_some_iff.mp found with literal | ⟨-, pattern⟩
    · obtain ⟨kind, listed, starts⟩ := matchLiteral?_tags_eq_some_iff.mp literal
      cases token
      cases kind
      exact ⟨.literal listed, starts⟩
    · obtain ⟨start, name, after, known, rfl, notEmpty, words, rfl⟩ :=
        matchPattern?_tags_eq_some_iff.mp pattern
      exact ⟨.named known notEmpty words, after, by simp⟩

theorem isSome_match? (isToken : TagToken role token) (starts : token.text <+: text) :
    ((Candidates.ofTexts (tags.candidates role)).match? text).isSome := by
  have found {text : Text} (notEmpty : text ≠ [])
      (phase : ((Candidates.ofTexts (tags.candidates role)).matchLiteral? text).isSome ∨
        ((Candidates.ofTexts (tags.candidates role)).matchPattern? text).isSome) :
      ((Candidates.ofTexts (tags.candidates role)).match? text).isSome := by
    rw [Candidates.match?, if_neg (by simpa using notEmpty), Option.isSome_or, Bool.or_eq_true]
    exact phase
  cases isToken with
  | literal listed =>
      apply found
      · rintro rfl
        rw [List.prefix_nil] at starts
        subst starts
        cases role <;> revert listed <;> decide
      · rw [matchLiteral?_tags_eq_some_iff.mpr ⟨rfl, listed, starts⟩]
        exact .inl rfl
  | @named start name known notEmpty words =>
      obtain ⟨after, rfl⟩ := starts
      apply found (by simp)
      rw [matchPattern?_tags_eq_some_iff.mpr
        ⟨start, name, after, known, by simp, notEmpty, words, rfl⟩]
      exact .inr rfl

/-! ## One token at a place -/

/-- A candidate as it is written and a tag do not start the same text. -/
theorem not_prefix_of_literal {start name literal : Text} (listed : literal ∈ tags.candidates role)
    (known : tagStart? otherRole = some start) (notEmpty : name ≠ [])
    (words : ∀ char ∈ name, Unicode.isWord char = true) (starts : literal <+: text) :
    ¬start ++ name ++ ['>'] <+: text := by
  rintro ⟨after, rfl⟩
  obtain ⟨rest, equal⟩ := starts
  cases name with
  | nil => exact absurd rfl notEmpty
  | cons first name =>
      have word := words first List.mem_cons_self
      have backslash : first ≠ '\\' := by
        rintro rfl
        exact absurd word (by decide)
      have slash : first ≠ '/' := by
        rintro rfl
        exact absurd word (by decide)
      cases otherRole <;> cases known <;> cases role <;>
        simp only [candidates, tags, List.mem_cons, List.not_mem_nil, or_false] at listed <;>
        rcases listed with rfl | rfl | rfl | rfl <;>
        simp [backslash.symm, slash.symm] at equal

theorem takeWhile_name {name : Text} (words : ∀ char ∈ name, Unicode.isWord char = true)
    (after : Text) : (name ++ '>' :: after).takeWhile Unicode.isWord = name := by
  have outside : Unicode.isWord '>' = false := by decide
  rw [List.takeWhile_append_of_pos words, List.takeWhile_cons_of_neg (by simp [outside]),
    List.append_nil]

theorem name_ne_slash {name : Text} (words : ∀ char ∈ name, Unicode.isWord char = true)
    (after rest : Text) : name ++ '>' :: after ≠ '/' :: rest := by
  intro equal
  cases name with
  | nil => simp at equal
  | cons first name =>
      have word := words first List.mem_cons_self
      rw [List.cons_append, List.cons.injEq] at equal
      rw [equal.1] at word
      exact absurd word (by decide)

theorem eq_of_named {start name otherStart otherName : Text} (known : tagStart? role = some start)
    (words : ∀ char ∈ name, Unicode.isWord char = true)
    (otherKnown : tagStart? otherRole = some otherStart)
    (otherWords : ∀ char ∈ otherName, Unicode.isWord char = true)
    (starts : start ++ name ++ ['>'] <+: text)
    (otherStarts : otherStart ++ otherName ++ ['>'] <+: text) :
    role = otherRole ∧ start ++ name = otherStart ++ otherName := by
  obtain ⟨after, rfl⟩ := starts
  obtain ⟨otherAfter, equal⟩ := otherStarts
  have sameName (ahead : name ++ '>' :: after = otherName ++ '>' :: otherAfter) :
      name = otherName := by
    rw [← takeWhile_name words after, ahead, takeWhile_name otherWords]
  cases role <;> cases known <;> cases otherRole <;> cases otherKnown
  · exact ⟨rfl, congrArg _ (sameName (by simpa using equal.symm))⟩
  · exact absurd (by simpa using equal.symm) (name_ne_slash words after _)
  · exact absurd (by simpa using equal) (name_ne_slash otherWords otherAfter _)
  · exact ⟨rfl, congrArg _ (sameName (by simpa using equal.symm))⟩

/-- At most one token of the preset starts a text. -/
theorem eq_of_prefix (isToken : TagToken role token) (otherIsToken : TagToken otherRole other)
    (starts : token.text <+: text) (otherStarts : other.text <+: text) :
    role = otherRole ∧ token = other := by
  cases isToken with
  | literal listed =>
      cases otherIsToken with
      | literal otherListed =>
          have alone : ∀ first ∈ tags.candidates role, ∀ second ∈ tags.candidates otherRole,
              first <+: second ∨ second <+: first → role = otherRole ∧ first = second := by
            cases role <;> cases otherRole <;> decide
          obtain ⟨rfl, rfl⟩ := alone _ listed _ otherListed
            (List.prefix_or_prefix_of_prefix starts otherStarts)
          exact ⟨rfl, rfl⟩
      | named known notEmpty words =>
          exact absurd otherStarts (not_prefix_of_literal listed known notEmpty words starts)
  | named known notEmpty words =>
      cases otherIsToken with
      | literal otherListed =>
          exact absurd starts (not_prefix_of_literal otherListed known notEmpty words otherStarts)
      | named otherKnown otherNotEmpty otherWords =>
          obtain ⟨rfl, same⟩ := eq_of_named known words otherKnown otherWords starts otherStarts
          exact ⟨rfl, by rw [same]⟩

end TagToken

/-- The tokens that the preset for tags finds at the start of a text. -/
theorem Layout.classify?_tags_eq_some_iff {indentWidth : Nat} {lineEnding : LineEnding}
    {role : TokenClass} {token : Token} {text : Text} :
    (ofOptions { LayoutOptions.tags with indentWidth, lineEnding }).classify? text =
        some (role, token) ↔
      TagToken role token ∧ token.text <+: text := by
  constructor
  · intro found
    exact TagToken.of_match? (match?_of_classify? found)
  · rintro ⟨isToken, starts⟩
    have matched : ((Candidates.ofTexts (LayoutOptions.candidates
        { LayoutOptions.tags with indentWidth, lineEnding } role)).match? text).isSome :=
      isToken.isSome_match? starts
    obtain ⟨⟨otherRole, other⟩, found⟩ := Option.isSome_iff_exists.mp (isSome_classify? matched)
    obtain ⟨otherIsToken, otherStarts⟩ := TagToken.of_match? (match?_of_classify? found)
    obtain ⟨rfl, rfl⟩ := isToken.eq_of_prefix otherIsToken starts otherStarts
    exact found

end Reflow
