import Reflow.Pattern.Reader
import Reflow.Pattern.Search

/-!
# Tokens

A token is found at a place by looking through an ordered list of candidates, in two phases. The
literal phase wants exactly one candidate to be left when no further character narrows the choice,
and that candidate to be used up. If there is no such candidate, the longer candidates are taken for
patterns, and the first one that matches decides.
-/

namespace Reflow

/-- How a token was recognised. -/
inductive TokenKind where
  /-- A candidate stands in the text as it is written. -/
  | literal
  /-- A candidate, read as a pattern, matches. -/
  | pattern
deriving DecidableEq, Repr

/-- A token recognised at some place of a text. -/
structure Token where
  text : Text
  kind : TokenKind
deriving DecidableEq, Repr

namespace Token

/-- The length of the token in bytes. -/
def byteLength (token : Token) : Nat :=
  token.text.byteLength

theorem byteLength_pos {token : Token} (notEmpty : token.text ≠ []) : 0 < token.byteLength :=
  Text.byteLength_pos notEmpty

end Token

/-- A text that may stand for a token, literally or as a pattern. -/
structure Candidate where
  literal : Text
  /-- The candidate read as a pattern at the start of a text. Single characters, and what is no
  pattern, are literal only. -/
  pattern : Option Pattern
deriving DecidableEq, Repr

namespace Candidate

/-- The notation of the pattern that matches a candidate at the start of a text. -/
def anchoredNotation (candidate : Text) : Text :=
  ['^', '(', '?', ':'] ++ candidate ++ [')']

/-- Prepare a candidate. -/
def ofText (candidate : Text) : Candidate :=
  { literal := candidate
    pattern :=
      if candidate.length ≤ 1 then none
      else (Expression.read? (anchoredNotation candidate)).map (·.pattern) }

/-- The token that the candidate, as a pattern, finds in a text. An empty match is none. -/
def matchPattern? (candidate : Candidate) (text : Text) : Option Token := do
  let found ← (← candidate.pattern).find? none text
  if found.text.isEmpty then none else some { text := found.text, kind := .pattern }

end Candidate

/-- An ordered list of candidates. -/
abbrev Candidates := List Candidate

namespace Candidates

/-- Prepare a list of candidates. -/
def ofTexts (candidates : List Text) : Candidates :=
  candidates.map Candidate.ofText

/-- The literal token at the start of a text, `live` being what is left of each candidate that
agrees with the text so far. One more character is taken as long as some candidate agrees with it.
-/
def narrow (live : List Text) : Text → Option Text
  | [] => if live = [[]] then some [] else none
  | char :: rest =>
      let narrowed := live.filterMap (Text.dropStart? [char])
      if narrowed.isEmpty then if live = [[]] then some [] else none
      else (narrow narrowed rest).map (char :: ·)

/-- The token at the start of a text that the literal phase finds. -/
def matchLiteral? (candidates : Candidates) (text : Text) : Option Token :=
  let live := (candidates.map (·.literal)).filter fun candidate => !candidate.isEmpty
  (narrow live text).map fun found => { text := found, kind := .literal }

/-- The token at the start of a text that the first fitting pattern finds. -/
def matchPattern? (candidates : Candidates) (text : Text) : Option Token :=
  candidates.findSome? (·.matchPattern? text)

/-- The token at the start of a text. -/
def match? (candidates : Candidates) (text : Text) : Option Token :=
  if text.isEmpty then none
  else (candidates.matchLiteral? text).or (candidates.matchPattern? text)

/-- A literal found among candidates that are not used up holds at least one character. -/
theorem ne_nil_of_narrow {live : List Text} {text found : Text} (pending : [] ∉ live)
    (narrowed : narrow live text = some found) : found ≠ [] := by
  cases text with
  | nil =>
      simp only [narrow] at narrowed
      split at narrowed <;> simp_all
  | cons char rest =>
      simp only [narrow] at narrowed
      split at narrowed
      · split at narrowed <;> simp_all
      · simp only [Option.map_eq_some_iff] at narrowed
        obtain ⟨others, _, rfl⟩ := narrowed
        exact List.cons_ne_nil _ _

/-- A token that is found holds at least one character. -/
theorem text_ne_nil_of_match? {candidates : Candidates} {text : Text} {token : Token}
    (found : candidates.match? text = some token) : token.text ≠ [] := by
  simp only [match?] at found
  split at found
  · simp at found
  · rcases Option.or_eq_some_iff.mp found with found | ⟨_, found⟩
    · simp only [matchLiteral?, Option.map_eq_some_iff] at found
      obtain ⟨literal, narrowed, rfl⟩ := found
      exact ne_nil_of_narrow (by simp) narrowed
    · obtain ⟨candidate, _, matched⟩ := List.exists_of_findSome?_eq_some found
      simp only [Candidate.matchPattern?, bind, Option.bind_eq_some_iff] at matched
      obtain ⟨_, _, place, _, chosen⟩ := matched
      split at chosen
      · simp at chosen
      · cases chosen
        simp_all

/-- The token at a byte offset of a text. -/
def matchAt? (candidates : Candidates) (text : Text) (offset : Nat) : Option Token :=
  (text.dropBytes? offset).bind candidates.match?

end Candidates

end Reflow
