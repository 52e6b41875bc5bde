import Reflow.Pattern.CharSet

/-!
# Patterns

A pattern describes texts: characters out of sets, in sequence, with alternatives, repetitions,
numbered groups and conditions on the place. Patterns are built with all modes already resolved: a
set that ignores case is a larger set, and a lazy repetition says so itself.
-/

namespace Reflow

/-- Which characters make up words. -/
inductive WordKind where
  | unicode
  | ascii
deriving DecidableEq, Repr

namespace WordKind

/-- Whether a character belongs to words. -/
def contains : WordKind → Char → Bool
  | .unicode, char => Unicode.isWord char
  | .ascii, char => char.isAlphanum || char == '_'

/-- Whether a character is there and belongs to words. -/
def isAt (kind : WordKind) (char : Option Char) : Bool :=
  char.any kind.contains

end WordKind

/-- A condition on a place in a text. It looks at the characters next to the place and consumes
none. -/
inductive Assertion where
  | textStart
  | textEnd
  /-- At the start of the text or behind a line feed. -/
  | lineStart
  /-- At the end of the text or before a line feed. -/
  | lineEnd
  /-- Like `lineStart`, with a carriage return, a line feed and the pair of them as line breaks. -/
  | anyLineStart
  /-- Like `lineEnd`, with a carriage return, a line feed and the pair of them as line breaks. -/
  | anyLineEnd
  /-- Between a word character and another one or an end of the text. -/
  | wordBoundary (kind : WordKind)
  | noWordBoundary (kind : WordKind)
  /-- Before a word. -/
  | wordStart (kind : WordKind)
  /-- Behind a word. -/
  | wordEnd (kind : WordKind)
  /-- Not behind a word character. -/
  | wordStartHalf (kind : WordKind)
  /-- Not before a word character. -/
  | wordEndHalf (kind : WordKind)
deriving DecidableEq, Repr

namespace Assertion

/-- Whether the condition holds between the character before a place and the text behind it. -/
def holds (assertion : Assertion) (before : Option Char) (rest : Text) : Bool :=
  let after := rest.head?
  match assertion with
  | .textStart => before.isNone
  | .textEnd => rest.isEmpty
  | .lineStart => before.isNone || before == some '\n'
  | .lineEnd => rest.isEmpty || after == some '\n'
  | .anyLineStart =>
      before.isNone || before == some '\n' || (before == some '\r' && after != some '\n')
  | .anyLineEnd =>
      rest.isEmpty || after == some '\r' || (after == some '\n' && before != some '\r')
  | .wordBoundary kind => kind.isAt before != kind.isAt after
  | .noWordBoundary kind => kind.isAt before == kind.isAt after
  | .wordStart kind => !kind.isAt before && kind.isAt after
  | .wordEnd kind => kind.isAt before && !kind.isAt after
  | .wordStartHalf kind => !kind.isAt before
  | .wordEndHalf kind => !kind.isAt after

end Assertion

/-- A description of texts. The order of alternatives and the preference of repetitions decide which
text is taken where several would do. -/
inductive Pattern where
  /-- The empty text. -/
  | empty
  /-- One character out of a set. -/
  | oneOf (set : CharSet)
  /-- The empty text at a place that satisfies a condition. -/
  | look (assertion : Assertion)
  /-- What the body describes, remembered under a number. -/
  | group (index : Nat) (body : Pattern)
  | seq (first second : Pattern)
  /-- What one of two patterns describes, the first one preferred. -/
  | alt (first second : Pattern)
  /-- At least `least` and at most `most` texts in a row that the body describes. A greedy
  repetition prefers to go on, any other one to stop. -/
  | repeated (least : Nat) (most : Option Nat) (greedy : Bool) (body : Pattern)
deriving DecidableEq, Repr

namespace Pattern

/-- A pattern and then others, one after the other. -/
def followedBy (first : Pattern) : List Pattern → Pattern
  | [] => first
  | second :: others => followedBy (.seq first second) others

/-- Patterns one after the other. -/
def sequence : List Pattern → Pattern
  | [] => .empty
  | first :: others => first.followedBy others

/-- One of several patterns, in order of preference. -/
def choice : List Pattern → Pattern
  | [] => .oneOf .none
  | [only] => only
  | first :: second :: others => .alt first (choice (second :: others))

/-- Whether some text without characters may be described. The answer does not look at conditions.
-/
def nullable : Pattern → Bool
  | .empty => true
  | .oneOf _ => false
  | .look _ => true
  | .group _ body => body.nullable
  | .seq first second => first.nullable && second.nullable
  | .alt first second => first.nullable || second.nullable
  | .repeated least _ _ body => least == 0 || body.nullable

/-- Whether no text with characters is described. -/
def hollow : Pattern → Bool
  | .empty => true
  | .oneOf _ => false
  | .look _ => true
  | .group _ body => body.hollow
  | .seq first second => first.hollow && second.hollow
  | .alt first second => first.hollow && second.hollow
  | .repeated _ most _ body => most == some 0 || body.hollow

/-- A repetition. Where the body consumes nothing, one round is as good as many. -/
def times (least : Nat) (most : Option Nat) (greedy : Bool) (body : Pattern) : Pattern :=
  if body.hollow then .repeated (min least 1) (some (min (most.getD 1) 1)) greedy body
  else .repeated least most greedy body

/-- The set of a pattern that is just one character. -/
def charSet? : Pattern → Option CharSet
  | .oneOf set => some set
  | _ => none

/-- Whether every match has to begin at the start of the text, as far as the leftmost parts tell. -/
def anchored : Pattern → Bool
  | .look .textStart => true
  | .group _ body => body.anchored
  | .seq first _ => first.anchored
  | .alt first second => first.anchored && second.anchored
  | _ => false

end Pattern

end Reflow
