import Reflow.Pattern.Search
import Reflow.Text.Digits

/-!
# Replacing matches

Every match in a text gives way to a template. A template is plain text with references to groups:
`$name` takes the longest name of ASCII letters, digits and low lines, `${name}` anything up to the
closing brace, and two dollar signs stand for one. A reference to a group that has no match is
empty.
-/

namespace Reflow

/-- A part of a template. -/
inductive TemplatePart where
  /-- A character that stands for itself. -/
  | char (char : Char)
  /-- The match of the group with a number. -/
  | number (index : Nat)
  /-- The match of the group with a name. -/
  | name (name : Text)
deriving DecidableEq, Repr

/-- A replacement text with its references to groups. -/
abbrev Template := List TemplatePart

namespace Template

/-- Whether a character may stand in a reference without braces. -/
def isNameChar (char : Char) : Bool :=
  char.isAlphanum || char == '_'

/-- The number that a text of ASCII digits denotes, a plus sign before it allowed. -/
def number? (text : Text) : Option Nat :=
  let digits := match text with
    | '+' :: digits => digits
    | digits => digits
  if digits.isEmpty || !digits.all Char.isDigit then none
  else some (Text.decimalValue digits)

/-- A reference by number or by name. -/
def reference (text : Text) : TemplatePart :=
  match number? text with
  | some index => .number index
  | none => .name text

/-- The template that the first `fuel` characters of a text start. -/
def readUpTo : (fuel : Nat) → Text → Template
  | 0, _ => []
  | _ + 1, [] => []
  | fuel + 1, '$' :: '$' :: rest => .char '$' :: readUpTo fuel rest
  | fuel + 1, '$' :: '{' :: rest =>
      match rest.dropWhile (· != '}') with
      | [] => .char '$' :: readUpTo fuel ('{' :: rest)
      | _ :: after => reference (rest.takeWhile (· != '}')) :: readUpTo fuel after
  | fuel + 1, '$' :: rest =>
      let name := rest.takeWhile isNameChar
      if name.isEmpty then .char '$' :: readUpTo fuel rest
      else reference name :: readUpTo fuel (rest.dropWhile isNameChar)
  | fuel + 1, char :: rest => .char char :: readUpTo fuel rest

/-- The template that a text denotes. Every text denotes one. -/
def read (text : Text) : Template :=
  readUpTo text.length text

end Template

namespace Pattern

/-- What a part of a template becomes for a match: the whole match has the number zero. -/
def Found.fill (found : Found) (names : List (Text × Nat)) : TemplatePart → Text
  | .char char => [char]
  | .number 0 => found.text
  | .number index => (found.last.group? index).getD []
  | .name name => ((names.lookup name).bind found.last.group?).getD []

/-- Replace the matches in `text`, which follows the character `before`; `behindMatch` tells whether
a match ends there. An empty match right behind another match does not count. -/
def replaceFrom (pattern : Pattern) (fill : Found → Text) :
    (fuel : Nat) → (before : Option Char) → (behindMatch : Bool) → Text → Text
  | 0, _, _, text => text
  | fuel + 1, before, behindMatch, text =>
      match pattern.find? before text with
      | none => text
      | some found =>
          if behindMatch && found.skipped.isEmpty && found.text.isEmpty then
            match text with
            | [] => []
            | char :: rest => char :: replaceFrom pattern fill fuel (some char) false rest
          else
            found.skipped ++ fill found ++
              replaceFrom pattern fill fuel found.last.before true found.last.rest

/-- Replace all matches in a text, from left to right and without overlap. -/
def replaceAll (pattern : Pattern) (fill : Found → Text) (text : Text) : Text :=
  replaceFrom pattern fill (2 * text.length + 2) none false text

end Pattern

end Reflow
