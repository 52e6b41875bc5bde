import Reflow.Pattern.Basic

/-!
# What a pattern says

The tree that is read from the notation of a pattern, with all modes resolved. It keeps what the
pattern itself does not show any more: how deeply the notation is nested.
-/

namespace Reflow

/-- A part of a pattern as it is written. -/
inductive Notation where
  /-- A change of modes, which describes the empty text. -/
  | modes
  /-- One character out of a set; `depth` counts the brackets around its innermost members. -/
  | oneOf (depth : Nat) (set : CharSet)
  | look (assertion : Assertion)
  /-- A part in parentheses that remembers nothing. -/
  | plain (body : Notation)
  | group (index : Nat) (body : Notation)
  | repeated (least : Nat) (most : Option Nat) (greedy : Bool) (body : Notation)
  | sequence (parts : List Notation)
  | choice (options : List Notation)
deriving Repr

namespace Notation

/-- Parts one after the other; a single part stands for itself. -/
def ofParts : List Notation → Notation
  | [only] => only
  | parts => .sequence parts

/-- A choice of parts; a single part stands for itself. -/
def ofOptions : List Notation → Notation
  | [only] => only
  | options => .choice options

mutual

/-- How deeply the notation is nested. -/
def depth : Notation → Nat
  | .modes => 0
  | .oneOf depth _ => depth
  | .look _ => 0
  | .plain body => body.depth + 1
  | .group _ body => body.depth + 1
  | .repeated _ _ _ body => body.depth + 1
  | .sequence [] => 0
  | .sequence (first :: others) => max first.depth (greatestDepth others) + 1
  | .choice options => greatestDepth options + 1

/-- How deeply the most deeply nested part is nested. -/
def greatestDepth : List Notation → Nat
  | [] => 0
  | first :: others => max first.depth (greatestDepth others)

end

mutual

/-- The pattern that is written. -/
def pattern : Notation → Pattern
  | .modes => .empty
  | .oneOf _ set => .oneOf set
  | .look assertion => .look assertion
  | .plain body => body.pattern
  | .group index body => .group index body.pattern
  | .repeated least most greedy body => body.pattern.times least most greedy
  | .sequence parts => .sequence (patterns parts)
  | .choice options => .choice (patterns options)

/-- The patterns that parts stand for; a change of modes stands for none. -/
def patterns : List Notation → List Pattern
  | [] => []
  | .modes :: others => patterns others
  | first :: others => first.pattern :: patterns others

end

end Notation

end Reflow
