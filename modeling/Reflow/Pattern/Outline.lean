import Reflow.Pattern.Notation
import Reflow.Unicode.Utf8

/-!
# The normal form of a pattern

Before an automaton is built for a pattern, the pattern is simplified: neighbouring characters
become one literal text, nested sequences and choices are flattened, and a choice between
characters or sets becomes one set. The size of the automaton is the size for this form.
-/

namespace Reflow

open Unicode (CodeRanges encode)

/-- A pattern in normal form. -/
inductive Outline where
  | empty
  /-- A text, encoded as UTF-8. -/
  | literal (bytes : List UInt8)
  | oneOf (ranges : CodeRanges)
  | look (assertion : Assertion)
  | group (index : Nat) (body : Outline)
  | repeated (least : Nat) (most : Option Nat) (greedy : Bool) (body : Outline)
  | sequence (parts : List Outline)
  | choice (options : List Outline)
deriving Repr, BEq

namespace Outline

/-- One character out of a set. A set with one member is a literal. -/
def ofRanges : CodeRanges → Outline
  | [(first, last)] => if first = last then .literal (encode first) else .oneOf [(first, last)]
  | ranges => .oneOf ranges

mutual

/-- Whether no text with characters is described. -/
def hollow : Outline → Bool
  | .empty => true
  | .literal _ => false
  | .oneOf _ => false
  | .look _ => true
  | .group _ body => body.hollow
  | .repeated _ _ _ body => body.hollow
  | .sequence parts => allHollow parts
  | .choice options => allHollow options

/-- Whether none of several parts describes a text with characters. -/
def allHollow : List Outline → Bool
  | [] => true
  | first :: others => first.hollow && allHollow others

end

mutual

/-- The least number of bytes in a text that is described. There is none if some part that has to be
looked at describes nothing. -/
def leastLength? : Outline → Option Nat
  | .empty => some 0
  | .literal bytes => some bytes.length
  | .oneOf [] => none
  | .oneOf (range :: _) => some (encode range.1).length
  | .look _ => some 0
  | .group _ body => body.leastLength?
  | .repeated least _ _ body => body.leastLength?.map (least * ·)
  | .sequence parts => sumLength? parts
  | .choice [] => none
  | .choice (first :: others) => do return min (← first.leastLength?) (← leastOf? others)

/-- The sum of the least lengths. -/
def sumLength? : List Outline → Option Nat
  | [] => some 0
  | first :: others => do return (← first.leastLength?) + (← sumLength? others)

/-- The least of the least lengths, or a large number if there is none to compare. -/
def leastOf? : List Outline → Option Nat
  | [] => some 0x100000000
  | first :: others => do return min (← first.leastLength?) (← leastOf? others)

end

/-- Whether every text that is described holds a character. -/
def consuming (outline : Outline) : Bool :=
  outline.leastLength?.any (0 < ·)

mutual

/-- Whether a condition holds before the first character of every text. -/
def startsWith (assertion : Assertion) : Outline → Bool
  | .look other => other == assertion
  | .group _ body => body.startsWith assertion
  | .repeated least _ _ body => least != 0 && body.startsWith assertion
  | .sequence parts => someStartsWith assertion parts
  | .choice [] => false
  | .choice (first :: others) => first.startsWith assertion && allStartWith assertion others
  | _ => false

/-- Whether a condition holds before the first character of a sequence. -/
def someStartsWith (assertion : Assertion) : List Outline → Bool
  | [] => false
  | first :: others =>
      first.startsWith assertion || (first.hollow && someStartsWith assertion others)

/-- Whether a condition holds before the first character of each option. -/
def allStartWith (assertion : Assertion) : List Outline → Bool
  | [] => true
  | first :: others => first.startsWith assertion && allStartWith assertion others

end

mutual

/-- Whether a condition holds behind the last character of every text. -/
def endsWith (assertion : Assertion) : Outline → Bool
  | .look other => other == assertion
  | .group _ body => body.endsWith assertion
  | .repeated least _ _ body => least != 0 && body.endsWith assertion
  | .sequence parts => someEndsWith assertion parts
  | .choice [] => false
  | .choice (first :: others) => first.endsWith assertion && allEndWith assertion others
  | _ => false

/-- Whether a condition holds behind the last character of a sequence. -/
def someEndsWith (assertion : Assertion) : List Outline → Bool
  | [] => false
  | first :: others =>
      someEndsWith assertion others || (allHollow others && first.endsWith assertion)

/-- Whether a condition holds behind the last character of each option. -/
def allEndWith (assertion : Assertion) : List Outline → Bool
  | [] => true
  | first :: others => first.endsWith assertion && allEndWith assertion others

end

/-! ## Sequences -/

/-- The parts of a part of a sequence. -/
def parts : Outline → List Outline
  | .empty => []
  | .sequence parts => parts
  | part => [part]

/-- Put a part before parts; literals that meet become one. -/
def attach (part : Outline) (parts : List Outline) : List Outline :=
  match part, parts with
  | .literal left, .literal right :: others => .literal (left ++ right) :: others
  | part, parts => part :: parts

/-- Parts one after the other. -/
def inSequence (outlines : List Outline) : Outline :=
  match (outlines.flatMap parts).foldr attach [] with
  | [] => .empty
  | [only] => only
  | parts => .sequence parts

/-! ## Choices -/

/-- The options of an option of a choice. -/
def options : Outline → List Outline
  | .choice options => options
  | option => [option]

/-- The length of the encoding of a character, told by its first byte. -/
def encodingLength (first : UInt8) : Nat :=
  if first < 0x80 then 1 else if first < 0xE0 then 2 else if first < 0xF0 then 3 else 4

/-- The character of a literal that is just one character. -/
def char? : Outline → Option Nat
  | .literal (first :: others) =>
      if encodingLength first = others.length + 1 then
        (String.fromUTF8? ⟨(first :: others).toArray⟩).bind fun text =>
          text.toList.head?.map Char.toNat
      else none
  | _ => none

/-- The ranges of a set. -/
def ranges? : Outline → Option CodeRanges
  | .oneOf ranges => some ranges
  | _ => none

/-- The parts that two sequences begin with alike. -/
def sharedStart (left right : List Outline) : List Outline :=
  match left, right with
  | first :: left, second :: right =>
      if first == second then first :: sharedStart left right else []
  | _, _ => []

/-- The parts of a sequence. -/
def sequence? : Outline → Option (List Outline)
  | .sequence parts => some parts
  | _ => none

/-- The parts that all sequences begin with. -/
def commonStart : List (List Outline) → List Outline
  | [] => []
  | [only] => only
  | first :: others => others.foldl sharedStart first

/-- A choice. What all options begin with is put before the choice; `fuel` bounds how often that is
done. -/
def ofChoice (fuel : Nat) (outlines : List Outline) : Outline :=
  let options := outlines.flatMap options
  match options with
  | [only] => only
  | options =>
      match options.mapM char? with
      | some chars => ofRanges (CodeRanges.normal (chars.map fun char => (char, char)))
      | none =>
          match options.mapM ranges? with
          | some sets => ofRanges (CodeRanges.normal sets.flatten)
          | none =>
              match fuel, options.mapM sequence? with
              | fuel + 1, some sequences =>
                  let shared := commonStart sequences
                  if shared.isEmpty then .choice options
                  else
                    inSequence (shared ++ [ofChoice fuel
                      (sequences.map fun parts => inSequence (parts.drop shared.length))])
              | _, _ => .choice options

/-! ## Repetitions -/

/-- A repetition. Where the body consumes nothing, one round is as good as many. -/
def times (least : Nat) (most : Option Nat) (greedy : Bool) (body : Outline) : Outline :=
  let (least, most) : Nat × Option Nat :=
    if body.hollow then (min least 1, some (min (most.getD 1) 1)) else (least, most)
  if most = some 0 then .empty
  else if least = 1 ∧ most = some 1 then body
  else .repeated least most greedy body

end Outline

namespace Notation

/-- More than the depth of any notation that is read. -/
def depthBound : Nat := 1000

mutual

/-- The normal form of the pattern that is written. -/
def outline : Notation → Outline
  | .modes => .empty
  | .oneOf _ set => .ofRanges set.ranges
  | .look assertion => .look assertion
  | .plain body => body.outline
  | .group index body => .group index body.outline
  | .repeated least most greedy body => body.outline.times least most greedy
  | .sequence parts => .inSequence (outlines parts)
  | .choice options => .ofChoice depthBound (outlines options)

/-- The normal forms of several parts. -/
def outlines : List Notation → List Outline
  | [] => []
  | first :: others => first.outline :: outlines others

end

end Notation

end Reflow
