import Reflow.Pattern.Outline
import Std.Data.HashMap

/-!
# The size of the automaton for a pattern

A pattern is run by two automata on the bytes of a text, one that goes forward and one that goes
backward. A repetition with bounds takes as many copies of its body, so a short pattern can ask for
a large automaton. Patterns with an automaton above a limit are refused.

States take the same space each. On top of that, a state that branches on the next byte takes space
for every range of bytes, and a state that branches without a byte takes space for every branch. The
automaton for a set of characters shares states: a state is not built again while a table of limited
size still holds one like it.
-/

namespace Reflow

open Unicode (CodeRanges ByteRange)

/-- The size of an automaton. -/
structure AutomatonSize where
  states : Nat := 0
  /-- The number of branches on ranges of bytes. -/
  arcs : Nat := 0
  /-- The number of branches without a byte. -/
  branches : Nat := 0
deriving DecidableEq, Repr

namespace AutomatonSize

/-- The size in bytes. -/
def bytes (size : AutomatonSize) : Nat :=
  32 * size.states + 8 * size.arcs + 4 * size.branches

/-- The largest size in bytes that is allowed. -/
def limit : Nat := 10 * 1024 * 1024

/-- The size with more parts, unless it is too large. -/
def add (states arcs branches : Nat) (size : AutomatonSize) : Option AutomatonSize :=
  let size : AutomatonSize :=
    { states := size.states + states
      arcs := size.arcs + arcs
      branches := size.branches + branches }
  if size.bytes ≤ limit then some size else none

/-- Grow the same way a number of times. -/
def times (grow : AutomatonSize → Option AutomatonSize) :
    (count : Nat) → AutomatonSize → Option AutomatonSize
  | 0, size => some size
  | count + 1, size =>
      match grow size with
      | some size => times grow count size
      | none => none

end AutomatonSize

/-! ## Sets of characters -/

/-- Add a number to a hash. -/
def hashStep (hash : UInt64) (value : Nat) : UInt64 :=
  (hash ^^^ .ofNat value) * 1099511628211

/-- The place in a table of a given size for a sequence of numbers. -/
def hashPlace (size : Nat) (values : List Nat) : Nat :=
  (values.foldl hashStep 14695981039346656037).toNat % size

/-- A branch on a range of bytes, leading to the state with a number. -/
structure Arc where
  range : ByteRange
  target : Nat
deriving DecidableEq, Repr

/-- The numbers by which an arc is told from others. -/
def Arc.numbers (arc : Arc) : List Nat :=
  [arc.range.first.toNat, arc.range.last.toNat, arc.target]

/-- A state on the way of the latest encoding: the arcs that are complete, and the range of the arc
whose target is still being built. -/
structure OpenState where
  arcs : List Arc := []
  range : Option ByteRange

/-- The state with its open arc led to a target. -/
def OpenState.settle (state : OpenState) (target : Nat) : OpenState :=
  match state.range with
  | some range => { arcs := state.arcs ++ [{ range, target }], range := none }
  | none => state

/-- The states of a set of characters in the forward automaton. -/
structure SetStates where
  size : AutomatonSize
  /-- The states built last, by their place in the table. -/
  table : Std.HashMap Nat (List Arc × Nat) := {}
  /-- The states on the way of the latest encoding. -/
  way : List OpenState

namespace SetStates

/-- The number of places in the table. -/
def tableSize : Nat := 10000

/-- The number of a state with the given arcs, which is built if the table does not hold it. -/
def build (states : SetStates) (arcs : List Arc) : Nat × SetStates :=
  let place := hashPlace tableSize (arcs.flatMap Arc.numbers)
  let number := states.size.states
  let fresh : Nat × SetStates :=
    (number,
      { states with
        size := { states.size with states := number + 1, arcs := states.size.arcs + arcs.length }
        table := states.table.insert place (arcs, number) })
  match states.table[place]? with
  | some (others, known) => if others = arcs then (known, states) else fresh
  | none => fresh

/-- Build the states at the end of a way, the last one first, the last arc leading to `target`. -/
def buildWay (target : Nat) (way : List OpenState) (states : SetStates) : Nat × SetStates :=
  way.foldr (fun state (target, states) => states.build (state.settle target).arcs) (target, states)

/-- Build the states behind the first `count + 1` of the way. -/
def closeAfter (target count : Nat) (states : SetStates) : SetStates :=
  let (target, built) := buildWay target (states.way.drop (count + 1)) states
  let kept := states.way.take (count + 1)
  match kept.getLast? with
  | some last => { built with way := kept.dropLast ++ [last.settle target] }
  | none => { built with way := kept }

/-- How many ranges at the start of an encoding the way has already. -/
def sharedLength : List OpenState → List ByteRange → Nat
  | state :: way, range :: ranges =>
      if state.range = some range then sharedLength way ranges + 1 else 0
  | _, _ => 0

/-- Add the encodings of a group, which follow all encodings before. -/
def addEncodings (target : Nat) (states : SetStates) (ranges : List ByteRange) : SetStates :=
  let shared := sharedLength states.way ranges
  let states := states.closeAfter target shared
  match states.way.getLast?, ranges.drop shared with
  | some last, range :: others =>
      { states with
        way := states.way.dropLast ++ { last with range := some range } ::
          others.map fun range => { range := some range } }
  | _, _ => states

/-- The size after the states of a set. -/
def sizeWith (ranges : CodeRanges) (size : AutomatonSize) : AutomatonSize :=
  let target := size.states
  let start : SetStates :=
    { size := { size with states := target + 1 }, way := [{ range := none }] }
  let states := (Unicode.encodings ranges).foldl (addEncodings target) start
  let states := states.closeAfter target 0
  (buildWay target states.way states).2.size

end SetStates

/-- The states of a set of characters in the backward automaton. -/
structure BackwardStates where
  size : AutomatonSize
  /-- The states built last, by their place in the table, each with its arc and its number. -/
  table : Std.HashMap Nat (Arc × Nat) := {}

namespace BackwardStates

/-- The number of places in the table. -/
def tableSize : Nat := 1000

/-- The number of the state with an arc, which is built if the table does not hold it. -/
def build (states : BackwardStates) (arc : Arc) : Nat × BackwardStates :=
  let place := hashPlace tableSize [arc.target, arc.range.first.toNat, arc.range.last.toNat]
  let number := states.size.states
  let fresh : Nat × BackwardStates :=
    (number,
      { size := { states.size with states := number + 1 }
        table := states.table.insert place (arc, number) })
  match states.table[place]? with
  | some (other, known) => if other = arc then (known, states) else fresh
  | none => fresh

/-- Add the encodings of a group: their states, and a branch to the last one. -/
def addEncodings (target : Nat) (states : BackwardStates) (ranges : List ByteRange) :
    BackwardStates :=
  let states := (ranges.foldl (fun (target, states) range => build states { range, target })
    (target, states)).2
  { states with size := { states.size with branches := states.size.branches + 1 } }

/-- The size after the states of a set. -/
def sizeWith (ranges : CodeRanges) (size : AutomatonSize) : AutomatonSize :=
  let target := size.states + 1
  let start : BackwardStates := { size := { size with states := target + 1 } }
  ((Unicode.encodings ranges).foldl (addEncodings target) start).size

end BackwardStates

/-! ## Choices of literals -/

/-- A text as bytes. -/
abbrev Bytes := List UInt8

/-- Cut literals wherever one ends: what comes before an end is preferred to it. An end that comes
first of all counts once. `closed` tells whether there has been an end, and `current` holds the
literals since the latest one, in reverse order. -/
def literalRuns (closed hasLiteral : Bool) (current : List Bytes) : List Bytes → List (List Bytes)
  | [] => [current.reverse]
  | [] :: others =>
      if closed && !hasLiteral then literalRuns closed hasLiteral current others
      else current.reverse :: literalRuns true hasLiteral [] others
  | literal :: others => literalRuns closed true (literal :: current) others

/-- The first bytes of literals, each listed once. -/
def firstBytes (literals : List Bytes) : List UInt8 :=
  (literals.filterMap List.head?).eraseDups

/-- What follows a byte in the literals that begin with it. -/
def restsAfter (byte : UInt8) (literals : List Bytes) : List Bytes :=
  literals.filterMap fun literal =>
    match literal with
    | first :: rest => if first = byte then some rest else none
    | [] => none

/-- The size after the states that branch by the bytes of literals. No literal is longer than
`fuel`. -/
def AutomatonSize.addLiterals : (fuel : Nat) → List Bytes → AutomatonSize → Option AutomatonSize
  | 0, _, size => some size
  | fuel + 1, literals, size =>
      if literals.all List.isEmpty then some size
      else do
        let runs := literalRuns false false [] literals
        let filled := (runs.map firstBytes).filter fun bytes => !bytes.isEmpty
        let arcs := (filled.map fun bytes => if bytes.length = 1 then 0 else bytes.length).sum
        let size ← size.add (filled.length + 1) arcs (filled.length + (runs.length - 1))
        let rests := runs.flatMap fun run => (firstBytes run).map fun byte => restsAfter byte run
        rests.foldlM (fun size rest => addLiterals fuel rest size) size

namespace Outline

/-- The direction in which an automaton reads a text. -/
inductive Direction where
  | forward
  | backward
deriving DecidableEq, Repr

/-- The bytes of a literal. -/
def literal? : Outline → Option Bytes
  | .literal bytes => some bytes
  | _ => none

/-- The size after the states of a set. -/
def growSet (direction : Direction) (ranges : CodeRanges) (size : AutomatonSize) :
    Option AutomatonSize :=
  if ranges.all (·.2 < 128) then size.add 2 ranges.length 0
  else
    match direction with
    | .forward => (SetStates.sizeWith ranges size).add 0 0 0
    | .backward => (BackwardStates.sizeWith ranges size).add 0 0 0

mutual

/-- The size after the states of a pattern. -/
def grow (direction : Direction) : Outline → AutomatonSize → Option AutomatonSize
  | .empty, size => size.add 1 0 0
  | .literal bytes, size => size.add bytes.length 0 0
  | .oneOf ranges, size => growSet direction ranges size
  | .look _, size => size.add 1 0 0
  | .group _ body, size =>
      match direction with
      | .forward => do (← body.grow direction (← size.add 1 0 0)).add 1 0 0
      | .backward => body.grow direction size
  | .repeated least most _ body, size =>
      match most with
      | none =>
          match least with
          | 0 =>
              if body.consuming then do body.grow direction (← size.add 1 0 2)
              else do (← body.grow direction size).add 3 0 4
          | least => do (← size.times (fun size => body.grow direction size) least).add 1 0 2
      | some most =>
          if least = 0 ∧ most = 1 then do
            (← body.grow direction (← size.add 1 0 2)).add 1 0 0
          else if least = most then size.times (fun size => body.grow direction size) least
          else do
            let size ← if least = 0 then size.add 1 0 0
              else size.times (fun size => body.grow direction size) least
            (← size.add 1 0 0).times (fun size => do body.grow direction (← size.add 1 0 2))
              (most - least)
  | .sequence parts, size =>
      match direction with
      | .forward => growForward direction parts size
      | .backward => growBackward direction parts size
  | .choice options, size =>
      match options.mapM literal? with
      | some literals => do
          let literals := match direction with
            | .forward => literals
            | .backward => literals.map List.reverse
          let longest := (literals.map List.length).foldl max 0
          (← size.add 1 0 0).addLiterals longest literals
      | none => growOptions direction 0 options size

/-- The size after the states of parts, from the first one to the last one. -/
def growForward (direction : Direction) : List Outline → AutomatonSize → Option AutomatonSize
  | [], size => some size
  | first :: others, size => do growForward direction others (← first.grow direction size)

/-- The size after the states of parts, from the last one to the first one. -/
def growBackward (direction : Direction) : List Outline → AutomatonSize → Option AutomatonSize
  | [], size => some size
  | first :: others, size => do first.grow direction (← growBackward direction others size)

/-- The size after the states of options, `seen` options having come before. The second option
brings the states at which the options part and meet. -/
def growOptions (direction : Direction) (seen : Nat) :
    List Outline → AutomatonSize → Option AutomatonSize
  | [], size => some size
  | first :: others, size => do
      let size ← first.grow direction size
      let size ← match seen with
        | 0 => some size
        | 1 => size.add 2 0 2
        | _ => size.add 0 0 1
      growOptions direction (seen + 1) others size

end

/-- The size of the automaton that reads forward. It starts with a loop over what comes before a
match, unless matches begin at the start of the text, and notes where a match begins and ends. -/
def forwardSize? (outline : Outline) : Option AutomatonSize := do
  let start : AutomatonSize :=
    if outline.startsWith .textStart then { states := 1 }
    else { states := 3, arcs := 1, branches := 2 }
  (← outline.grow .forward (← start.add 1 0 0)).add 2 0 0

/-- The size of the automaton that reads backward. It starts with a loop over what comes behind a
match, unless matches end at the end of the text. -/
def backwardSize? (outline : Outline) : Option AutomatonSize := do
  let start : AutomatonSize :=
    if outline.endsWith .textEnd then { states := 1 }
    else { states := 3, arcs := 1, branches := 2 }
  (← outline.grow .backward start).add 1 0 0

/-- Whether both automata stay within the limit. -/
def fits (outline : Outline) : Bool :=
  outline.forwardSize?.isSome && outline.backwardSize?.isSome

end Outline

/-! ## A quick estimate -/

/-- No less than what one character out of a set takes in an automaton. Few ranges are counted one
by one. -/
def CharSet.sizeBound : CharSet → Nat
  | .none => 100
  | .only _ => 200
  | .range _ _ => 3000
  | .word => 131072
  | .digit | .space => 16384
  | .listed ranges => 3000 * ranges.length + 100
  | .union left right => left.sizeBound + right.sizeBound
  | .intersection left right => left.sizeBound + right.sizeBound + 3000
  | .difference left right => left.sizeBound + right.sizeBound + 3000
  | .complement set => set.sizeBound + 3000
  | .anyCase (.only _) => 1000
  | .anyCase set => set.sizeBound + 8388608
  | .anyAsciiCase set => set.sizeBound + 3000

namespace Notation

mutual

/-- No less than what a part takes in an automaton. -/
def sizeBound : Notation → Nat
  | .modes => 0
  | .oneOf _ set => set.sizeBound
  | .look _ => 32
  | .plain body => body.sizeBound
  | .group _ body => body.sizeBound + 64
  | .repeated least most _ body => (body.sizeBound + 64) * max (least + 1) (most.getD 0) + 200
  | .sequence parts => sumOfBounds parts + 32
  | .choice options => sumOfBounds options + 64 * options.length

/-- No less than what several parts take in an automaton. -/
def sumOfBounds : List Notation → Nat
  | [] => 0
  | first :: others => first.sizeBound + sumOfBounds others

end

/-- Whether the automata for the pattern stay within the limit. The quick estimate tells so for all
but very large patterns. -/
def fits (written : Notation) : Bool :=
  written.sizeBound + 1000 ≤ AutomatonSize.limit || written.outline.fits

end Notation

end Reflow
