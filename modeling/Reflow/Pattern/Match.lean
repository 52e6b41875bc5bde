import Reflow.Pattern.Basic
import Std.Data.TreeSet

/-!
# Matching a pattern at a place

`Pattern.ends` lists every place at which a match that starts at a given place may end, each place
once and the preferred one first. Whoever needs the match takes the head of the list; whoever
reasons about matches asks what is in it.

Of two ways to one place only the preferred one counts: whatever follows can be matched after either
of them. So a place is never looked at twice, and a pattern with many ways to match takes no longer
for it.

Repetitions whose body may match without consuming a character need care, since going round them
consumes nothing either. Inside such a repetition every choice point has a spot in the pattern, and
a run may pass the same choice point only once between two consumed characters.
-/

namespace Reflow.Pattern

/-- A spot inside a pattern: the way from the spot up to the enclosing repetition. -/
abbrev Spot := List Nat

/-- The spot of the part with the given number, where spots are kept at all. -/
def part (spot : Option Spot) (index : Nat) : Option Spot :=
  spot.map (index :: ·)

/-- A place in a text while it is being matched. -/
structure Cursor where
  /-- The character before the place, if there is one. -/
  before : Option Char
  /-- The text behind the place. -/
  rest : Text
  /-- The number of characters consumed. -/
  place : Nat
  /-- What the groups have matched, the latest first. -/
  groups : List (Nat × Text)
  /-- The choice points passed since the last character was consumed. -/
  passed : List (Nat × Spot)
deriving DecidableEq, Repr

namespace Cursor

/-- The place before a text, nothing being matched yet. -/
def start (before : Option Char) (text : Text) : Cursor :=
  { before, rest := text, place := 0, groups := [], passed := [] }

/-- The place behind the next character. -/
def advance (cursor : Cursor) (char : Char) (rest : Text) : Cursor :=
  { cursor with before := some char, rest, place := cursor.place + 1, passed := [] }

/-- The text between a place and a later one. -/
def textUpTo (first last : Cursor) : Text :=
  first.rest.take (last.place - first.place)

/-- Remember the text since an earlier place as the match of a group. -/
def record (index : Nat) (first last : Cursor) : Cursor :=
  { last with groups := (index, first.textUpTo last) :: last.groups }

/-- What a group has matched last. -/
def group? (cursor : Cursor) (index : Nat) : Option Text :=
  cursor.groups.lookup index

/-- Pass a choice point, if that is allowed. -/
def pass (spot : Option Spot) (label : Nat) (cursor : Cursor) : Option Cursor :=
  match spot with
  | none => some cursor
  | some spot =>
      if cursor.passed.contains (label, spot) then none
      else some { cursor with passed := (label, spot) :: cursor.passed }

/-- Start to keep spots, where that has not happened yet. -/
def track (spot : Option Spot) (cursor : Cursor) : Cursor :=
  if spot.isSome then cursor else { cursor with passed := [] }

end Cursor

/-! ## Ways to one place -/

/-- The cursors that stand neither at a place seen before nor where an earlier one stands. -/
def unseen (seen : Std.TreeSet Nat) : List Cursor → List Cursor
  | [] => []
  | cursor :: cursors =>
      if seen.contains cursor.place then unseen seen cursors
      else cursor :: unseen (seen.insert cursor.place) cursors

/-- The cursors without those that stand where an earlier one stands. -/
def distinct : List Cursor → List Cursor
  | [] => []
  | [only] => [only]
  | cursors => unseen {} cursors

theorem mem_of_mem_unseen {seen : Std.TreeSet Nat} {cursors : List Cursor} {cursor : Cursor}
    (member : cursor ∈ unseen seen cursors) : cursor ∈ cursors := by
  induction cursors generalizing seen with
  | nil => exact member
  | cons first others ih =>
      rw [unseen] at member
      split at member
      · exact List.mem_cons_of_mem first (ih member)
      · cases member with
        | head => exact List.mem_cons_self
        | tail _ member => exact List.mem_cons_of_mem first (ih member)

theorem mem_of_mem_distinct {cursors : List Cursor} {cursor : Cursor}
    (member : cursor ∈ distinct cursors) : cursor ∈ cursors := by
  match cursors with
  | [] => exact member
  | [_] => exact member
  | _ :: _ :: _ => exact mem_of_mem_unseen member

/-- The preferred way is never the one that is dropped. -/
theorem head?_distinct (cursors : List Cursor) : (distinct cursors).head? = cursors.head? := by
  match cursors with
  | [] => rfl
  | [_] => rfl
  | _ :: _ :: _ => simp [distinct, unseen]

/-- The places that are reached from some places, in order of preference. -/
def reach (next : Cursor → List Cursor) (cursors : List Cursor) : List Cursor :=
  distinct (cursors.flatMap next)

/-- Both alternatives in the order of preference of a greedy or of a lazy choice. -/
def prefer (greedy : Bool) (longer shorter : List Cursor) : List Cursor :=
  distinct (if greedy then longer ++ shorter else shorter ++ longer)

/-! ## Repetitions -/

/-- How the body of a repetition is matched: at a spot, from a place. -/
abbrev Step := Option Spot → Cursor → List Cursor

/-- Exactly `count` times the body, from some places on; the copies are numbered from `index` on. -/
def copies (step : Step) (spot : Option Spot) (index : Nat) :
    (count : Nat) → List Cursor → List Cursor
  | 0, cursors => cursors
  | _ + 1, [] => []
  | count + 1, cursors =>
      copies step spot (index + 1) count (reach (step (part spot index)) cursors)

/-- Rounds of a repetition that may be left before each of them. -/
structure Rounds where
  /-- The body of the round with a number. -/
  body : Nat → Cursor → List Cursor
  greedy : Bool
  spot : Option Spot
  /-- The number of the round that may follow a round. -/
  next : Nat → Nat
  /-- The number that is not reached, if the rounds are bounded. -/
  bound : Option Nat

namespace Rounds

/-- At most `count` rounds; the copies of the body are numbered from `index` on. -/
def upTo (step : Step) (greedy : Bool) (spot : Option Spot) (index count : Nat) : Rounds :=
  { body := fun round => step (part spot round)
    greedy, spot
    next := (· + 1)
    bound := some (index + count) }

/-- Any number of rounds. All of them share the copy `index` of the body. -/
def unbounded (step : Step) (greedy : Bool) (spot : Option Spot) (index : Nat) : Rounds :=
  { body := fun _ => step (part spot index)
    greedy, spot
    next := id
    bound := none }

/-- The beginning of a round at a place. -/
structure Stop where
  round : Nat
  place : Nat
deriving DecidableEq, Ord

/-- What is left to do while rounds are explored. -/
inductive Task where
  /-- Begin a round at a place. -/
  | visit (round : Nat) (cursor : Cursor)
  /-- Leave the repetition at a place. -/
  | leave (cursor : Cursor)

/-- Go on with a round or leave, in the order of preference. -/
def expand (rounds : Rounds) (round : Nat) (cursor : Cursor) : List Task :=
  if rounds.bound = some round then [.leave cursor]
  else
    match cursor.pass rounds.spot round with
    | none => []
    | some cursor =>
        let again := (rounds.body round cursor).map (.visit (rounds.next round))
        if rounds.greedy then again ++ [.leave cursor] else .leave cursor :: again

/-- The places at which the rounds may be left, found depth-first: each round begins only once at
each place, and each place is left only once. -/
def explore (rounds : Rounds) :
    (fuel : Nat) → (visited : Std.TreeSet Stop) → (left : Std.TreeSet Nat) → List Task → List Cursor
  | 0, _, _, _ => []
  | _ + 1, _, _, [] => []
  | fuel + 1, visited, left, .leave cursor :: tasks =>
      if left.contains cursor.place then explore rounds fuel visited left tasks
      else cursor :: explore rounds fuel visited (left.insert cursor.place) tasks
  | fuel + 1, visited, left, .visit round cursor :: tasks =>
      let stop : Stop := { round, place := cursor.place }
      if visited.contains stop then explore rounds fuel visited left tasks
      else
        explore rounds fuel (visited.insert stop) left (rounds.expand round cursor ++ tasks)

/-- Enough steps to explore `count` different rounds with `length` characters ahead: a round begins
at each place once, and then leaves a task for each place and one more. -/
def fuel (count length : Nat) : Nat :=
  (count + 1) * (length + 3) * (length + 3)

/-- The places at which rounds may be left that begin at one of some places. -/
def ends (rounds : Rounds) (count round : Nat) (cursors : List Cursor) : List Cursor :=
  let length := (cursors.map (·.rest.length)).foldl max 0
  rounds.explore (fuel count length) {} {} (cursors.map (.visit round))

end Rounds

/-- Any number of times a body. A body that may consume nothing is gone round at least once or
skipped. -/
def anyNumber (step : Step) (nullable greedy : Bool) (spot : Option Spot) (cursor : Cursor) :
    List Cursor :=
  let rounds := Rounds.unbounded step greedy spot 0
  if nullable then
    match cursor.pass spot 0 with
    | none => []
    | some cursor => prefer greedy (rounds.ends 1 1 (step (part spot 0) cursor)) [cursor]
  else rounds.ends 1 0 [cursor]

/-- All ways to repeat a body between `least` and `most` times. -/
def repeats (step : Step) (nullable : Bool) (least : Nat) (most : Option Nat) (greedy : Bool)
    (spot : Option Spot) (cursor : Cursor) : List Cursor :=
  match most, least with
  | some most, least =>
      let count := most - least
      let rounds := Rounds.upTo step greedy spot least count
      rounds.ends (count + 1) least (copies step spot 0 least [cursor])
  | none, 0 => anyNumber step nullable greedy spot cursor
  | none, count + 1 =>
      (Rounds.unbounded step greedy spot count).ends 1 1 (copies step spot 0 (count + 1) [cursor])

/-- All ways to take between `least` and `most` characters of a set, the shortest one first. -/
def shortestRuns (set : CharSet) (least : Nat) (most : Option Nat) (cursor : Cursor) :
    Text → List Cursor
  | [] => if least = 0 then [cursor] else []
  | char :: rest =>
      let longer :=
        if most != some 0 && set.contains char then
          shortestRuns set (least - 1) (most.map (· - 1)) (cursor.advance char rest) rest
        else []
      if least = 0 then cursor :: longer else longer

/-- All ways to take between `least` and `most` characters of a set, from a place on. -/
def runs (set : CharSet) (least : Nat) (most : Option Nat) (greedy : Bool) (cursor : Cursor) :
    List Cursor :=
  let shortest := shortestRuns set least most cursor cursor.rest
  if greedy then shortest.reverse else shortest

/-! ## All patterns -/

/-- The places at which a match that starts at `cursor` may end, the preferred one first. Spots are
kept only inside repetitions that may go round without consuming a character. -/
def ends : Pattern → Option Spot → Cursor → List Cursor
  | .empty, _, cursor => [cursor]
  | .oneOf set, _, cursor =>
      match cursor.rest with
      | [] => []
      | char :: rest => if set.contains char then [cursor.advance char rest] else []
  | .look assertion, _, cursor =>
      if assertion.holds cursor.before cursor.rest then [cursor] else []
  | .group index body, spot, cursor => (body.ends (part spot 0) cursor).map (cursor.record index)
  | .seq first second, spot, cursor =>
      reach (second.ends (part spot 1)) (first.ends (part spot 0) cursor)
  | .alt first second, spot, cursor =>
      match cursor.pass spot 0 with
      | none => []
      | some cursor =>
          distinct (first.ends (part spot 0) cursor ++ second.ends (part spot 1) cursor)
  | .repeated least most greedy body, spot, cursor =>
      match spot, body.charSet? with
      | none, some set => runs set least most greedy cursor
      | _, _ =>
          if most.isNone && body.nullable then
            repeats body.ends true least most greedy (some (spot.getD [])) (cursor.track spot)
          else repeats body.ends false least most greedy spot cursor

/-- The preferred match that starts at the place between `before` and `text`. -/
def matchHere? (pattern : Pattern) (before : Option Char) (text : Text) : Option Cursor :=
  (pattern.ends none (Cursor.start before text)).head?

end Reflow.Pattern
