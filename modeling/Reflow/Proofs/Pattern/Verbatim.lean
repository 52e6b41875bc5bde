import Reflow.Pattern.Reader
import Reflow.Proofs.Pattern.Parts
import Reflow.Proofs.Text.Bytes

/-!
# Texts that stand for themselves

A text without any sign of the notation is the pattern that spells it. Its automata have a state for
each byte, so it is refused from a certain length on.
-/

namespace Reflow

/-! ## Reading -/

namespace Expression

/-- The characters that have a meaning of their own in the notation of patterns. -/
def signs : List Char :=
  ['\\', '.', '+', '*', '?', '(', ')', '|', '[', ']', '{', '}', '^', '$']

/-- A text that stands for itself. -/
def Verbatim (text : Text) : Prop :=
  ∀ char ∈ text, char ∉ signs

/-- A character that stands for itself, as an item of the notation. -/
def letter (char : Char) : Notation :=
  .oneOf 0 (.only char)

variable {fuel : Nat} {groups : Groups} {branches : Branches} {char : Char} {text rest : Text}

/-- A character that stands for itself is added to the current alternative. -/
theorem readBranches_cons (plain : char ∉ signs) :
    readBranches (fuel + 1) {} groups branches (char :: rest) =
      readBranches fuel {} groups (branches.push (letter char)) rest := by
  simp only [signs, List.mem_cons, List.not_mem_nil, or_false, not_or] at plain
  rw [readBranches]
  simp only [Modes.skip, Bool.false_eq_true, if_false]
  split
  case h_14 same =>
    cases same
    rfl
  all_goals simp_all

/-- A text that stands for itself is added character by character. -/
theorem readBranches_append (verbatim : Verbatim text) :
    readBranches (text.length + fuel) {} groups branches (text ++ rest) =
      readBranches fuel {} groups
        { branches with items := (text.map letter).reverse ++ branches.items } rest := by
  induction text generalizing branches with
  | nil => simp
  | cons char text ih =>
      rw [Verbatim, List.forall_mem_cons] at verbatim
      rw [List.length_cons, Nat.add_right_comm, List.cons_append, readBranches_cons verbatim.1,
        ih verbatim.2, Branches.push]
      simp

end Expression

namespace Notation

open Expression (letter)

variable {text : Text}

theorem patterns_map_letter (text : Text) : patterns (text.map letter) = text.map Pattern.sign := by
  induction text with
  | nil => rfl
  | cons char text ih =>
      rw [List.map_cons, List.map_cons, ← ih]
      rfl

theorem greatestDepth_map_letter (text : Text) : greatestDepth (text.map letter) = 0 := by
  induction text with
  | nil => rfl
  | cons char text ih => simp [greatestDepth, letter, depth, ih]

theorem sumOfBounds_map_letter (text : Text) :
    sumOfBounds (text.map letter) = 200 * text.length := by
  induction text with
  | nil => rfl
  | cons char text ih =>
      rw [List.map_cons, sumOfBounds, ih, List.length_cons, letter, sizeBound, CharSet.sizeBound]
      omega

/-- A text that stands for itself, at the start of a text. -/
def anchored (text : Text) : Notation :=
  .sequence [.look .textStart, .plain (.sequence (text.map letter))]

theorem pattern_anchored (text : Text) :
    (anchored text).pattern = .seq (.look .textStart) (.spelled text) := by
  simp [anchored, pattern, patterns, patterns_map_letter, Pattern.sequence, Pattern.followedBy,
    Pattern.spelled]

theorem depth_anchored (text : Text) : (anchored text).depth ≤ 3 := by
  cases text with
  | nil => decide
  | cons char text =>
    simp [anchored, depth, greatestDepth, greatestDepth_map_letter, letter]

end Notation

/-! ## Automata -/

namespace AutomatonSize

/-- A size with more parts. -/
def plus (states arcs branches : Nat) (size : AutomatonSize) : AutomatonSize where
  states := size.states + states
  arcs := size.arcs + arcs
  branches := size.branches + branches

theorem bytes_plus (states arcs branches : Nat) (size : AutomatonSize) :
    (size.plus states arcs branches).bytes =
      size.bytes + (32 * states + 8 * arcs + 4 * branches) := by
  simp only [plus, bytes]
  omega

theorem add_eq (states arcs branches : Nat) (size : AutomatonSize) :
    size.add states arcs branches =
      if (size.plus states arcs branches).bytes ≤ limit then some (size.plus states arcs branches)
      else none :=
  rfl

/-- Growing twice is growing by the sum. -/
theorem add_bind_add (states moreStates arcs moreArcs branches moreBranches : Nat)
    (size : AutomatonSize) :
    ((size.add states arcs branches).bind fun size => size.add moreStates moreArcs moreBranches) =
      size.add (states + moreStates) (arcs + moreArcs) (branches + moreBranches) := by
  have sum : (size.plus states arcs branches).plus moreStates moreArcs moreBranches =
      size.plus (states + moreStates) (arcs + moreArcs) (branches + moreBranches) := by
    simp only [plus, Nat.add_assoc]
  by_cases fits : (size.plus states arcs branches).bytes ≤ limit
  · rw [add_eq states, if_pos fits, Option.bind_some, add_eq, add_eq, sum]
  · have larger :
        ¬(size.plus (states + moreStates) (arcs + moreArcs) (branches + moreBranches)).bytes ≤
          limit := by
      rw [← sum, bytes_plus]
      omega
    rw [add_eq states, if_neg fits, Option.bind_none, add_eq, if_neg larger]

theorem isSome_add_iff (states : Nat) (size : AutomatonSize) :
    (size.add states 0 0).isSome ↔ size.bytes + 32 * states ≤ limit := by
  simp [add_eq, bytes_plus]

end AutomatonSize

namespace Outline

/-- Literals that follow each other become one. -/
theorem inSequence_literals {literals : List Bytes} (notEmpty : literals ≠ []) :
    inSequence (literals.map .literal) = .literal literals.flatten := by
  have parts : (literals.map literal).flatMap parts = literals.map literal := by
    rw [List.flatMap_map]
    exact List.flatMap_pure_eq_map literal literals
  have attached (first : Bytes) (others : List Bytes) :
      ((first :: others).map literal).foldr attach [] = [.literal (first :: others).flatten] := by
    induction others generalizing first with
    | nil => simp [attach]
    | cons second others ih =>
        rw [List.map_cons, List.foldr_cons, ih, attach]
        rfl
  obtain ⟨first, others, rfl⟩ := List.exists_cons_of_ne_nil notEmpty
  rw [inSequence, parts, attached]

variable (bytes : Bytes)

theorem forwardSize?_anchored :
    (sequence [.look .textStart, .literal bytes]).forwardSize? =
      AutomatonSize.add (bytes.length + 4) 0 0 { states := 1 } := by
  have grown (size : AutomatonSize) :
      (sequence [.look .textStart, .literal bytes]).grow .forward size =
        size.add (1 + bytes.length) 0 0 := by
    simp [grow, growForward, AutomatonSize.add_bind_add]
  have states : 1 + (1 + bytes.length + 2) = bytes.length + 4 := by omega
  simp [forwardSize?, startsWith, someStartsWith, grown, AutomatonSize.add_bind_add, states]

theorem backwardSize?_anchored :
    (sequence [.look .textStart, .literal bytes]).backwardSize? =
      AutomatonSize.add (bytes.length + 2) 0 0 { states := 3, arcs := 1, branches := 2 } := by
  have grown (size : AutomatonSize) :
      (sequence [.look .textStart, .literal bytes]).grow .backward size =
        size.add (bytes.length + 1) 0 0 := by
    simp [grow, growBackward, AutomatonSize.add_bind_add]
  simp [backwardSize?, endsWith, someEndsWith, allHollow, hollow, grown,
    AutomatonSize.add_bind_add]

/-- The automata for some bytes at the start of a text. The one that reads backward is larger. -/
theorem fits_anchored :
    (sequence [.look .textStart, .literal bytes]).fits =
      decide (32 * bytes.length + 176 ≤ AutomatonSize.limit) := by
  rw [Bool.eq_iff_iff, fits, Bool.and_eq_true_iff, forwardSize?_anchored, backwardSize?_anchored,
    AutomatonSize.isSome_add_iff, AutomatonSize.isSome_add_iff, decide_eq_true_iff]
  simp only [AutomatonSize.bytes]
  omega

end Outline

/-! ## The pattern of a text -/

namespace Expression

/-- The largest number of bytes of a text that stands for itself and that is short enough to be a
pattern. -/
def longestVerbatim : Nat := 327674

end Expression

namespace Notation

theorem outlines_map_letter (text : Text) :
    outlines (text.map Expression.letter) =
      (text.map String.utf8EncodeChar).map .literal := by
  induction text with
  | nil => rfl
  | cons char text ih =>
      rw [List.map_cons, List.map_cons, List.map_cons, outlines, ih]
      simp [Expression.letter, outline, CharSet.ranges, Outline.ofRanges, Unicode.encode]

theorem outline_anchored {text : Text} (notEmpty : text ≠ []) :
    (anchored text).outline =
      .sequence [.look .textStart, .literal (text.flatMap String.utf8EncodeChar)] := by
  have letters : (plain (.sequence (text.map Expression.letter))).outline =
      .literal (text.flatMap String.utf8EncodeChar) := by
    rw [outline, outline, outlines_map_letter,
      Outline.inSequence_literals (by simpa using notEmpty), List.flatMap_def]
  rw [anchored, outline, outlines, outlines, outlines, letters]
  rfl

/-- The automata for a text that stands for itself stay within the limit up to a certain number of
bytes. -/
theorem fits_anchored {text : Text} (notEmpty : text ≠ []) :
    (anchored text).fits = decide (text.byteLength ≤ Expression.longestVerbatim) := by
  have bound : (anchored text).sizeBound = 200 * text.length + 96 := by
    simp [anchored, sizeBound, sumOfBounds, sumOfBounds_map_letter]
    omega
  have bytes := text.byteLength_le_four_mul_length
  rw [fits, outline_anchored notEmpty, Outline.fits_anchored, Text.length_flatMap_utf8EncodeChar,
    bound, Bool.eq_iff_iff]
  simp only [Bool.or_eq_true, decide_eq_true_eq]
  simp only [AutomatonSize.limit, Expression.longestVerbatim]
  omega

end Notation

end Reflow
