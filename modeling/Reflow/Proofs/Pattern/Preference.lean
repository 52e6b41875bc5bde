import Mathlib.Data.List.Infix
import Reflow.Proofs.Pattern.Description

/-!
# The match that is preferred

Where it is known how a text goes on, the first ways that a search tries can be written down: a
greedy run takes the longest stretch of its characters first and gives them back one by one, and a
sequence goes on behind the first way of its first part that lets the second part match.
-/

namespace Reflow.Pattern

/-! ## Places further on -/

/-- The place behind some of the characters ahead. -/
def Cursor.forward (cursor : Cursor) : Text → Cursor
  | [] => cursor
  | char :: run => (cursor.advance char cursor.rest.tail).forward run

section Forward

variable {cursor first last : Cursor} {run text after : Text}

/-- What is behind a text that is ahead. -/
theorem Cursor.Takes.rest_eq (takes : first.Takes last text) (ahead : first.rest = text ++ after) :
    last.rest = after :=
  List.append_cancel_left (takes.rest.symm.trans ahead)

theorem Cursor.Takes.textUpTo (takes : first.Takes last text) : first.textUpTo last = text := by
  rw [Cursor.textUpTo, takes.place, Nat.add_sub_cancel_left, takes.rest, List.take_left]

theorem Cursor.takes_forward (ahead : cursor.rest = run ++ after) :
    cursor.Takes (cursor.forward run) run ∧ (cursor.forward run).rest = after := by
  induction run generalizing cursor with
  | nil => exact ⟨.refl cursor, ahead⟩
  | cons char run ih =>
      have tail : cursor.rest.tail = run ++ after := by rw [ahead, List.cons_append, List.tail_cons]
      obtain ⟨takes, rest⟩ := @ih (cursor.advance char cursor.rest.tail) tail
      refine ⟨(Cursor.Takes.advance ?_).trans takes, rest⟩
      rw [tail, ahead, List.cons_append]

@[simp] theorem Cursor.groups_forward (cursor : Cursor) (run : Text) :
    (cursor.forward run).groups = cursor.groups := by
  induction run generalizing cursor with
  | nil => rfl
  | cons char run ih => exact ih _

end Forward

/-! ## Runs -/

/-- What may be ahead of a run: as many characters of a set as it takes, and then another character
or as many as it may take. -/
structure Run (set : CharSet) (least : Nat) (most : Option Nat) (run after : Text) : Prop where
  inside : ∀ char ∈ run, set.contains char = true
  enough : least ≤ run.length
  bounded : ∀ bound, most = some bound → run.length ≤ bound
  stops : most = some run.length ∨ ∀ char, after.head? = some char → set.contains char = false

namespace Run

variable {set : CharSet} {least : Nat} {most : Option Nat} {run after : Text} {char : Char}
  {cursor : Cursor}

theorem tail (isRun : Run set least most (char :: run) after) :
    Run set (least - 1) (most.map (· - 1)) run after where
  inside other member := isRun.inside other (List.mem_cons_of_mem char member)
  enough := Nat.sub_le_of_le_add isRun.enough
  bounded bound fewer := by
    obtain ⟨whole, isMost, rfl⟩ := Option.map_eq_some_iff.mp fewer
    exact Nat.le_sub_one_of_lt (isRun.bounded whole isMost)
  stops := isRun.stops.imp_left fun full => by simp [full]

/-- A run goes on at each of its characters, and nowhere else. -/
theorem goes_on (isRun : Run set least most (char :: run) after) :
    (most != some 0 && set.contains char) = true := by
  rw [Bool.and_eq_true, bne_iff_ne]
  exact ⟨fun none => absurd (isRun.bounded 0 none) (Nat.not_succ_le_zero _),
    isRun.inside char List.mem_cons_self⟩

theorem stops_before (isRun : Run set least most [] (char :: after)) :
    (most != some 0 && set.contains char) = false := by
  rcases isRun.stops with full | outside
  · simp [full]
  · simp [outside char rfl]

/-- The runs stop behind each character of the longest one. -/
theorem shortestRuns_eq (isRun : Run set least most run after)
    (ahead : cursor.rest = run ++ after) :
    shortestRuns set least most cursor (run ++ after) =
      (run.inits.drop least).map cursor.forward := by
  induction run generalizing least most cursor with
  | nil =>
      obtain rfl : least = 0 := Nat.le_zero.mp isRun.enough
      cases after with
      | nil => rfl
      | cons char rest => simp [shortestRuns, isRun.stops_before, Cursor.forward]
  | cons char run ih =>
      have tail : cursor.rest.tail = run ++ after := by rw [ahead, List.cons_append, List.tail_cons]
      have longer : shortestRuns set (least - 1) (most.map (· - 1))
          (cursor.advance char (run ++ after)) (run ++ after) =
            (run.inits.drop (least - 1)).map fun taken => cursor.forward (char :: taken) := by
        rw [ih isRun.tail rfl]
        simp only [Cursor.forward, tail]
      rw [List.cons_append, shortestRuns, if_pos isRun.goes_on, longer, List.inits_cons]
      cases least with
      | zero => simp [Cursor.forward, Function.comp_def]
      | succ least => simp [List.map_drop, Function.comp_def]

end Run

/-- The longest start of a run comes last. -/
theorem exists_drop_inits {run : Text} {least : Nat} (enough : least ≤ run.length) :
    ∃ shorter, run.inits.drop least = shorter ++ [run] := by
  cases run using List.reverseRecOn with
  | nil =>
      obtain rfl : least = 0 := Nat.le_zero.mp enough
      exact ⟨[], rfl⟩
  | append_singleton front char =>
      have fits : least ≤ front.inits.length := by
        rw [List.length_inits]
        simpa using enough
      refine ⟨front.inits.drop least, ?_⟩
      rw [List.inits_append, List.drop_append_of_le_length fits]
      rfl

theorem Run.ends_eq {set : CharSet} {least : Nat} {most : Option Nat} {cursor : Cursor}
    {run after : Text} (isRun : Run set least most run after) (ahead : cursor.rest = run ++ after) :
    (repeated least most true (.oneOf set)).ends none cursor =
      ((run.inits.drop least).map cursor.forward).reverse := by
  simp only [ends, charSet?, runs, if_true, ahead, isRun.shortestRuns_eq ahead]

/-! ## The first ways -/

/-- The first ways of a pattern end at the given places. -/
def Prefers (pattern : Pattern) (first : Cursor) (lasts : List Cursor) : Prop :=
  lasts <+: pattern.ends none first

variable {pattern before behind body : Pattern} {first middle last : Cursor}
  {failed lasts : List Cursor}

/-- Ways to different places are all kept. -/
theorem prefix_unseen {cursors : List Cursor} {seen : Std.TreeSet Nat}
    (starts : lasts <+: cursors) (apart : (lasts.map Cursor.place).Nodup)
    (new : ∀ last ∈ lasts, seen.contains last.place = false) : lasts <+: unseen seen cursors := by
  induction lasts generalizing cursors seen with
  | nil => exact List.nil_prefix
  | cons last lasts ih =>
      obtain ⟨others, rfl⟩ := starts
      rw [List.map_cons, List.nodup_cons] at apart
      rw [List.forall_mem_cons] at new
      rw [List.cons_append, unseen, if_neg (by simp [new.1]), List.cons_prefix_cons]
      refine ⟨rfl, ih (List.prefix_append ..) apart.2 fun other member => ?_⟩
      have different : last.place ≠ other.place := fun same =>
        apart.1 (same ▸ List.mem_map_of_mem member)
      simp [Std.TreeSet.contains_insert, new.2 other member, different]

theorem prefix_distinct {cursors : List Cursor} (starts : lasts <+: cursors)
    (apart : (lasts.map Cursor.place).Nodup) : lasts <+: distinct cursors := by
  match cursors with
  | [] => exact starts
  | [_] => exact starts
  | _ :: _ :: _ => exact prefix_unseen starts apart (by simp)

namespace Prefers

theorem oneOf {set : CharSet} {char : Char} {after : Text} (ahead : first.rest = char :: after)
    (inside : set.contains char = true) : Prefers (.oneOf set) first [first.forward [char]] := by
  simp [Prefers, ends, ahead, inside, Cursor.forward]

/-- A greedy run takes all that it can. -/
theorem run {set : CharSet} {least : Nat} {most : Option Nat} {run after : Text}
    (isRun : Run set least most run after) (ahead : first.rest = run ++ after) :
    Prefers (.repeated least most true (.oneOf set)) first [first.forward run] := by
  obtain ⟨shorter, equal⟩ := exists_drop_inits isRun.enough
  rw [Prefers, isRun.ends_eq ahead, equal]
  simp

/-- Then it gives back one character. -/
theorem run_back {set : CharSet} {least : Nat} {most : Option Nat} {run after : Text} {char : Char}
    (isRun : Run set least most (run ++ [char]) after) (enough : least ≤ run.length)
    (ahead : first.rest = run ++ [char] ++ after) :
    Prefers (.repeated least most true (.oneOf set)) first
      [first.forward (run ++ [char]), first.forward run] := by
  obtain ⟨shorter, equal⟩ := exists_drop_inits enough
  have fits : least ≤ run.inits.length := by
    rw [List.length_inits]
    exact Nat.le_succ_of_le enough
  rw [Prefers, isRun.ends_eq ahead, List.inits_append, List.drop_append_of_le_length fits, equal]
  simp

theorem group {index : Nat} (inner : Prefers body first lasts) :
    Prefers (.group index body) first (lasts.map (first.record index)) := by
  simp only [Prefers, ends, part, Option.map_none]
  exact List.IsPrefix.map _ inner

/-- A sequence goes on behind the first way that does not fail. -/
theorem seq (left : Prefers before first (failed ++ [middle]))
    (fails : ∀ cursor ∈ failed, behind.ends none cursor = [])
    (right : Prefers behind middle lasts) (apart : (lasts.map Cursor.place).Nodup) :
    Prefers (.seq before behind) first lasts := by
  obtain ⟨others, equal⟩ := left
  rw [Prefers, ends]
  refine prefix_distinct ?_ apart
  simp only [part, Option.map_none, ← equal, List.append_assoc, List.flatMap_append,
    List.flatMap_eq_nil_iff.mpr fails, List.nil_append, List.flatMap_cons]
  exact right.trans (List.prefix_append ..)

end Prefers

/-! ## The preferred match -/

/-- Wherever a text stands before another one, a pattern prefers to match it, and its groups
remember what is listed, the latest first. -/
def Matches (pattern : Pattern) (text after : Text) (groups : List (Nat × Text)) : Prop :=
  ∀ first : Cursor, first.rest = text ++ after →
    ∃ last, Prefers pattern first [last] ∧ first.Takes last text ∧
      last.groups = groups ++ first.groups

namespace Matches

variable {text after left right : Text} {groups others : List (Nat × Text)} {set : CharSet}
  {char : Char}

theorem empty : Matches .empty [] after [] :=
  fun first _ => ⟨first, List.prefix_refl _, .refl first, rfl⟩

theorem oneOf (inside : set.contains char = true) : Matches (.oneOf set) [char] after [] := by
  intro first ahead
  exact ⟨_, .oneOf ahead inside, (Cursor.takes_forward ahead).1, first.groups_forward [char]⟩

theorem run {least : Nat} {most : Option Nat} (isRun : Run set least most text after) :
    Matches (.repeated least most true (.oneOf set)) text after [] := by
  intro first ahead
  exact ⟨_, .run isRun ahead, (Cursor.takes_forward ahead).1, first.groups_forward text⟩

theorem group (inner : Matches body text after groups) (index : Nat) :
    Matches (.group index body) text after ((index, text) :: groups) := by
  intro first ahead
  obtain ⟨last, prefers, takes, remembered⟩ := inner first ahead
  refine ⟨_, prefers.group, takes.of_same rfl rfl, ?_⟩
  rw [Cursor.record, remembered, takes.textUpTo]
  rfl

theorem seq (isLeft : Matches before left (right ++ after) groups)
    (isRight : Matches behind right after others) :
    Matches (.seq before behind) (left ++ right) after (others ++ groups) := by
  intro first ahead
  rw [List.append_assoc] at ahead
  obtain ⟨middle, toMiddle, takesLeft, atMiddle⟩ := isLeft first ahead
  obtain ⟨last, toLast, takesRight, atLast⟩ := isRight middle (takesLeft.rest_eq ahead)
  refine ⟨last, .seq toMiddle (List.forall_mem_nil _) toLast ?_, takesLeft.trans takesRight, ?_⟩
  · exact List.pairwise_singleton _ _
  · rw [atLast, atMiddle, List.append_assoc]

theorem alt_left (isLeft : Matches before text after groups) (behind : Pattern) :
    Matches (.alt before behind) text after groups := by
  intro first ahead
  obtain ⟨last, prefers, takes, remembered⟩ := isLeft first ahead
  refine ⟨last, ?_, takes, remembered⟩
  simp only [Prefers, ends, part, Option.map_none, Cursor.pass]
  exact prefix_distinct (prefers.trans (List.prefix_append ..)) (List.pairwise_singleton _ _)

theorem alt_right
    (fails : ∀ first : Cursor, first.rest = text ++ after → before.ends none first = [])
    (isRight : Matches behind text after groups) :
    Matches (.alt before behind) text after groups := by
  intro first ahead
  obtain ⟨last, prefers, takes, remembered⟩ := isRight first ahead
  refine ⟨last, ?_, takes, remembered⟩
  simp only [Prefers, ends, part, Option.map_none, Cursor.pass, fails first ahead, List.nil_append]
  exact prefix_distinct prefers (List.pairwise_singleton _ _)

/-- A run behind which one of its own characters is asked for gives this character back. -/
theorem run_back {least : Nat} {most : Option Nat} {last : CharSet} {index : Nat}
    (isLeft : Matches before left (right ++ [char] ++ after) groups)
    (isRun : Run set least most (right ++ [char]) after) (enough : least ≤ right.length)
    (inside : last.contains char = true)
    (outside : ∀ next, after.head? = some next → last.contains next = false) :
    Matches
      (.seq (.seq before (.group index (.repeated least most true (.oneOf set)))) (.oneOf last))
      (left ++ right ++ [char]) after ((index, right) :: groups) := by
  intro first ahead
  obtain ⟨middle, toMiddle, takesLeft, atMiddle⟩ := isLeft first (by simpa using ahead)
  have aheadRight : middle.rest = right ++ [char] ++ after :=
    takesLeft.rest_eq (by simpa using ahead)
  have aheadChar : middle.rest = right ++ ([char] ++ after) := by simpa using aheadRight
  obtain ⟨takesAll, restAll⟩ := Cursor.takes_forward aheadRight
  obtain ⟨takesRight, restRight⟩ := Cursor.takes_forward aheadChar
  have both : Prefers (.seq before (.group index (.repeated least most true (.oneOf set)))) first
      [middle.record index (middle.forward (right ++ [char])),
        middle.record index (middle.forward right)] := by
    refine .seq toMiddle (List.forall_mem_nil _)
      (Prefers.run_back isRun enough aheadRight).group ?_
    simp [Cursor.record, takesAll.place, takesRight.place]
  have fails : (Pattern.oneOf last).ends none
      (middle.record index (middle.forward (right ++ [char]))) = [] := by
    rw [ends, Cursor.record, restAll]
    cases after with
    | nil => rfl
    | cons next after => simp [outside next rfl]
  have aheadLast : (middle.record index (middle.forward right)).rest = [char] ++ after := restRight
  have takesBoth : first.Takes (middle.record index (middle.forward right)) (left ++ right) :=
    (takesLeft.trans takesRight).of_same rfl rfl
  refine ⟨_, .seq both (List.forall_mem_singleton.mpr fails) (.oneOf aheadLast inside)
    (List.pairwise_singleton _ _), ?_, ?_⟩
  · exact takesBoth.trans (Cursor.takes_forward aheadLast).1
  · rw [Cursor.groups_forward, Cursor.record, Cursor.groups_forward, takesRight.textUpTo, atMiddle]
    rfl

theorem matchHere? (isMatch : Matches pattern text after groups) (before : Option Char) :
    ∃ last, pattern.matchHere? before (text ++ after) = some last ∧ last.rest = after ∧
      last.place = text.length ∧ last.groups = groups := by
  obtain ⟨last, ⟨others, equal⟩, takes, remembered⟩ := isMatch (.start before (text ++ after)) rfl
  refine ⟨last, ?_, takes.rest_eq rfl, ?_, ?_⟩
  · rw [Pattern.matchHere?, ← equal, List.singleton_append, List.head?_cons]
  · rw [takes.place, Cursor.start, Nat.zero_add]
  · rw [remembered, Cursor.start, List.append_nil]

end Matches

end Reflow.Pattern
