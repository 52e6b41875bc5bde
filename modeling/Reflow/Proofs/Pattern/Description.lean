import Reflow.Pattern.Search

/-!
# What a pattern describes

A pattern describes texts, whatever the search prefers: this is read off the pattern from the top
down. A match takes a text that the pattern describes. So where no start of a text is described,
there is no match, and nothing needs to be known about the order in which ways are tried.

Conditions on the place and upper bounds of repetitions are not looked at, so more may be described
than is matched.
-/

namespace Reflow.Pattern

/-- The texts that a pattern describes. -/
def Describes : Pattern → Text → Prop
  | .empty, text => text = []
  | .oneOf set, text => ∃ char, text = [char] ∧ set.contains char = true
  | .look _, text => text = []
  | .group _ body, text => body.Describes text
  | .seq first second, text =>
      ∃ left right, text = left ++ right ∧ first.Describes left ∧ second.Describes right
  | .alt first second, text => first.Describes text ∨ second.Describes text
  | .repeated least _ _ body, text =>
      ∃ rounds : List Text, text = rounds.flatten ∧ least ≤ rounds.length ∧
        ∀ round ∈ rounds, body.Describes round

/-! ## From one place to a later one -/

/-- The text from a place up to a later one. -/
structure Cursor.Takes (first last : Cursor) (text : Text) : Prop where
  rest : first.rest = text ++ last.rest
  place : last.place = first.place + text.length

namespace Cursor.Takes

variable {first middle last : Cursor} {text left right : Text}

theorem refl (cursor : Cursor) : cursor.Takes cursor [] :=
  ⟨rfl, rfl⟩

theorem trans (before : first.Takes middle left) (behind : middle.Takes last right) :
    first.Takes last (left ++ right) where
  rest := by rw [before.rest, behind.rest, List.append_assoc]
  place := by rw [behind.place, before.place, List.length_append, Nat.add_assoc]

theorem advance {cursor : Cursor} {char : Char} {rest : Text} (ahead : cursor.rest = char :: rest) :
    cursor.Takes (cursor.advance char rest) [char] :=
  ⟨ahead, rfl⟩

/-- What a group remembers and which choice points were passed makes no difference. -/
theorem of_same (takes : first.Takes middle text) (rest : last.rest = middle.rest)
    (place : last.place = middle.place) : first.Takes last text :=
  ⟨rest ▸ takes.rest, place ▸ takes.place⟩

end Cursor.Takes

theorem Cursor.rest_of_pass {spot : Option Spot} {label : Nat} {cursor passed : Cursor}
    (allowed : cursor.pass spot label = some passed) :
    passed.rest = cursor.rest ∧ passed.place = cursor.place := by
  cases spot with
  | none =>
      cases allowed
      exact ⟨rfl, rfl⟩
  | some spot =>
      simp only [Cursor.pass] at allowed
      split at allowed
      · cases allowed
      · cases allowed
        exact ⟨rfl, rfl⟩

/-! ## Repetitions -/

/-- A place that is reached from another one by some rounds of a body. -/
def Rounded (described : Text → Prop) (first : Cursor) (count : Nat) (last : Cursor) : Prop :=
  ∃ rounds : List Text, first.Takes last rounds.flatten ∧ count ≤ rounds.length ∧
    ∀ round ∈ rounds, described round

/-- A step that takes described texts only. -/
def Step.Keeps (step : Step) (described : Text → Prop) : Prop :=
  ∀ (spot : Option Spot) (first last : Cursor), last ∈ step spot first →
    ∃ text, first.Takes last text ∧ described text

namespace Rounded

variable {described : Text → Prop} {first middle last : Cursor} {count : Nat} {step : Step}

theorem refl (cursor : Cursor) : Rounded described cursor 0 cursor :=
  ⟨[], .refl cursor, Nat.le_refl 0, List.forall_mem_nil _⟩

theorem mono {fewer : Nat} (rounded : Rounded described first count last) (le : fewer ≤ count) :
    Rounded described first fewer last := by
  obtain ⟨rounds, takes, enough, each⟩ := rounded
  exact ⟨rounds, takes, Nat.le_trans le enough, each⟩

theorem of_same (rounded : Rounded described first count middle) (rest : last.rest = middle.rest)
    (place : last.place = middle.place) : Rounded described first count last := by
  obtain ⟨rounds, takes, enough, each⟩ := rounded
  exact ⟨rounds, takes.of_same rest place, enough, each⟩

/-- One more round. -/
theorem next (rounded : Rounded described first count middle)
    (further : ∃ text, middle.Takes last text ∧ described text) :
    Rounded described first (count + 1) last := by
  obtain ⟨rounds, takes, enough, each⟩ := rounded
  obtain ⟨text, more, isDescribed⟩ := further
  refine ⟨rounds ++ [text], ?_, by simpa using enough, ?_⟩
  · simpa using takes.trans more
  · exact List.forall_mem_append.mpr ⟨each, List.forall_mem_singleton.mpr isDescribed⟩

/-- Copies of a body in a row. -/
theorem copies (keeps : step.Keeps described) {spot : Option Spot} {more index : Nat}
    {cursors : List Cursor} (each : ∀ cursor ∈ cursors, Rounded described first count cursor) :
    ∀ cursor ∈ Pattern.copies step spot index more cursors,
      Rounded described first (count + more) cursor := by
  induction more generalizing count index cursors with
  | zero => exact each
  | succ more ih =>
      cases cursors with
      | nil => exact List.forall_mem_nil _
      | cons cursor cursors =>
          rw [Pattern.copies, Nat.add_comm more 1, ← Nat.add_assoc]
          · refine ih fun reached member => ?_
            obtain ⟨start, listed, found⟩ := List.mem_flatMap.mp (mem_of_mem_distinct member)
            exact (each start listed).next (keeps _ start reached found)
          · exact List.cons_ne_nil cursor cursors

end Rounded

namespace Rounds

variable {described : Text → Prop} {first : Cursor} {count : Nat} {rounds : Rounds}

/-- The place that a task is about. -/
def Task.cursor : Task → Cursor
  | .visit _ cursor => cursor
  | .leave cursor => cursor

/-- Rounds whose bodies take described texts only. -/
def Keeps (rounds : Rounds) (described : Text → Prop) : Prop :=
  ∀ (round : Nat) (first last : Cursor), last ∈ rounds.body round first →
    ∃ text, first.Takes last text ∧ described text

/-- Whatever is left to do after a visit is about places that are reached by as many rounds. -/
theorem rounded_of_mem_expand (keeps : rounds.Keeps described) {round : Nat} {cursor : Cursor}
    (rounded : Rounded described first count cursor) :
    ∀ task ∈ rounds.expand round cursor, Rounded described first count task.cursor := by
  intro task member
  rw [expand] at member
  split at member
  · rw [List.mem_singleton.mp member]
    exact rounded
  · split at member
    · cases member
    · next passed allowed =>
      obtain ⟨rest, place⟩ := Cursor.rest_of_pass allowed
      have here := rounded.of_same rest place
      have again : ∀ last ∈ rounds.body round passed, Rounded described first count last :=
        fun last found => (here.next (keeps round passed last found)).mono (Nat.le_succ count)
      split at member <;>
        simp only [List.mem_append, List.mem_cons, List.mem_map, List.not_mem_nil, or_false]
          at member
      · rcases member with ⟨last, found, rfl⟩ | rfl
        · exact again last found
        · exact here
      · rcases member with rfl | ⟨last, found, rfl⟩
        · exact here
        · exact again last found

/-- The invariant of the search through rounds: all tasks are about places that are reached by
enough rounds. -/
theorem rounded_of_mem_explore (keeps : rounds.Keeps described) {fuel : Nat}
    {visited : Std.TreeSet Stop} {left : Std.TreeSet Nat} {tasks : List Task}
    (each : ∀ task ∈ tasks, Rounded described first count task.cursor) :
    ∀ last ∈ rounds.explore fuel visited left tasks, Rounded described first count last := by
  induction fuel generalizing visited left tasks with
  | zero => exact List.forall_mem_nil _
  | succ fuel ih =>
      cases tasks with
      | nil => exact List.forall_mem_nil _
      | cons task tasks =>
          rw [List.forall_mem_cons] at each
          cases task with
          | leave cursor =>
              rw [explore]
              split
              · exact ih each.2
              · exact List.forall_mem_cons.mpr ⟨each.1, ih each.2⟩
          | visit round cursor =>
              rw [explore]
              split
              · exact ih each.2
              · refine ih (List.forall_mem_append.mpr ⟨?_, each.2⟩)
                exact rounded_of_mem_expand keeps each.1

theorem rounded_of_mem_ends (keeps : rounds.Keeps described) {different round : Nat}
    {cursors : List Cursor} (each : ∀ cursor ∈ cursors, Rounded described first count cursor) :
    ∀ last ∈ rounds.ends different round cursors, Rounded described first count last :=
  rounded_of_mem_explore keeps (List.forall_mem_map.mpr each)

end Rounds

section Repetition

variable {described : Text → Prop} {first : Cursor} {step : Step}

theorem rounded_of_mem_anyNumber (keeps : step.Keeps described) {nullable greedy : Bool}
    {spot : Option Spot} {cursor : Cursor} (rounded : Rounded described first 0 cursor) :
    ∀ last ∈ anyNumber step nullable greedy spot cursor, Rounded described first 0 last := by
  have keepsRounds : (Rounds.unbounded step greedy spot 0).Keeps described :=
    fun _ => keeps (part spot 0)
  rw [anyNumber]
  split
  · split
    · exact List.forall_mem_nil _
    · next passed allowed =>
      obtain ⟨rest, place⟩ := Cursor.rest_of_pass allowed
      have here := rounded.of_same rest place
      have around : ∀ last ∈ (Rounds.unbounded step greedy spot 0).ends 1 1
          (step (part spot 0) passed), Rounded described first 0 last :=
        Rounds.rounded_of_mem_ends keepsRounds fun last found =>
          (here.next (keeps _ passed last found)).mono (Nat.zero_le 1)
      intro last member
      have member := mem_of_mem_distinct member
      split at member <;> simp only [List.mem_append, List.mem_cons, List.not_mem_nil, or_false]
        at member
      · rcases member with found | rfl
        · exact around last found
        · exact here
      · rcases member with rfl | found
        · exact here
        · exact around last found
  · exact Rounds.rounded_of_mem_ends keepsRounds (List.forall_mem_singleton.mpr rounded)

/-- A repetition takes at least the least number of described texts. -/
theorem rounded_of_mem_repeats (keeps : step.Keeps described) {nullable greedy : Bool}
    {least : Nat} {most : Option Nat} {spot : Option Spot} {cursor : Cursor}
    (rounded : Rounded described first 0 cursor) :
    ∀ last ∈ repeats step nullable least most greedy spot cursor,
      Rounded described first least last := by
  have copied (count : Nat) : ∀ last ∈ copies step spot 0 count [cursor],
      Rounded described first count last := by
    have each : ∀ last ∈ copies step spot 0 count [cursor],
        Rounded described first (0 + count) last :=
      Rounded.copies keeps (List.forall_mem_singleton.mpr rounded)
    rwa [Nat.zero_add] at each
  cases most with
  | some most =>
      have keepsRounds : (Rounds.upTo step greedy spot least (most - least)).Keeps described :=
        fun round => keeps (part spot round)
      exact Rounds.rounded_of_mem_ends keepsRounds (copied least)
  | none =>
      cases least with
      | zero => exact rounded_of_mem_anyNumber keeps rounded
      | succ count =>
          have keepsRounds : (Rounds.unbounded step greedy spot count).Keeps described :=
            fun _ => keeps (part spot count)
          exact Rounds.rounded_of_mem_ends keepsRounds (copied (count + 1))

end Repetition

/-- A run of characters out of a set takes at least the least number of them. -/
theorem rounded_of_mem_shortestRuns {set : CharSet} {least : Nat} {most : Option Nat}
    {cursor : Cursor} {text : Text} (ahead : cursor.rest = text) :
    ∀ last ∈ shortestRuns set least most cursor text,
      Rounded (Describes (.oneOf set)) cursor least last := by
  induction text generalizing least most cursor with
  | nil =>
      rw [shortestRuns]
      split
      · next zero =>
        subst zero
        exact List.forall_mem_singleton.mpr (.refl cursor)
      · exact List.forall_mem_nil _
  | cons char rest ih =>
      intro last member
      have longer : last ∈ (if most != some 0 && set.contains char then
          shortestRuns set (least - 1) (most.map (· - 1)) (cursor.advance char rest) rest
          else []) → Rounded (Describes (.oneOf set)) cursor least last := by
        intro member
        split at member
        · next taken =>
          rw [Bool.and_eq_true] at taken
          obtain ⟨rounds, takes, enough, each⟩ := ih rfl last member
          refine ⟨[char] :: rounds, (Cursor.Takes.advance ahead).trans takes, ?_, ?_⟩
          · rw [List.length_cons]
            omega
          · exact List.forall_mem_cons.mpr ⟨⟨char, rfl, taken.2⟩, each⟩
        · cases member
      rw [shortestRuns] at member
      split at member
      · next zero =>
        subst zero
        rcases List.mem_cons.mp member with rfl | member
        · exact .refl last
        · exact longer member
      · exact longer member

theorem rounded_of_mem_repeated {least : Nat} {most : Option Nat} {greedy : Bool} {body : Pattern}
    {spot : Option Spot} {first last : Cursor} (keeps : Step.Keeps body.ends body.Describes)
    (member : last ∈ (repeated least most greedy body).ends spot first) :
    Rounded body.Describes first least last := by
  rw [ends.eq_def] at member
  dsimp only at member
  split at member
  · next set isSet =>
    obtain rfl : body = .oneOf set := by
      cases body with
      | oneOf => exact congrArg oneOf (Option.some.inj isSet)
      | _ => cases isSet
    rw [runs] at member
    split at member
    · exact rounded_of_mem_shortestRuns rfl last (List.mem_reverse.mp member)
    · exact rounded_of_mem_shortestRuns rfl last member
  · split at member
    · refine rounded_of_mem_repeats keeps ((Rounded.refl first).of_same ?_ ?_) last member
      all_goals
        rw [Cursor.track]
        split <;> rfl
    · exact rounded_of_mem_repeats keeps (.refl first) last member

/-! ## All patterns -/

/-- A match takes a text that the pattern describes. -/
theorem exists_describes_of_mem_ends {pattern : Pattern} {spot : Option Spot} {first last : Cursor}
    (member : last ∈ pattern.ends spot first) :
    ∃ text, first.Takes last text ∧ pattern.Describes text := by
  induction pattern generalizing spot first last with
  | empty =>
      rw [ends, List.mem_singleton] at member
      exact ⟨[], member ▸ .refl last, rfl⟩
  | oneOf set =>
      rw [ends] at member
      split at member
      · cases member
      · next char rest ahead =>
        split at member
        · next contained =>
          rw [List.mem_singleton.mp member]
          exact ⟨[char], .advance ahead, char, rfl, contained⟩
        · cases member
  | look assertion =>
      rw [ends] at member
      split at member
      · rw [List.mem_singleton.mp member]
        exact ⟨[], .refl first, rfl⟩
      · cases member
  | group index body ih =>
      rw [ends, List.mem_map] at member
      obtain ⟨inner, found, rfl⟩ := member
      obtain ⟨text, takes, isDescribed⟩ := ih found
      exact ⟨text, takes.of_same rfl rfl, isDescribed⟩
  | seq left right leftIH rightIH =>
      rw [ends] at member
      obtain ⟨middle, inLeft, inRight⟩ := List.mem_flatMap.mp (mem_of_mem_distinct member)
      obtain ⟨before, takesBefore, isLeft⟩ := leftIH inLeft
      obtain ⟨behind, takesBehind, isRight⟩ := rightIH inRight
      exact ⟨before ++ behind, takesBefore.trans takesBehind, before, behind, rfl, isLeft, isRight⟩
  | alt left right leftIH rightIH =>
      rw [ends] at member
      split at member
      · cases member
      · next passed allowed =>
        obtain ⟨rest, place⟩ := Cursor.rest_of_pass allowed
        have here : first.Takes passed [] := (Cursor.Takes.refl first).of_same rest place
        rcases List.mem_append.mp (mem_of_mem_distinct member) with inLeft | inRight
        · obtain ⟨text, takes, isLeft⟩ := leftIH inLeft
          exact ⟨text, here.trans takes, .inl isLeft⟩
        · obtain ⟨text, takes, isRight⟩ := rightIH inRight
          exact ⟨text, here.trans takes, .inr isRight⟩
  | repeated least most greedy body ih =>
      obtain ⟨rounds, takes, enough, each⟩ :=
        rounded_of_mem_repeated (fun _ _ _ found => ih found) member
      exact ⟨rounds.flatten, takes, rounds, rfl, enough, each⟩

/-- Where no start of a text is described, a pattern does not match. -/
theorem matchHere?_eq_none {pattern : Pattern} {text : Text}
    (nothing : ∀ taken, taken <+: text → ¬pattern.Describes taken) (before : Option Char) :
    pattern.matchHere? before text = none := by
  rw [matchHere?, List.head?_eq_none_iff, List.eq_nil_iff_forall_not_mem]
  intro last member
  obtain ⟨taken, takes, isDescribed⟩ := exists_describes_of_mem_ends member
  exact nothing taken ⟨last.rest, takes.rest.symm⟩ isDescribed

end Reflow.Pattern
