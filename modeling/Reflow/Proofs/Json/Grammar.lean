import Mathlib.Data.List.Basic
import Reflow.Proofs.Json.Literal
import Reflow.Proofs.Json.Members
import Reflow.Proofs.Json.Numeral
import Reflow.Proofs.Json.Spacing
import Reflow.Proofs.Json.Within
import Reflow.Proofs.Text.Ink
import Reflow.Proofs.Text.Lines

/-!
# The grammar of JSON

A value is denoted by a list of parts: one part for a scalar, and for a container its signs and the
parts of what it holds.
-/

namespace Reflow.Json

/-! ## Parts that denote a value -/

/-- A part that denotes a scalar. -/
inductive Scalar : (part : Text) → Value → Prop where
  | null : Scalar ['n', 'u', 'l', 'l'] .null
  | bool (value : Bool) : Scalar (writeBool value) (.bool value)
  | number {part : Text} {number : Number} (numeral : Numeral part number) :
      Scalar part (.number number)
  | string {body text : Text} (literal : Literal body text) :
      Scalar ('"' :: (body ++ ['"'])) (.string text)

/-- A member as it is written: its key in quotes and the parts of its value. -/
structure Entry where
  quoted : Text
  parts : List Text
  member : Member

/-- The parts of a member. -/
def Entry.written (entry : Entry) : List Text :=
  entry.quoted :: [':'] :: entry.parts

/-- The parts of a container behind its opening sign, or behind the first of what it holds: the
parts of what it holds, with commas before all but the first, and the closing sign. -/
def listed (closing : Char) (first : Bool) : List (List Text) → List Text
  | [] => [[closing]]
  | parts :: others => (if first then [] else [[',']]) ++ (parts ++ listed closing false others)

theorem listed_true_cons (closing : Char) (parts : List Text) (others : List (List Text)) :
    listed closing true (parts :: others) = parts ++ listed closing false others := rfl

theorem listed_false_cons (closing : Char) (parts : List Text) (others : List (List Text)) :
    listed closing false (parts :: others) = [','] :: (parts ++ listed closing false others) := rfl

/-- Parts that denote a value in which at most `depth` containers are nested. -/
inductive Denotes : (depth : Nat) → (parts : List Text) → Value → Prop where
  | scalar {depth : Nat} {part : Text} {value : Value} (scalar : Scalar part value) :
      Denotes depth [part] value
  | array {depth : Nat} {items : List (List Text × Value)}
      (each : ∀ item ∈ items, Denotes depth item.1 item.2) :
      Denotes (depth + 1) (['['] :: listed ']' true (items.map Prod.fst))
        (.array (items.map Prod.snd))
  | object {depth : Nat} {entries : List Entry}
      (keys : ∀ entry ∈ entries, Scalar entry.quoted (.string entry.member.1))
      (each : ∀ entry ∈ entries, Denotes depth entry.parts entry.member.2) :
      Denotes (depth + 1) (['{'] :: listed '}' true (entries.map Entry.written))
        (.object (collectMembers (entries.map Entry.member)))

/-! ## The characters of parts -/

/-- The signs of JSON. -/
def signs : List Char :=
  ['[', ']', '{', '}', ',', ':']

theorem solid_of_mem_signs {sign : Char} (isSign : sign ∈ signs) : Solid [sign] := by
  have inked : ∀ sign ∈ signs, Text.isBlank sign = false :=
    List.forall_iff_forall_mem.mp (by decide)
  exact .of_inked (List.forall_mem_singleton.mpr (inked sign isSign)) (List.cons_ne_nil _ _)

theorem isLineBreak_eq_false_of_isControl {char : Char} (shown : isControl char = false) :
    Text.isLineBreak char = false := by
  rw [Bool.eq_false_iff]
  intro isBreak
  simp only [Text.isLineBreak, Bool.or_eq_true, beq_iff_eq] at isBreak
  rcases isBreak with rfl | rfl <;> cases shown

theorem Scalar.solid {part : Text} {value : Value} (scalar : Scalar part value) : Solid part := by
  cases scalar with
  | null => exact .of_inked (by simp [Text.Inked]; decide) (List.cons_ne_nil _ _)
  | bool value =>
      cases value <;> exact .of_inked (by simp [Text.Inked, writeBool]; decide) (by decide)
  | number numeral =>
      obtain ⟨char, others, rfl, -⟩ := numeral.exists_eq
      refine .of_inked (fun char listed => ?_) (List.cons_ne_nil _ _)
      exact isBlank_eq_false_of_isNumeral (numeral.isNumeral char listed)
  | @string body text literal =>
      exact ⟨⟨'"', _, rfl, by decide⟩, ⟨'"' :: body, '"', rfl, by decide⟩⟩

/-- A scalar stays on one line. -/
theorem Scalar.isLineBreak_eq_false {part : Text} {value : Value} (scalar : Scalar part value) :
    ∀ char ∈ part, Text.isLineBreak char = false := by
  cases scalar with
  | null => exact List.forall_iff_forall_mem.mp (by decide)
  | bool value => cases value <;> exact List.forall_iff_forall_mem.mp (by decide)
  | number numeral =>
      intro char listed
      rw [Bool.eq_false_iff]
      intro isBreak
      have inked := isBlank_eq_false_of_isNumeral (numeral.isNumeral char listed)
      rw [Text.isBlank_of_isLineBreak isBreak] at inked
      cases inked
  | string literal =>
      rw [List.forall_mem_cons, List.forall_mem_append, List.forall_mem_singleton]
      refine ⟨by decide, fun char listed => ?_, by decide⟩
      exact isLineBreak_eq_false_of_isControl (literal.isControl_eq_false char listed)

theorem Scalar.exists_literal {part text : Text} (scalar : Scalar part (.string text)) :
    ∃ body, part = '"' :: (body ++ ['"']) ∧ Literal body text := by
  cases scalar with
  | string literal => exact ⟨_, rfl, literal⟩

/-- A scalar starts with no sign. -/
theorem Scalar.exists_eq {part : Text} {value : Value} (scalar : Scalar part value) :
    ∃ char others, part = char :: others ∧ char ≠ ']' := by
  cases scalar with
  | null => exact ⟨_, _, rfl, by decide⟩
  | bool value => cases value <;> exact ⟨_, _, rfl, by decide⟩
  | string => exact ⟨_, _, rfl, by decide⟩
  | number numeral =>
      obtain ⟨char, others, rfl, first⟩ := numeral.exists_eq
      refine ⟨char, others, rfl, ?_⟩
      rintro rfl
      rcases first with same | digit
      · cases same
      · cases digit

theorem forall_mem_listed {Property : Text → Prop} {closing : Char} {first : Bool}
    {lists : List (List Text)} (close : Property [closing]) (comma : Property [','])
    (each : ∀ parts ∈ lists, ∀ part ∈ parts, Property part) :
    ∀ part ∈ listed closing first lists, Property part := by
  induction lists generalizing first with
  | nil => exact List.forall_mem_singleton.mpr close
  | cons parts others ih =>
      rw [List.forall_mem_cons] at each
      rw [listed, List.forall_mem_append, List.forall_mem_append]
      refine ⟨?_, each.1, ih each.2⟩
      cases first with
      | true => exact List.forall_mem_nil _
      | false => exact List.forall_mem_singleton.mpr comma

namespace Denotes

variable {depth : Nat} {parts : List Text} {value : Value}

/-- The parts of a value are signs and scalars. -/
theorem forall_mem {Property : Text → Prop} (sign : ∀ sign ∈ signs, Property [sign])
    (scalar : ∀ {part value}, Scalar part value → Property part)
    (denotes : Denotes depth parts value) : ∀ part ∈ parts, Property part := by
  induction denotes with
  | scalar isScalar => exact List.forall_mem_singleton.mpr (scalar isScalar)
  | array _ ih =>
      refine List.forall_mem_cons.mpr ⟨sign _ (by decide), ?_⟩
      exact forall_mem_listed (sign _ (by decide)) (sign _ (by decide)) (List.forall_mem_map.mpr ih)
  | object keys _ ih =>
      refine List.forall_mem_cons.mpr ⟨sign _ (by decide), ?_⟩
      refine forall_mem_listed (sign _ (by decide)) (sign _ (by decide)) ?_
      refine List.forall_mem_map.mpr ?_
      intro entry isEntry
      rw [Entry.written, List.forall_mem_cons, List.forall_mem_cons]
      exact ⟨scalar (keys entry isEntry), sign _ (by decide), ih entry isEntry⟩

theorem solid (denotes : Denotes depth parts value) : ∀ part ∈ parts, Solid part :=
  denotes.forall_mem (fun _ => solid_of_mem_signs) Scalar.solid

theorem isLineBreak_eq_false (denotes : Denotes depth parts value) :
    ∀ part ∈ parts, ∀ char ∈ part, Text.isLineBreak char = false := by
  have sign : ∀ sign ∈ signs, Text.isLineBreak sign = false :=
    List.forall_iff_forall_mem.mp (by decide)
  exact denotes.forall_mem (fun _ isSign => List.forall_mem_singleton.mpr (sign _ isSign))
    Scalar.isLineBreak_eq_false

/-- The first part of a value is not what ends an array. -/
theorem exists_eq (denotes : Denotes depth parts value) :
    ∃ char others more, parts = (char :: others) :: more ∧ char ≠ ']' := by
  cases denotes with
  | scalar scalar =>
      obtain ⟨char, others, rfl, first⟩ := scalar.exists_eq
      exact ⟨char, others, [], rfl, first⟩
  | array => exact ⟨_, _, _, rfl, by decide⟩
  | object => exact ⟨_, _, _, rfl, by decide⟩

/-- No object of a value has two members with the same key. -/
theorem keyed (denotes : Denotes depth parts value) : value.Keyed := by
  induction denotes with
  | scalar scalar => cases scalar <;> exact Value.keyed_of_isScalar rfl
  | array _ ih => exact Value.keyed_array_iff.mpr (List.forall_mem_map.mpr ih)
  | object _ _ ih =>
      refine Value.keyed_object_iff.mpr ⟨nodup_keys_collectMembers _, fun member isMember => ?_⟩
      obtain ⟨entry, isEntry, rfl⟩ := List.mem_map.mp (mem_of_mem_collectMembers isMember)
      exact ih entry isEntry

end Denotes

end Reflow.Json
