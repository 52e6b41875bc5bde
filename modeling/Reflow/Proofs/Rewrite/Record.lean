import Reflow.Proofs.Json.Literal
import Reflow.Proofs.Text.Word
import Reflow.Rewrite.Dump

/-!
# Records

What the usual dump of a record looks like: the name of the record and, in braces, its members, each
a key and, behind an equals sign, a word or again a record. Such a record stands for an object with
the members in their order; the words for true and false stand for booleans, all others for strings.
-/

namespace Reflow.Dump

/-- Whether a character may stand in names, keys and words: ASCII letters, digits and low lines. -/
def isLetter (char : Char) : Bool :=
  char.isAlphanum || char == '_'

/-- A name, a key or a word. -/
structure Label where
  text : Text
  notEmpty : text ≠ []
  letters : ∀ char ∈ text, isLetter char = true

/-- What stands behind the key of a member: a word, or a record with its name and its members. -/
inductive Content where
  | word (label : Label)
  | record (name : Label) (members : List (Label × Content))

namespace Content

mutual

/-- A content as it is dumped. -/
def write : Content → Text
  | .word label => label.text
  | .record name members =>
      name.text ++ '{' :: (Text.joinWith [',', ' '] (writeMembers members) ++ ['}'])

/-- The members of a record as they are dumped. -/
def writeMembers : List (Label × Content) → List Text
  | [] => []
  | (key, content) :: members => (key.text ++ '=' :: content.write) :: writeMembers members

end

mutual

/-- The value that a content stands for. The name of a record is dropped. -/
def value : Content → Json.Value
  | .word label =>
      if label.text = Json.writeBool true then .bool true
      else if label.text = Json.writeBool false then .bool false
      else .string label.text
  | .record _ members => .object (memberValues members)

/-- The members that the members of a record stand for. -/
def memberValues : List (Label × Content) → List Json.Member
  | [] => []
  | (key, content) :: members => (key.text, content.value) :: memberValues members

end

/-- Records nested at most `depth` deep, each with at least one member and with different keys. -/
inductive Fits : (depth : Nat) → Content → Prop where
  | word {depth : Nat} (label : Label) : Fits depth (.word label)
  | record {depth : Nat} (name : Label) {members : List (Label × Content)}
      (notEmpty : members ≠ []) (distinct : (members.map (·.1.text)).Nodup)
      (each : ∀ member ∈ members, Fits depth member.2) : Fits (depth + 1) (.record name members)

theorem memberValues_eq_map (members : List (Label × Content)) :
    memberValues members = members.map fun member => (member.1.text, member.2.value) := by
  induction members with
  | nil => rfl
  | cons member members ih => rw [memberValues, ih, List.map_cons]

end Content

/-! ## Labels -/

theorem toNat_of_isLetter {char : Char} (letter : isLetter char = true) :
    0x30 ≤ char.toNat ∧ char.toNat ≤ 0x7A := by
  have ranges : char.isAlphanum = (decide ('A'.val ≤ char.val ∧ char.val ≤ 'Z'.val) ||
      (decide ('a'.val ≤ char.val) && decide (char.val ≤ 'z'.val)) ||
        (decide ('0'.val ≤ char.val) && decide (char.val ≤ '9'.val))) :=
    rfl
  rw [isLetter, Bool.or_eq_true, beq_iff_eq, ranges] at letter
  rcases letter with letter | rfl
  · simp [UInt32.le_iff_toNat_le] at letter
    omega
  · decide

theorem isWord_of_isLetter {char : Char} (letter : isLetter char = true) :
    Unicode.isWord char = true := by
  rw [Unicode.isWord, if_pos (Nat.lt_of_le_of_lt (toNat_of_isLetter letter).2 (by decide))]
  exact letter

theorem isPlain_of_isLetter {char : Char} (letter : isLetter char = true) :
    Json.isPlain char = true := by
  have notControl : Json.isControl char = false :=
    decide_eq_false (Nat.not_lt_of_le (Nat.le_trans (by decide) (toNat_of_isLetter letter).1))
  have notQuote : char ≠ '"' := by
    rintro rfl
    cases letter
  have notEscape : char ≠ '\\' := by
    rintro rfl
    cases letter
  simp [Json.isPlain, notControl, notQuote, notEscape]

namespace Label

variable (label : Label)

theorem isWord : ∀ char ∈ label.text, Unicode.isWord char = true :=
  fun char member => isWord_of_isLetter (label.letters char member)

/-- Between quotes, a label denotes itself. -/
theorem literal : Json.Literal label.text label.text := by
  have plain : ∀ char ∈ label.text, Json.isPlain char = true :=
    fun char member => isPlain_of_isLetter (label.letters char member)
  generalize label.text = text at plain
  induction text with
  | nil => exact .nil
  | cons char text ih =>
      rw [List.forall_mem_cons] at plain
      exact .plain plain.1 (ih plain.2)

end Label

end Reflow.Dump
