import Reflow.Json.Parser

/-!
# The weight of a value

A value weighs one for each of its parts and one for each character of its strings and keys.
Whatever a text denotes weighs at most as much as the text has characters, since every part has been
read from characters of its own.
-/

namespace Reflow.Json

mutual

/-- The number of parts of a value and of characters in its strings and keys. -/
def Value.weight : Value → Nat
  | .null => 1
  | .bool _ => 1
  | .number _ => 1
  | .string text => 1 + text.length
  | .array items => 1 + itemsWeight items
  | .object members => 1 + membersWeight members

/-- The weight of items. -/
def itemsWeight : List Value → Nat
  | [] => 0
  | item :: items => item.weight + itemsWeight items

/-- The weight of members, the characters of their keys included. -/
def membersWeight : List (Text × Value) → Nat
  | [] => 0
  | (key, value) :: members => key.length + value.weight + membersWeight members

end

/-- Every value has a weight. -/
theorem Value.weight_pos (value : Value) : 0 < value.weight := by
  cases value <;> simp only [Value.weight] <;> omega

/-- Entering a member adds at most its own weight. -/
theorem membersWeight_insertMember_le (members : List Member) (key : Text) (value : Value) :
    membersWeight (insertMember members key value) ≤
      membersWeight members + (key.length + value.weight) := by
  induction members with
  | nil => simp [insertMember, membersWeight]
  | cons member members ih =>
      obtain ⟨other, old⟩ := member
      simp only [insertMember]
      split
      · rename_i same
        subst same
        simp only [membersWeight]
        omega
      · simp only [membersWeight]
        omega

/-- Collecting members adds no weight. -/
theorem membersWeight_collectMembers_le (members : List Member) :
    membersWeight (collectMembers members) ≤ membersWeight members := by
  have general (collected : List Member) :
      membersWeight
          (members.foldl (fun collected member => insertMember collected member.1 member.2)
            collected) ≤
        membersWeight collected + membersWeight members := by
    induction members generalizing collected with
    | nil => simp [membersWeight]
    | cons member members ih =>
        obtain ⟨key, value⟩ := member
        have step := membersWeight_insertMember_le collected key value
        have rest := ih (insertMember collected key value)
        simp only [List.foldl_cons, membersWeight]
        omega
  simpa [collectMembers, membersWeight] using general []

/-! ## Consumed characters -/

/-- A reader gives no more text than it was given. -/
theorem length_skipSpace_le (text : Text) : (skipSpace text).length ≤ text.length :=
  (List.dropWhile_suffix _).length_le

/-- A sequence of two steps succeeds if both succeed. -/
theorem bind_eq_ok {ε α β : Type} {first : Except ε α} {second : α → Except ε β} {result : β} :
    first >>= second = .ok result ↔ ∃ middle, first = .ok middle ∧ second middle = .ok result := by
  cases first <;> simp [bind, Except.bind]

theorem length_le_of_readIdentifier {α : Type} {value result : α} {letters text rest : Text}
    (read : readIdentifier value letters text = .ok (result, rest)) :
    rest.length ≤ text.length := by
  induction letters generalizing text with
  | nil => simp_all [readIdentifier]
  | cons letter letters ih =>
      cases text with
      | nil => simp [readIdentifier] at read
      | cons char text =>
          simp only [readIdentifier] at read
          split at read
          · exact Nat.le_succ_of_le (ih read)
          · simp at read

theorem value_eq_of_readIdentifier {α : Type} {value result : α} {letters text rest : Text}
    (read : readIdentifier value letters text = .ok (result, rest)) : result = value := by
  induction letters generalizing text with
  | nil => simp_all [readIdentifier]
  | cons letter letters ih =>
      cases text with
      | nil => simp [readIdentifier] at read
      | cons char text =>
          simp only [readIdentifier] at read
          split at read
          · exact ih read
          · simp at read

namespace Gathered

theorem length_le_of_finish {gathered : Gathered} {text rest : Text} {number : Number}
    (read : gathered.finish text = .ok (number, rest)) : rest.length ≤ text.length := by
  simp only [finish] at read
  split at read <;> simp_all

theorem length_le_of_readExponentDigits {gathered : Gathered} {negative : Bool} {value : Nat}
    {text rest : Text} {number : Number}
    (read : gathered.readExponentDigits negative value text = .ok (number, rest)) :
    rest.length ≤ text.length := by
  induction text generalizing value with
  | nil =>
      simp only [readExponentDigits, readExponentDigits.finishExponent] at read
      exact length_le_of_finish read
  | cons char text ih =>
      simp only [readExponentDigits, readExponentDigits.finishExponent] at read
      split at read
      · exact length_le_of_finish read
      · split at read
        · exact Nat.le_succ_of_le (ih read)
        · split at read
          · simp at read
          · simp only [Except.ok.injEq, Prod.mk.injEq] at read
            have := (List.dropWhile_suffix (l := text) Char.isDigit).length_le
            rw [← read.2]
            exact Nat.le_succ_of_le this

theorem length_le_of_readExponentValue {gathered : Gathered} {negative : Bool} {text rest : Text}
    {number : Number} (read : gathered.readExponentValue negative text = .ok (number, rest)) :
    rest.length ≤ text.length := by
  cases text with
  | nil => simp [readExponentValue] at read
  | cons char text =>
      simp only [readExponentValue] at read
      split at read
      · exact Nat.le_succ_of_le (length_le_of_readExponentDigits read)
      · simp at read

theorem length_le_of_readExponent {gathered : Gathered} {text rest : Text} {number : Number}
    (read : gathered.readExponent text = .ok (number, rest)) : rest.length ≤ text.length := by
  simp only [readExponent] at read
  split at read
  · exact Nat.le_succ_of_le (length_le_of_readExponentValue read)
  · exact Nat.le_succ_of_le (length_le_of_readExponentValue read)
  · exact length_le_of_readExponentValue read

theorem length_le_of_readTail {gathered : Gathered} {text rest : Text} {number : Number}
    (read : gathered.readTail text = .ok (number, rest)) : rest.length ≤ text.length := by
  simp only [readTail] at read
  split at read
  · exact Nat.le_succ_of_le (length_le_of_readExponent read)
  · exact Nat.le_succ_of_le (length_le_of_readExponent read)
  · exact length_le_of_finish read

theorem length_le_of_readFraction {gathered : Gathered} {seen : Bool} {text rest : Text}
    {number : Number} (read : gathered.readFraction seen text = .ok (number, rest)) :
    rest.length ≤ text.length := by
  induction text generalizing gathered seen with
  | nil =>
      simp only [readFraction] at read
      split at read
      · exact length_le_of_readTail read
      · simp at read
  | cons char text ih =>
      simp only [readFraction] at read
      split at read
      · split at read
        · exact Nat.le_succ_of_le (ih read)
        · have := length_le_of_readTail read
          have := (List.dropWhile_suffix (l := text) Char.isDigit).length_le
          simp only [List.length_cons]
          omega
      · split at read
        · exact length_le_of_readTail read
        · simp at read

theorem length_le_of_readLong {gathered : Gathered} {text rest : Text} {number : Number}
    (read : gathered.readLong text = .ok (number, rest)) : rest.length ≤ text.length := by
  fun_induction readLong gathered text with
  | case1 => exact length_le_of_readTail read
  | case2 => exact Nat.le_succ_of_le (length_le_of_readFraction read)
  | case3 _ _ _ _ _ ih => exact Nat.le_succ_of_le (ih read)
  | case4 => exact length_le_of_readTail read

end Gathered

theorem length_le_of_readNumberTail {negative : Bool} {digits : Nat} {text rest : Text}
    {number : Number} (read : readNumberTail negative digits text = .ok (number, rest)) :
    rest.length ≤ text.length := by
  simp only [readNumberTail] at read
  split at read
  · exact Nat.le_succ_of_le (Gathered.length_le_of_readFraction read)
  · exact Nat.le_succ_of_le (Gathered.length_le_of_readExponent read)
  · exact Nat.le_succ_of_le (Gathered.length_le_of_readExponent read)
  · simp_all

theorem length_le_of_readWhole {negative : Bool} {digits : Nat} {text rest : Text}
    {number : Number} (read : readWhole negative digits text = .ok (number, rest)) :
    rest.length ≤ text.length := by
  induction text generalizing digits with
  | nil => exact length_le_of_readNumberTail read
  | cons char text ih =>
      simp only [readWhole] at read
      split at read
      · split at read
        · exact Nat.le_succ_of_le (ih read)
        · exact Gathered.length_le_of_readLong read
      · exact length_le_of_readNumberTail read

/-- A number takes at least one character. -/
theorem length_lt_of_readUnsigned {negative : Bool} {text rest : Text} {number : Number}
    (read : readUnsigned negative text = .ok (number, rest)) : rest.length < text.length := by
  simp only [readUnsigned] at read
  split at read
  · simp at read
  · split at read
    · simp at read
    · exact Nat.lt_succ_of_le (length_le_of_readNumberTail read)
  · split at read
    · exact Nat.lt_succ_of_le (length_le_of_readWhole read)
    · simp at read

theorem length_le_of_readHex {text rest : Text} {code : Nat}
    (read : readHex text = .ok (code, rest)) : rest.length ≤ text.length := by
  simp only [readHex] at read
  split at read
  · simp at read
  · split at read
    · split at read
      · simp only [Except.ok.injEq, Prod.mk.injEq] at read
        simp only [← read.2, List.length_cons]
        omega
      · simp at read
    · simp at read

theorem length_lt_of_readSecondHalf {first : Nat} {text rest : Text} {char : Char}
    (read : readSecondHalf first text = .ok (char, rest)) : rest.length < text.length := by
  unfold readSecondHalf at read
  split at read <;> try (simp at read; done)
  obtain ⟨⟨second, behind⟩, hex, chosen⟩ := bind_eq_ok.mp read
  have := length_le_of_readHex hex
  dsimp only at chosen
  split at chosen
  · simp only [pure, Except.pure, Except.ok.injEq, Prod.mk.injEq] at chosen
    simp only [← chosen.2, List.length_cons]
    omega
  · simp at chosen

/-- An escape takes at least one character. -/
theorem length_lt_of_readEscape {text rest : Text} {char : Char}
    (read : readEscape text = .ok (char, rest)) : rest.length < text.length := by
  unfold readEscape at read
  split at read <;> try (simp at read; done)
  all_goals try (simp_all; done)
  obtain ⟨⟨code, behind⟩, hex, chosen⟩ := bind_eq_ok.mp read
  have := length_le_of_readHex hex
  dsimp only at chosen
  split at chosen
  · simp at chosen
  · split at chosen
    · have := length_lt_of_readSecondHalf chosen
      simp only [List.length_cons]
      omega
    · simp only [pure, Except.pure, Except.ok.injEq, Prod.mk.injEq] at chosen
      simp only [← chosen.2, List.length_cons]
      omega

/-- A string takes a character for each of its own and one for the closing quote. -/
theorem length_add_lt_of_readStringUpTo {fuel : Nat} {text result rest : Text}
    (read : readStringUpTo fuel text = .ok (result, rest)) :
    result.length + rest.length < text.length := by
  fun_induction readStringUpTo fuel text generalizing result rest with
  | case1 => simp at read
  | case2 => simp at read
  | case3 => simp_all
  | case4 fuel text ih =>
      obtain ⟨⟨char, behind⟩, escape, read⟩ := bind_eq_ok.mp read
      obtain ⟨⟨others, last⟩, string, chosen⟩ := bind_eq_ok.mp read
      have := length_lt_of_readEscape escape
      have := ih behind string
      simp only [pure, Except.pure, Except.ok.injEq, Prod.mk.injEq] at chosen
      simp only [← chosen.1, ← chosen.2, List.length_cons]
      omega
  | case5 => simp at read
  | case6 _ _ _ _ _ _ ih =>
      obtain ⟨⟨others, last⟩, string, chosen⟩ := bind_eq_ok.mp read
      have := ih string
      simp only [pure, Except.pure, Except.ok.injEq, Prod.mk.injEq] at chosen
      simp only [← chosen.1, ← chosen.2, List.length_cons]
      omega

theorem length_add_lt_of_readString {text result rest : Text}
    (read : readString text = .ok (result, rest)) :
    result.length + rest.length < text.length :=
  length_add_lt_of_readStringUpTo read

theorem length_le_of_nextItem_more {first : Bool} {text rest : Text}
    (next : nextItem first text = .ok (.more rest)) : rest.length ≤ text.length := by
  have skipped := length_skipSpace_le text
  simp only [nextItem] at next
  split at next
  · simp at next
  · simp at next
  · rename_i char behind _ skip
    rw [skip, List.length_cons] at skipped
    split at next
    · simp only [Except.ok.injEq, Next.more.injEq] at next
      simp only [← next, List.length_cons]
      omega
    · split at next
      · have := length_skipSpace_le behind
        split at next
        · simp at next
        · simp at next
        · simp only [Except.ok.injEq, Next.more.injEq] at next
          rw [← next]
          omega
      · simp at next

theorem length_lt_of_nextItem_done {first : Bool} {text rest : Text}
    (next : nextItem first text = .ok (.done rest)) : rest.length < text.length := by
  have skipped := length_skipSpace_le text
  simp only [nextItem] at next
  split at next
  · simp at next
  · rename_i skip
    simp only [skip, List.length_cons] at skipped
    simp only [Except.ok.injEq, Next.done.injEq] at next
    rw [← next]
    omega
  · split at next
    · simp at next
    · split at next
      · split at next <;> simp at next
      · simp at next

theorem length_lt_of_nextMember_more {first : Bool} {text rest : Text}
    (next : nextMember first text = .ok (.more rest)) : rest.length < text.length := by
  have skipped := length_skipSpace_le text
  simp only [nextMember] at next
  split at next
  · simp at next
  · simp at next
  · rename_i char behind _ skip
    rw [skip, List.length_cons] at skipped
    split at next
    · split at next
      · simp only [Except.ok.injEq, Next.more.injEq] at next
        rw [← next]
        omega
      · simp at next
    · split at next
      · have inner := length_skipSpace_le behind
        split at next
        · simp at next
        · rename_i skip
          rw [skip, List.length_cons] at inner
          simp only [Except.ok.injEq, Next.more.injEq] at next
          rw [← next]
          omega
        · simp at next
        · simp at next
      · simp at next

theorem length_lt_of_nextMember_done {first : Bool} {text rest : Text}
    (next : nextMember first text = .ok (.done rest)) : rest.length < text.length := by
  have skipped := length_skipSpace_le text
  simp only [nextMember] at next
  split at next
  · simp at next
  · rename_i skip
    simp only [skip, List.length_cons] at skipped
    simp only [Except.ok.injEq, Next.done.injEq] at next
    rw [← next]
    omega
  · split at next
    · split at next <;> simp at next
    · split at next
      · split at next <;> simp at next
      · simp at next

theorem length_lt_of_readColon {text rest : Text} (read : readColon text = .ok rest) :
    rest.length < text.length := by
  have skipped := length_skipSpace_le text
  simp only [readColon] at read
  split at read
  · simp at read
  · rename_i skip
    simp only [skip, List.length_cons] at skipped
    simp only [Except.ok.injEq] at read
    rw [← read]
    omega
  · simp at read

/-! ## Consumed characters and weight -/

/-- A reader of values takes at least as many characters as the value weighs. -/
def ConsumesWeight (reader : Reader Fault Value) : Prop :=
  ∀ {text rest : Text} {value : Value}, reader text = .ok (value, rest) →
    value.weight + rest.length ≤ text.length

theorem weight_add_lt_of_readItems {readValue : Reader Fault Value}
    (consumes : ConsumesWeight readValue) {fuel : Nat} {first : Bool} {text rest : Text}
    {items : List Value} (read : readItems readValue fuel first text = .ok (items, rest)) :
    itemsWeight items + rest.length < text.length := by
  induction fuel generalizing first text rest items with
  | zero => simp [readItems] at read
  | succ fuel ih =>
      simp only [readItems] at read
      obtain ⟨next, found, read⟩ := bind_eq_ok.mp read
      cases next with
      | done behind =>
          have := length_lt_of_nextItem_done found
          simp only [pure, Except.pure, Except.ok.injEq, Prod.mk.injEq] at read
          simp only [← read.1, ← read.2, itemsWeight]
          omega
      | more behind =>
          have := length_le_of_nextItem_more found
          obtain ⟨⟨item, behindItem⟩, readItem, read⟩ := bind_eq_ok.mp read
          obtain ⟨⟨others, last⟩, readOthers, read⟩ := bind_eq_ok.mp read
          have := consumes readItem
          have := ih readOthers
          simp only [pure, Except.pure, Except.ok.injEq, Prod.mk.injEq] at read
          simp only [← read.1, ← read.2, itemsWeight]
          dsimp only at *
          omega

theorem weight_add_lt_of_readMembers {readValue : Reader Fault Value}
    (consumes : ConsumesWeight readValue) {fuel : Nat} {first : Bool} {text rest : Text}
    {members : List Member} (read : readMembers readValue fuel first text = .ok (members, rest)) :
    membersWeight members + rest.length < text.length := by
  induction fuel generalizing first text rest members with
  | zero => simp [readMembers] at read
  | succ fuel ih =>
      simp only [readMembers] at read
      obtain ⟨next, found, read⟩ := bind_eq_ok.mp read
      cases next with
      | done behind =>
          have := length_lt_of_nextMember_done found
          simp only [pure, Except.pure, Except.ok.injEq, Prod.mk.injEq] at read
          simp only [← read.1, ← read.2, membersWeight]
          omega
      | more behind =>
          have := length_lt_of_nextMember_more found
          obtain ⟨⟨key, behindKey⟩, readKey, read⟩ := bind_eq_ok.mp read
          obtain ⟨behindColon, colon, read⟩ := bind_eq_ok.mp read
          obtain ⟨⟨value, behindValue⟩, readItem, read⟩ := bind_eq_ok.mp read
          obtain ⟨⟨others, last⟩, readOthers, read⟩ := bind_eq_ok.mp read
          have := length_add_lt_of_readString readKey
          have := length_lt_of_readColon colon
          have := consumes readItem
          have := ih readOthers
          simp only [pure, Except.pure, Except.ok.injEq, Prod.mk.injEq] at read
          simp only [← read.1, ← read.2, membersWeight]
          dsimp only at *
          omega

theorem consumesWeight_readValueWith {readArray readObject : Reader Fault Value}
    (array : ∀ {text rest : Text} {value : Value}, readArray text = .ok (value, rest) →
      value.weight + rest.length ≤ text.length + 1)
    (object : ∀ {text rest : Text} {value : Value}, readObject text = .ok (value, rest) →
      value.weight + rest.length ≤ text.length + 1) :
    ConsumesWeight (readValueWith readArray readObject) := by
  intro text rest value read
  have skipped := length_skipSpace_le text
  have identifier {name : Value} {letters behind : Text} (weighs : name.weight = 1)
      (read : readIdentifier name letters behind = .ok (value, rest)) :
      value.weight + rest.length ≤ behind.length + 1 := by
    have := length_le_of_readIdentifier read
    have := value_eq_of_readIdentifier read
    simp_all
    omega
  unfold readValueWith at read
  split at read
  · simp at read
  all_goals
    rename_i skip
    rw [skip, List.length_cons] at skipped
  · have := identifier rfl read
    omega
  · have := identifier rfl read
    omega
  · have := identifier rfl read
    omega
  · obtain ⟨⟨string, behind⟩, readText, read⟩ := bind_eq_ok.mp read
    have := length_add_lt_of_readString readText
    simp only [pure, Except.pure, Except.ok.injEq, Prod.mk.injEq] at read
    simp only [← read.1, ← read.2, Value.weight]
    omega
  · obtain ⟨⟨number, behind⟩, readNumber, read⟩ := bind_eq_ok.mp read
    have := length_lt_of_readUnsigned readNumber
    simp only [pure, Except.pure, Except.ok.injEq, Prod.mk.injEq] at read
    simp only [← read.1, ← read.2, Value.weight]
    omega
  · have := array read
    omega
  · have := object read
    omega
  · split at read
    · obtain ⟨⟨number, behind⟩, readNumber, read⟩ := bind_eq_ok.mp read
      have := length_lt_of_readUnsigned readNumber
      simp only [pure, Except.pure, Except.ok.injEq, Prod.mk.injEq, List.length_cons] at read this
      simp only [← read.1, ← read.2, Value.weight]
      omega
    · simp at read

theorem consumesWeight_readValue (depth : Nat) : ConsumesWeight (readValue depth) := by
  induction depth with
  | zero => exact consumesWeight_readValueWith (by simp) (by simp)
  | succ depth ih =>
      refine consumesWeight_readValueWith ?_ ?_
      · intro text rest value read
        obtain ⟨⟨items, behind⟩, readAll, read⟩ := bind_eq_ok.mp read
        have := weight_add_lt_of_readItems ih readAll
        simp only [pure, Except.pure, Except.ok.injEq, Prod.mk.injEq] at read
        simp only [← read.1, ← read.2, Value.weight]
        omega
      · intro text rest value read
        obtain ⟨⟨members, behind⟩, readAll, read⟩ := bind_eq_ok.mp read
        have := weight_add_lt_of_readMembers ih readAll
        have := membersWeight_collectMembers_le members
        simp only [pure, Except.pure, Except.ok.injEq, Prod.mk.injEq] at read
        simp only [← read.1, ← read.2, Value.weight]
        omega

/-- A value weighs at most as much as the text that denotes it has characters. -/
theorem weight_le_of_readDocument {text : Text} {value : Value}
    (read : readDocument text = .ok value) : value.weight ≤ text.length := by
  obtain ⟨⟨result, rest⟩, readIt, read⟩ := bind_eq_ok.mp read
  have := consumesWeight_readValue nestingLimit readIt
  dsimp only at read
  split at read
  · simp only [pure, Except.pure, Except.ok.injEq] at read
    rw [← read]
    omega
  · simp at read

end Reflow.Json
