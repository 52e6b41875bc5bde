import Reflow.Proofs.Json.Grammar

/-!
# What the reader accepts

The reader accepts exactly the texts that hold the parts of a value with blanks between them, and
gives this value. Each step of it takes the parts that are next, so by induction on the nesting the
whole of it takes the parts of a value.
-/

namespace Reflow.Json

/-! ## What may follow a value -/

/-- Parts that may stand behind a value: none, or a sign and others. -/
def Follows (parts : List Text) : Prop :=
  ∀ part ∈ parts.head?, ∃ sign ∈ signs, part = [sign]

/-- A sign or a blank ends a numeral. -/
theorem Follows.stops {parts : List Text} {text : Text} (follows : Follows parts)
    (spaced : Spaced parts text) : Stops text := by
  have space {char : Char} (blank : isSpace char = true) : isNumeral char = false := by
    rw [Bool.eq_false_iff]
    intro numeral
    have inked := isBlank_eq_false_of_isNumeral numeral
    rw [isBlank_of_isSpace blank] at inked
    cases inked
  intro char first
  cases spaced with
  | nil blank => exact space (blank char (List.mem_of_mem_head? first))
  | @cons start part parts rest blank =>
      cases start with
      | cons other start =>
          cases first
          exact space (blank char List.mem_cons_self)
      | nil =>
          obtain ⟨sign, isSign, rfl⟩ := follows part rfl
          cases first
          have other : ∀ sign ∈ signs, isNumeral sign = false :=
            List.forall_iff_forall_mem.mp (by decide)
          exact other char isSign

theorem follows_listed {closing : Char} (isSign : closing ∈ signs) (lists : List (List Text))
    (more : List Text) : Follows (listed closing false lists ++ more) := by
  intro part first
  cases lists with
  | nil =>
      cases first
      exact ⟨closing, isSign, rfl⟩
  | cons =>
      cases first
      exact ⟨',', by decide, rfl⟩

/-! ## Steps of the reader -/

/-- What a reader recognises: it accepts what the given relation describes, and nothing else. -/
structure Recognizes (reader : Reader Fault Value) (Inner : List Text → Value → Prop) : Prop where
  sound {text rest : Text} {value : Value} (read : reader text = .ok (value, rest)) :
    ∃ parts, Inner parts value ∧ ∀ more, Spaced more rest → Spaced (parts ++ more) text
  complete {parts more : List Text} {text : Text} {value : Value} (inner : Inner parts value)
    (follows : Follows more) (spaced : Spaced (parts ++ more) text) :
    ∃ rest, reader text = .ok (value, rest) ∧ Spaced more rest

variable {text rest : Text} {first : Bool} {more : List Text}

theorem readIdentifier_eq_ok_iff {α : Type} {value result : α} {letters : Text} :
    readIdentifier value letters text = .ok (result, rest) ↔
      result = value ∧ text = letters ++ rest := by
  induction letters generalizing text with
  | nil => simp [readIdentifier, eq_comm]
  | cons letter letters ih =>
      cases text with
      | nil => simp [readIdentifier]
      | cons char text =>
          rw [readIdentifier]
          split
          · next same => simp [same, ih]
          · next other => simp [other]

theorem spaced_of_nextItem_done (next : nextItem first text = .ok (.done rest))
    (spaced : Spaced more rest) : Spaced ([']'] :: more) text := by
  unfold nextItem at next
  split at next
  · cases next
  · next skipped =>
    cases next
    exact .of_skipSpace_eq_append skipped spaced
  · split at next
    · cases next
    · split at next
      · split at next <;> cases next
      · cases next

theorem spaced_of_nextItem_more (next : nextItem first text = .ok (.more rest))
    (spaced : Spaced more rest) : Spaced ((if first then [] else [[',']]) ++ more) text := by
  unfold nextItem at next
  split at next
  · cases next
  · cases next
  · next skipped =>
    split at next
    · next isFirst =>
      cases next
      rw [if_pos isFirst]
      exact .of_skipSpace (skipped ▸ spaced)
    · next isLater =>
      split at next
      · next comma =>
        subst comma
        split at next
        · cases next
        · cases next
        · next =>
          cases next
          rw [if_neg isLater]
          exact .of_skipSpace_eq_append skipped spaced.of_skipSpace
      · cases next

theorem exists_nextItem_done (spaced : Spaced ([']'] :: more) text) :
    ∃ rest, nextItem first text = .ok (.done rest) ∧ Spaced more rest := by
  obtain ⟨rest, skipped, spaced⟩ := spaced.skipSpace_cons (solid_of_mem_signs (by decide))
  exact ⟨rest, by rw [nextItem, skipped]; rfl, spaced⟩

theorem exists_nextItem_more {char : Char} {others : Text} (solid : Solid (char :: others))
    (goesOn : char ≠ ']')
    (spaced : Spaced ((if first then [] else [[',']]) ++ ((char :: others) :: more)) text) :
    ∃ rest, nextItem first text = .ok (.more rest) ∧ Spaced ((char :: others) :: more) rest := by
  cases first with
  | true =>
      obtain ⟨rest, skipped, spaced⟩ := spaced.skipSpace_cons solid
      refine ⟨char :: (others ++ rest), ?_, spaced.start (char :: others)⟩
      rw [nextItem, skipped]
      simp
  | false =>
      obtain ⟨behind, skipped, spaced⟩ := spaced.skipSpace_cons (solid_of_mem_signs (by decide))
      obtain ⟨rest, skippedAgain, spaced⟩ := spaced.skipSpace_cons solid
      refine ⟨char :: (others ++ rest), ?_, spaced.start (char :: others)⟩
      rw [nextItem, skipped]
      simp [goesOn, skippedAgain]

theorem spaced_of_nextMember_done (next : nextMember first text = .ok (.done rest))
    (spaced : Spaced more rest) : Spaced (['}'] :: more) text := by
  unfold nextMember at next
  split at next
  · cases next
  · next skipped =>
    cases next
    exact .of_skipSpace_eq_append skipped spaced
  · split at next
    · split at next <;> cases next
    · split at next
      · split at next <;> cases next
      · cases next

/-- The reader looks for a member as far as the quote that opens its key. -/
theorem spaced_of_nextMember_more {key : Text}
    (next : nextMember first text = .ok (.more (key ++ rest))) (spaced : Spaced more rest) :
    Spaced ((if first then [] else [[',']]) ++ (('"' :: key) :: more)) text := by
  unfold nextMember at next
  split at next
  · cases next
  · cases next
  · next skipped =>
    split at next
    · next isFirst =>
      split at next
      · next quote =>
        subst quote
        cases next
        rw [if_pos isFirst]
        exact .of_skipSpace_eq_append skipped spaced
      · cases next
    · next isLater =>
      split at next
      · next comma =>
        subst comma
        split at next
        · cases next
        · next skippedAgain =>
          cases next
          rw [if_neg isLater]
          exact .of_skipSpace_eq_append skipped (.of_skipSpace_eq_append skippedAgain spaced)
        · cases next
        · cases next
      · cases next

theorem exists_nextMember_done (spaced : Spaced (['}'] :: more) text) :
    ∃ rest, nextMember first text = .ok (.done rest) ∧ Spaced more rest := by
  obtain ⟨rest, skipped, spaced⟩ := spaced.skipSpace_cons (solid_of_mem_signs (by decide))
  exact ⟨rest, by rw [nextMember, skipped]; rfl, spaced⟩

theorem exists_nextMember_more {key : Text} (solid : Solid ('"' :: key))
    (spaced : Spaced ((if first then [] else [[',']]) ++ (('"' :: key) :: more)) text) :
    ∃ rest, nextMember first text = .ok (.more (key ++ rest)) ∧ Spaced more rest := by
  cases first with
  | true =>
      obtain ⟨rest, skipped, spaced⟩ := spaced.skipSpace_cons solid
      refine ⟨rest, ?_, spaced⟩
      rw [nextMember, skipped]
      simp
  | false =>
      obtain ⟨behind, skipped, spaced⟩ := spaced.skipSpace_cons (solid_of_mem_signs (by decide))
      obtain ⟨rest, skippedAgain, spaced⟩ := spaced.skipSpace_cons solid
      refine ⟨rest, ?_, spaced⟩
      rw [nextMember, skipped]
      simp [skippedAgain]

theorem spaced_of_readColon (read : readColon text = .ok rest) (spaced : Spaced more rest) :
    Spaced ([':'] :: more) text := by
  unfold readColon at read
  split at read
  · cases read
  · next skipped =>
    cases read
    exact .of_skipSpace_eq_append skipped spaced
  · cases read

theorem exists_readColon (spaced : Spaced ([':'] :: more) text) :
    ∃ rest, readColon text = .ok rest ∧ Spaced more rest := by
  obtain ⟨rest, skipped, spaced⟩ := spaced.skipSpace_cons (solid_of_mem_signs (by decide))
  exact ⟨rest, by rw [readColon, skipped]; rfl, spaced⟩

/-! ## Items and members -/

section Containers

variable {depth : Nat} (recognizes : Recognizes (readValue depth) (Denotes depth))
include recognizes

theorem exists_of_readItems {fuel : Nat} {items : List Value}
    (read : readItems (readValue depth) fuel first text = .ok (items, rest)) :
    ∃ pairs : List (List Text × Value), (∀ pair ∈ pairs, Denotes depth pair.1 pair.2) ∧
      pairs.map Prod.snd = items ∧
      ∀ more, Spaced more rest → Spaced (listed ']' first (pairs.map Prod.fst) ++ more) text := by
  induction fuel generalizing first text rest items with
  | zero => cases read
  | succ fuel ih =>
      rw [readItems] at read
      obtain ⟨next, found, read⟩ := bind_eq_ok.mp read
      cases next with
      | done behind =>
          cases read
          exact ⟨[], List.forall_mem_nil _, rfl, fun more => spaced_of_nextItem_done found⟩
      | more behind =>
          obtain ⟨⟨item, behindItem⟩, readItem, read⟩ := bind_eq_ok.mp read
          obtain ⟨⟨others, last⟩, readOthers, read⟩ := bind_eq_ok.mp read
          cases read
          obtain ⟨parts, denotes, spacedItem⟩ := recognizes.sound readItem
          obtain ⟨pairs, each, rfl, spacedOthers⟩ := ih readOthers
          refine ⟨(parts, item) :: pairs, List.forall_mem_cons.mpr ⟨denotes, each⟩, rfl, ?_⟩
          intro more spaced
          have spaced := spaced_of_nextItem_more found (spacedItem _ (spacedOthers more spaced))
          simpa only [List.map_cons, listed, List.append_assoc] using spaced

/-- The fuel is not used up, since every item takes at least one character. -/
theorem exists_readItems {fuel : Nat} (enough : text.length < fuel)
    {pairs : List (List Text × Value)} (each : ∀ pair ∈ pairs, Denotes depth pair.1 pair.2)
    (spaced : Spaced (listed ']' first (pairs.map Prod.fst) ++ more) text) :
    ∃ rest, readItems (readValue depth) fuel first text = .ok (pairs.map Prod.snd, rest) ∧
      Spaced more rest := by
  induction pairs generalizing first text fuel with
  | nil =>
      obtain ⟨rest, found, spaced⟩ := exists_nextItem_done spaced
      cases fuel with
      | zero => cases enough
      | succ fuel => exact ⟨rest, by rw [readItems, found]; rfl, spaced⟩
  | cons pair pairs ih =>
      cases fuel with
      | zero => cases enough
      | succ fuel =>
          rw [List.forall_mem_cons] at each
          obtain ⟨char, others, further, equal, goesOn⟩ := each.1.exists_eq
          have solid := each.1.solid _ (equal ▸ List.mem_cons_self)
          rw [List.map_cons, listed, List.append_assoc, List.append_assoc, equal] at spaced
          obtain ⟨behind, found, spaced⟩ := exists_nextItem_more solid goesOn spaced
          have spaced : Spaced (pair.1 ++ (listed ']' false (pairs.map Prod.fst) ++ more)) behind :=
            equal ▸ spaced
          obtain ⟨behindItem, readItem, spaced⟩ :=
            recognizes.complete each.1 (follows_listed (by decide) _ more) spaced
          have shorter := length_le_of_nextItem_more found
          have weighs := consumesWeight_readValue depth readItem
          have positive := pair.2.weight_pos
          have left : behindItem.length < fuel := by omega
          obtain ⟨rest, readOthers, spaced⟩ := ih left each.2 spaced
          refine ⟨rest, ?_, spaced⟩
          rw [readItems]
          exact bind_eq_ok.mpr ⟨_, found, bind_eq_ok.mpr ⟨_, readItem,
            bind_eq_ok.mpr ⟨_, readOthers, rfl⟩⟩⟩

theorem exists_of_readMembers {fuel : Nat} {members : List Member}
    (read : readMembers (readValue depth) fuel first text = .ok (members, rest)) :
    ∃ entries : List Entry, (∀ entry ∈ entries, Scalar entry.quoted (.string entry.member.1)) ∧
      (∀ entry ∈ entries, Denotes depth entry.parts entry.member.2) ∧
      entries.map Entry.member = members ∧
      ∀ more, Spaced more rest →
        Spaced (listed '}' first (entries.map Entry.written) ++ more) text := by
  induction fuel generalizing first text rest members with
  | zero => cases read
  | succ fuel ih =>
      rw [readMembers] at read
      obtain ⟨next, found, read⟩ := bind_eq_ok.mp read
      cases next with
      | done behind =>
          cases read
          exact ⟨[], List.forall_mem_nil _, List.forall_mem_nil _, rfl,
            fun more => spaced_of_nextMember_done found⟩
      | more behind =>
          obtain ⟨⟨key, behindKey⟩, readKey, read⟩ := bind_eq_ok.mp read
          obtain ⟨behindColon, colon, read⟩ := bind_eq_ok.mp read
          obtain ⟨⟨value, behindValue⟩, readIt, read⟩ := bind_eq_ok.mp read
          obtain ⟨⟨others, last⟩, readOthers, read⟩ := bind_eq_ok.mp read
          cases read
          obtain ⟨body, rfl, literal⟩ := readString_eq_ok_iff.mp readKey
          obtain ⟨parts, denotes, spacedValue⟩ := recognizes.sound readIt
          obtain ⟨entries, keys, each, rfl, spacedOthers⟩ := ih readOthers
          let entry : Entry := ⟨'"' :: (body ++ ['"']), parts, (key, value)⟩
          refine ⟨entry :: entries, List.forall_mem_cons.mpr ⟨.string literal, keys⟩,
            List.forall_mem_cons.mpr ⟨denotes, each⟩, rfl, ?_⟩
          intro more spaced
          have spaced := spaced_of_readColon colon (spacedValue _ (spacedOthers more spaced))
          rw [← List.singleton_append, ← List.append_assoc] at found
          have spaced := spaced_of_nextMember_more found spaced
          simpa only [List.map_cons, listed, Entry.written, entry, List.append_assoc,
            List.cons_append] using spaced

theorem exists_readMembers {fuel : Nat} (enough : text.length < fuel) {entries : List Entry}
    (keys : ∀ entry ∈ entries, Scalar entry.quoted (.string entry.member.1))
    (each : ∀ entry ∈ entries, Denotes depth entry.parts entry.member.2)
    (spaced : Spaced (listed '}' first (entries.map Entry.written) ++ more) text) :
    ∃ rest, readMembers (readValue depth) fuel first text =
      .ok (entries.map Entry.member, rest) ∧ Spaced more rest := by
  induction entries generalizing first text fuel with
  | nil =>
      obtain ⟨rest, found, spaced⟩ := exists_nextMember_done spaced
      cases fuel with
      | zero => cases enough
      | succ fuel => exact ⟨rest, by rw [readMembers, found]; rfl, spaced⟩
  | cons entry entries ih =>
      cases fuel with
      | zero => cases enough
      | succ fuel =>
          rw [List.forall_mem_cons] at keys each
          obtain ⟨quoted, parts, key, value⟩ := entry
          have solid : Solid quoted := keys.1.solid
          obtain ⟨body, rfl, literal⟩ := keys.1.exists_literal
          rw [List.map_cons, listed, List.append_assoc, List.append_assoc, Entry.written,
            List.cons_append] at spaced
          obtain ⟨behind, found, spaced⟩ := exists_nextMember_more solid spaced
          obtain ⟨behindColon, colon, spaced⟩ := exists_readColon spaced
          obtain ⟨behindValue, readIt, spaced⟩ :=
            recognizes.complete each.1 (follows_listed (by decide) _ more) spaced
          have shorter := length_lt_of_nextMember_more found
          have shorterStill := length_lt_of_readColon colon
          have weighs := consumesWeight_readValue depth readIt
          simp only [List.length_append] at shorter
          have left : behindValue.length < fuel := by omega
          obtain ⟨rest, readOthers, spaced⟩ := ih left keys.2 each.2 spaced
          refine ⟨rest, ?_, spaced⟩
          rw [readMembers]
          refine bind_eq_ok.mpr ⟨_, found, bind_eq_ok.mpr ⟨(key, behind), ?_, ?_⟩⟩
          · rw [List.append_assoc]
            exact readString_eq_ok_iff.mpr ⟨body, rfl, literal⟩
          · exact bind_eq_ok.mpr ⟨_, colon, bind_eq_ok.mpr ⟨_, readIt,
              bind_eq_ok.mpr ⟨_, readOthers, rfl⟩⟩⟩

end Containers

/-! ## Values and documents -/

section Reader

variable {readArray readObject : Reader Fault Value} {value : Value} {parts : List Text}

/-- A digit starts a number. -/
theorem readValueWith_of_isDigit {char : Char} {others : Text} (digit : char.isDigit = true)
    (skipped : skipSpace text = char :: others) :
    readValueWith readArray readObject text =
      readUnsigned false (char :: others) >>= fun read => pure (.number read.1, read.2) := by
  have other {sign : Char} (noDigit : sign.isDigit = false) : char ≠ sign := by
    rintro rfl
    rw [digit] at noDigit
    cases noDigit
  unfold readValueWith
  rw [skipped]
  simp [other, digit]

/-- A scalar is read as what it denotes, whatever the readers for containers are. -/
theorem exists_readValueWith_of_scalar {part : Text} (scalar : Scalar part value)
    (follows : Follows more) (spaced : Spaced (part :: more) text) :
    ∃ rest, readValueWith readArray readObject text = .ok (value, rest) ∧ Spaced more rest := by
  obtain ⟨rest, skipped, others⟩ := spaced.skipSpace_cons scalar.solid
  refine ⟨rest, ?_, others⟩
  cases scalar with
  | null =>
      rw [readValueWith, skipped]
      rfl
  | bool value =>
      rw [readValueWith, skipped]
      cases value <;> rfl
  | string literal =>
      rw [readValueWith, skipped]
      refine bind_eq_ok.mpr ⟨_, readString_eq_ok_iff.mpr ⟨_, ?_, literal⟩, rfl⟩
      exact List.append_assoc ..
  | number numeral =>
      cases numeral with
      | negative takes =>
          rw [readValueWith, skipped]
          exact bind_eq_ok.mpr ⟨_, takes.reads rest (follows.stops others), rfl⟩
      | unsigned takes =>
          have read := takes.reads rest (follows.stops others)
          obtain ⟨char, behind, equal, digit⟩ := exists_of_readUnsigned read
          rw [readValueWith_of_isDigit digit (skipped.trans equal), ← equal]
          exact bind_eq_ok.mpr ⟨_, read, rfl⟩

theorem exists_readValueWith_of_bracket (spaced : Spaced (['['] :: more) text) :
    ∃ rest, readValueWith readArray readObject text = readArray rest ∧ Spaced more rest := by
  obtain ⟨rest, skipped, spaced⟩ := spaced.skipSpace_cons (solid_of_mem_signs (by decide))
  refine ⟨rest, ?_, spaced⟩
  unfold readValueWith
  rw [skipped]
  rfl

theorem exists_readValueWith_of_brace (spaced : Spaced (['{'] :: more) text) :
    ∃ rest, readValueWith readArray readObject text = readObject rest ∧ Spaced more rest := by
  obtain ⟨rest, skipped, spaced⟩ := spaced.skipSpace_cons (solid_of_mem_signs (by decide))
  refine ⟨rest, ?_, spaced⟩
  unfold readValueWith
  rw [skipped]
  rfl

/-- What is read is a scalar, or a container behind its opening sign. -/
theorem exists_of_readValueWith
    (read : readValueWith readArray readObject text = .ok (value, rest)) :
    (∃ part, Scalar part value ∧ ∀ more, Spaced more rest → Spaced (part :: more) text) ∨
      ∃ sign behind, (sign = '[' ∧ readArray behind = .ok (value, rest) ∨
        sign = '{' ∧ readObject behind = .ok (value, rest)) ∧
        ∀ more, Spaced more behind → Spaced ([sign] :: more) text := by
  have word {name : Value} {first : Char} {letters behind : Text}
      (skipped : skipSpace text = first :: behind)
      (read : readIdentifier name letters behind = .ok (value, rest)) :
      value = name ∧ ∀ more, Spaced more rest → Spaced ((first :: letters) :: more) text := by
    obtain ⟨same, rfl⟩ := readIdentifier_eq_ok_iff.mp read
    exact ⟨same, fun _ spaced => .of_skipSpace_eq_append skipped spaced⟩
  unfold readValueWith at read
  split at read
  · cases read
  · next skipped =>
    obtain ⟨rfl, spaced⟩ := word skipped read
    exact .inl ⟨_, .null, spaced⟩
  · next skipped =>
    obtain ⟨rfl, spaced⟩ := word skipped read
    exact .inl ⟨_, .bool true, spaced⟩
  · next skipped =>
    obtain ⟨rfl, spaced⟩ := word skipped read
    exact .inl ⟨_, .bool false, spaced⟩
  · next skipped =>
    obtain ⟨⟨string, behind⟩, readText, chosen⟩ := bind_eq_ok.mp read
    cases chosen
    obtain ⟨body, rfl, literal⟩ := readString_eq_ok_iff.mp readText
    refine .inl ⟨_, .string literal, fun more spaced => .of_skipSpace_eq_append ?_ spaced⟩
    rw [skipped, List.cons_append, List.append_assoc, List.singleton_append]
  · next skipped =>
    obtain ⟨⟨number, behind⟩, readNumber, chosen⟩ := bind_eq_ok.mp read
    cases chosen
    obtain ⟨numeral, rfl, takes⟩ := takesNumerals_readUnsigned readNumber
    exact .inl ⟨_, .number (.negative takes), fun _ => .of_skipSpace_eq_append skipped⟩
  · next skipped =>
    exact .inr ⟨'[', _, .inl ⟨rfl, read⟩, fun _ => .of_skipSpace_eq_append skipped⟩
  · next skipped =>
    exact .inr ⟨'{', _, .inr ⟨rfl, read⟩, fun _ => .of_skipSpace_eq_append skipped⟩
  · next skipped =>
    split at read
    · obtain ⟨⟨number, behind⟩, readNumber, chosen⟩ := bind_eq_ok.mp read
      cases chosen
      obtain ⟨numeral, equal, takes⟩ := takesNumerals_readUnsigned readNumber
      have found := skipped.trans equal
      exact .inl ⟨_, .number (.unsigned takes), fun _ => .of_skipSpace_eq_append found⟩
    · cases read

end Reader

/-- Where no container may be opened, the reader recognises scalars. -/
theorem recognizes_readValue_zero : Recognizes (readValue 0) (Denotes 0) := by
  constructor
  case sound =>
    intro text rest value read
    rcases exists_of_readValueWith read with
      ⟨part, scalar, spaced⟩ | ⟨_, _, ⟨-, refused⟩ | ⟨-, refused⟩, -⟩
    · exact ⟨[part], .scalar scalar, spaced⟩
    · cases refused
    · cases refused
  case complete =>
    intro parts more text value denotes follows spaced
    cases denotes with
    | scalar scalar => exact exists_readValueWith_of_scalar scalar follows spaced

/-- One more level of containers is recognised, if what they hold is. -/
theorem recognizes_readValue_succ {depth : Nat}
    (recognizes : Recognizes (readValue depth) (Denotes depth)) :
    Recognizes (readValue (depth + 1)) (Denotes (depth + 1)) := by
  constructor
  case sound =>
    intro text rest value read
    rcases exists_of_readValueWith read with
      ⟨part, scalar, spaced⟩ | ⟨_, behind, ⟨rfl, read⟩ | ⟨rfl, read⟩, spaced⟩
    · exact ⟨[part], .scalar scalar, spaced⟩
    · obtain ⟨⟨items, last⟩, readAll, chosen⟩ := bind_eq_ok.mp read
      cases chosen
      obtain ⟨pairs, each, rfl, spacedItems⟩ := exists_of_readItems recognizes readAll
      exact ⟨_, .array each, fun more isSpaced => spaced _ (spacedItems more isSpaced)⟩
    · obtain ⟨⟨members, last⟩, readAll, chosen⟩ := bind_eq_ok.mp read
      cases chosen
      obtain ⟨entries, keys, each, rfl, spacedMembers⟩ := exists_of_readMembers recognizes readAll
      exact ⟨_, .object keys each, fun more isSpaced => spaced _ (spacedMembers more isSpaced)⟩
  case complete =>
    intro parts more text value denotes follows spaced
    cases denotes with
    | scalar scalar => exact exists_readValueWith_of_scalar scalar follows spaced
    | array each =>
        obtain ⟨behind, same, spaced⟩ := exists_readValueWith_of_bracket spaced
        obtain ⟨rest, read, spaced⟩ :=
          exists_readItems recognizes (Nat.lt_succ_self behind.length) each spaced
        refine ⟨rest, ?_, spaced⟩
        rw [readValue, same]
        exact bind_eq_ok.mpr ⟨_, read, rfl⟩
    | object keys each =>
        obtain ⟨behind, same, spaced⟩ := exists_readValueWith_of_brace spaced
        obtain ⟨rest, read, spaced⟩ :=
          exists_readMembers recognizes (Nat.lt_succ_self behind.length) keys each spaced
        refine ⟨rest, ?_, spaced⟩
        rw [readValue, same]
        exact bind_eq_ok.mpr ⟨_, read, rfl⟩

/-- The reader of values recognises the parts of values that are not nested too deeply. -/
theorem recognizes_readValue (depth : Nat) : Recognizes (readValue depth) (Denotes depth) := by
  induction depth with
  | zero => exact recognizes_readValue_zero
  | succ depth ih => exact recognizes_readValue_succ ih

variable {parts : List Text} {value : Value}

/-- The reader accepts exactly the texts that hold the parts of a value. -/
theorem readDocument_eq_ok_iff :
    readDocument text = .ok value ↔
      ∃ parts, Spaced parts text ∧ Denotes nestingLimit parts value := by
  constructor
  · intro read
    obtain ⟨⟨result, rest⟩, readIt, chosen⟩ := bind_eq_ok.mp read
    dsimp only at chosen
    split at chosen
    · next skipped =>
      cases chosen
      obtain ⟨parts, denotes, spaced⟩ := (recognizes_readValue nestingLimit).sound readIt
      have ends : Spaced [] rest := .of_skipSpace (skipped ▸ .nil Space.nil)
      exact ⟨parts, by simpa using spaced [] ends, denotes⟩
    · cases chosen
  · rintro ⟨parts, spaced, denotes⟩
    rw [← List.append_nil parts] at spaced
    obtain ⟨rest, read, ends⟩ :=
      (recognizes_readValue nestingLimit).complete denotes (by simp [Follows]) spaced
    refine bind_eq_ok.mpr ⟨_, read, ?_⟩
    dsimp only
    rw [ends.skipSpace_nil]
    rfl

/-- A document is a text that holds the parts of a value. -/
theorem parse_eq_ok_iff :
    parse text = .ok value ↔ ∃ parts, Spaced parts text ∧ Denotes nestingLimit parts value := by
  rw [← readDocument_eq_ok_iff]
  constructor
  · intro parsed
    unfold parse at parsed
    split at parsed
    · cases parsed
    · split at parsed
      · next read =>
        cases parsed
        exact read
      · cases parsed
  · intro read
    obtain ⟨parts, spaced, denotes⟩ := readDocument_eq_ok_iff.mp read
    obtain ⟨_, _, _, notEmpty, -⟩ := denotes.exists_eq
    have inked := spaced.blank_eq_false denotes.solid (notEmpty ▸ List.cons_ne_nil _ _)
    rw [parse, inked, read]
    rfl

/-- No object of a document has two members with the same key. -/
theorem keyed_of_parse (read : parse text = .ok value) : value.Keyed := by
  obtain ⟨_, -, denotes⟩ := parse_eq_ok_iff.mp read
  exact denotes.keyed

end Reflow.Json
