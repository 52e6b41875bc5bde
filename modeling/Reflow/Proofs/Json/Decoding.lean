import Reflow.Json.Decode
import Reflow.Proofs.Json.Reading

/-!
# Decoders and the reader

A decoder takes from a text what the reader of values takes, as long as it takes anything, and it
accepts the values of its shape. So what is known about the reader carries over: a record that is
written as an object is decoded member by member, from the members that the reader finds.
-/

namespace Reflow.Json

variable {text rest : Text} {depth : Nat}

/-! ## What the reader finds, by its first character -/

theorem readValue_eq_string_iff {result : Text} :
    readValue depth text = .ok (.string result, rest) ↔
      ∃ behind, skipSpace text = '"' :: behind ∧ readString behind = .ok (result, rest) := by
  constructor
  · intro read
    cases depth <;> rw [readValue, readValueWith] at read <;> split at read <;> try split at read
    all_goals simp_all [readIdentifier_eq_ok_iff, bind_eq_ok, pure, Except.pure]
  · rintro ⟨behind, skipped, read⟩
    cases depth <;> rw [readValue, readValueWith, skipped] <;>
      exact bind_eq_ok.mpr ⟨_, read, rfl⟩

theorem readValue_eq_number_iff {number : Number} :
    readValue depth text = .ok (.number number, rest) ↔
      (∃ behind, skipSpace text = '-' :: behind ∧
        readUnsigned true behind = .ok (number, rest)) ∨
      ∃ char behind, skipSpace text = char :: behind ∧ char.isDigit = true ∧
        readUnsigned false (char :: behind) = .ok (number, rest) := by
  constructor
  · intro read
    cases depth <;> rw [readValue, readValueWith] at read <;> split at read <;> try split at read
    all_goals simp_all [readIdentifier_eq_ok_iff, bind_eq_ok, pure, Except.pure]
  · rintro (⟨behind, skipped, read⟩ | ⟨char, behind, skipped, digit, read⟩)
    · cases depth <;> rw [readValue, readValueWith, skipped] <;>
        exact bind_eq_ok.mpr ⟨_, read, rfl⟩
    · cases depth <;> rw [readValue, readValueWith_of_isDigit digit skipped] <;>
        exact bind_eq_ok.mpr ⟨_, read, rfl⟩

theorem readValue_eq_array_iff {items : List Value} :
    readValue (depth + 1) text = .ok (.array items, rest) ↔
      ∃ behind, skipSpace text = '[' :: behind ∧
        readItems (readValue depth) (behind.length + 1) true behind = .ok (items, rest) := by
  constructor
  · intro read
    rw [readValue, readValueWith] at read
    split at read <;> try split at read
    all_goals simp_all [readIdentifier_eq_ok_iff, bind_eq_ok, pure, Except.pure]
  · rintro ⟨behind, skipped, read⟩
    rw [readValue, readValueWith, skipped]
    exact bind_eq_ok.mpr ⟨_, read, rfl⟩

section Members

variable {readIt : Reader Fault Value} {fuel : Nat} {first : Bool} {members : List Member}

theorem readMembers_eq_nil_iff :
    readMembers readIt (fuel + 1) first text = .ok ([], rest) ↔
      nextMember first text = .ok (.done rest) := by
  rw [readMembers]
  constructor
  · intro read
    obtain ⟨next, found, read⟩ := bind_eq_ok.mp read
    cases next with
    | done behind =>
        cases read
        exact found
    | more behind => simp [bind_eq_ok, pure, Except.pure] at read
  · intro found
    exact bind_eq_ok.mpr ⟨_, found, rfl⟩

theorem readMembers_eq_cons_iff {key : Text} {value : Value} :
    readMembers readIt (fuel + 1) first text = .ok ((key, value) :: members, rest) ↔
      ∃ behind behindKey behindColon behindValue,
        nextMember first text = .ok (.more behind) ∧
        readString behind = .ok (key, behindKey) ∧ readColon behindKey = .ok behindColon ∧
        readIt behindColon = .ok (value, behindValue) ∧
        readMembers readIt fuel false behindValue = .ok (members, rest) := by
  rw [readMembers]
  constructor
  · intro read
    obtain ⟨next, found, read⟩ := bind_eq_ok.mp read
    cases next with
    | done behind => cases read
    | more behind =>
        obtain ⟨⟨ownKey, behindKey⟩, readKey, read⟩ := bind_eq_ok.mp read
        obtain ⟨behindColon, colon, read⟩ := bind_eq_ok.mp read
        obtain ⟨⟨ownValue, behindValue⟩, readValue, read⟩ := bind_eq_ok.mp read
        obtain ⟨⟨others, last⟩, readOthers, read⟩ := bind_eq_ok.mp read
        cases read
        exact ⟨_, _, _, _, found, readKey, colon, readValue, readOthers⟩
  · rintro ⟨behind, behindKey, behindColon, behindValue, found, readKey, colon, readValue,
      readOthers⟩
    exact bind_eq_ok.mpr ⟨_, found, bind_eq_ok.mpr ⟨_, readKey, bind_eq_ok.mpr ⟨_, colon,
      bind_eq_ok.mpr ⟨_, readValue, bind_eq_ok.mpr ⟨_, readOthers, rfl⟩⟩⟩⟩⟩

end Members

/-- An object with one member is read behind its brace, from its key and its value. -/
theorem readValue_of_single {behind inside key behindKey behindColon behindValue : Text}
    {value : Value} (skipped : skipSpace text = '{' :: behind)
    (quote : skipSpace behind = '"' :: inside) (readKey : readString inside = .ok (key, behindKey))
    (colon : readColon behindKey = .ok behindColon)
    (readIt : readValue depth behindColon = .ok (value, behindValue))
    (closed : skipSpace behindValue = '}' :: rest) :
    readValue (depth + 1) text = .ok (.object [(key, value)], rest) := by
  have found : nextMember true behind = .ok (.more inside) := by
    rw [nextMember, quote]
    rfl
  have ends : nextMember false behindValue = .ok (.done rest) := by
    rw [nextMember, closed]
    rfl
  rw [readValue, readValueWith, skipped]
  refine bind_eq_ok.mpr ⟨([(key, value)], rest), ?_, rfl⟩
  cases behind with
  | nil => cases quote
  | cons char others =>
      exact readMembers_eq_cons_iff.mpr
        ⟨_, _, _, _, found, readKey, colon, readIt, readMembers_eq_nil_iff.mpr ends⟩

/-! ## Steps of decoders -/

section Steps

variable {α : Type} {value : α}

theorem mapError_eq_ok_iff {ε δ : Type} {outcome : Except ε α} {change : ε → δ} :
    outcome.mapError change = .ok value ↔ outcome = .ok value := by
  cases outcome <;> simp [Except.mapError]

theorem lift_eq_ok_iff {outcome : Except (ReadError Fault) α} :
    lift outcome = .ok value ↔ outcome = .ok value :=
  mapError_eq_ok_iff

/-- A decoder that refuses a value takes nothing. -/
theorem refuse_ne_ok (wanted : String) (text : Text) : refuse wanted text ≠ .ok value := by
  intro refused
  obtain ⟨_, -, refused⟩ := bind_eq_ok.mp refused
  cases refused

theorem decodeNext_eq_ok_iff {decode : Decoder α} :
    decodeNext decode text = .ok (value, rest) ↔
      skipSpace text ≠ [] ∧ decode (skipSpace text) = .ok (value, rest) := by
  rw [decodeNext]
  split
  · next skipped => simp [skipped]
  · next skipped => exact (and_iff_right skipped).symm

end Steps

/-- A decoder takes only what the reader takes as well, and it takes every value of its shape as
what this value stands for. -/
structure Decodes {α : Type} (depth : Nat) (decode : Decoder α) (Shape : Value → α → Prop) :
    Prop where
  sound {text rest : Text} {result : α} (decoded : decode text = .ok (result, rest)) :
    ∃ value, readValue depth text = .ok (value, rest)
  complete {text rest : Text} {value : Value} {result : α} (shape : Shape value result)
    (read : readValue depth text = .ok (value, rest)) : decode text = .ok (result, rest)

section Decoders

variable {α : Type} {decode : Decoder α} {Shape : Value → α → Prop}

theorem decodeTextAs_eq_ok_iff {wanted : String} {result : Text} :
    decodeTextAs wanted text = .ok (result, rest) ↔
      ∃ behind, skipSpace text = '"' :: behind ∧ readString behind = .ok (result, rest) := by
  rw [decodeTextAs, decodeNext_eq_ok_iff]
  split
  · next behind skipped => simp [skipped, lift_eq_ok_iff]
  · next noQuote =>
    simp only [refuse_ne_ok, and_false, false_iff]
    rintro ⟨behind, skipped, -⟩
    exact noQuote behind skipped

theorem decodes_text : Decodes depth decodeText fun value result => value = .string result where
  sound decoded := ⟨_, readValue_eq_string_iff.mpr (decodeTextAs_eq_ok_iff.mp decoded)⟩
  complete := by
    rintro _ _ _ _ rfl read
    exact decodeTextAs_eq_ok_iff.mpr (readValue_eq_string_iff.mp read)

theorem sizeOf_eq_ok_iff {wanted : String} {number : Number} {size : Nat} {behind : Text} :
    sizeOf wanted number behind = .ok (size, rest) ↔
      number = .integer (Int.ofNat size) ∧ rest = behind := by
  cases number with
  | double value => simp [Json.sizeOf]
  | integer value =>
      cases value with
      | ofNat found =>
          rw [Json.sizeOf, Except.ok.injEq, Prod.mk.injEq, Number.integer.injEq, Int.ofNat.injEq,
            eq_comm (a := behind)]
      | negSucc less => simp [Json.sizeOf]

/-- Sizes are decoded from integers that are not negative. -/
theorem decodes_size :
    Decodes depth decodeSize fun value size => value = .number (.integer (Int.ofNat size)) where
  sound decoded := by
    obtain ⟨-, decoded⟩ := decodeNext_eq_ok_iff.mp decoded
    dsimp only at decoded
    split at decoded
    · next behind skipped =>
      obtain ⟨⟨number, last⟩, read, sized⟩ := bind_eq_ok.mp decoded
      obtain ⟨rfl, rfl⟩ := sizeOf_eq_ok_iff.mp sized
      exact ⟨_, readValue_eq_number_iff.mpr (.inl ⟨behind, skipped, lift_eq_ok_iff.mp read⟩)⟩
    · next char behind _ skipped =>
      split at decoded
      · next digit =>
        obtain ⟨⟨number, last⟩, read, sized⟩ := bind_eq_ok.mp decoded
        obtain ⟨rfl, rfl⟩ := sizeOf_eq_ok_iff.mp sized
        exact ⟨_, readValue_eq_number_iff.mpr
          (.inr ⟨char, behind, skipped, digit, lift_eq_ok_iff.mp read⟩)⟩
      · exact absurd decoded (refuse_ne_ok _ _)
    · exact absurd decoded (refuse_ne_ok _ _)
  complete := by
    rintro _ _ _ size rfl read
    rw [decodeSize, decodeNext_eq_ok_iff]
    rcases readValue_eq_number_iff.mp read with
      ⟨behind, skipped, read⟩ | ⟨char, behind, skipped, digit, read⟩
    · rw [skipped]
      refine ⟨List.cons_ne_nil _ _, bind_eq_ok.mpr ⟨_, lift_eq_ok_iff.mpr read, ?_⟩⟩
      exact sizeOf_eq_ok_iff.mpr ⟨rfl, rfl⟩
    · rw [skipped]
      refine ⟨List.cons_ne_nil _ _, ?_⟩
      have noSign : char ≠ '-' := by
        rintro rfl
        cases digit
      simp only [digit, if_true]
      refine bind_eq_ok.mpr ⟨_, lift_eq_ok_iff.mpr read, ?_⟩
      exact sizeOf_eq_ok_iff.mpr ⟨rfl, rfl⟩

/-- Items are decoded where the reader finds them. -/
theorem exists_readItems_of_decodeItems (decodes : Decodes depth decode Shape) {fuel : Nat}
    {first : Bool} {results : List α}
    (decoded : decodeItems decode fuel first text = .ok (results, rest)) :
    ∃ items, readItems (readValue depth) fuel first text = .ok (items, rest) := by
  induction fuel generalizing first text rest results with
  | zero => cases decoded
  | succ fuel ih =>
      rw [decodeItems] at decoded
      obtain ⟨next, found, decoded⟩ := bind_eq_ok.mp decoded
      rw [lift_eq_ok_iff] at found
      rw [readItems]
      cases next with
      | done behind =>
          cases decoded
          exact ⟨[], bind_eq_ok.mpr ⟨_, found, rfl⟩⟩
      | more behind =>
          obtain ⟨⟨item, behindItem⟩, decodeItem, decoded⟩ := bind_eq_ok.mp decoded
          obtain ⟨⟨others, last⟩, decodeOthers, decoded⟩ := bind_eq_ok.mp decoded
          cases decoded
          obtain ⟨value, readItem⟩ := decodes.sound decodeItem
          obtain ⟨items, readOthers⟩ := ih decodeOthers
          exact ⟨value :: items, bind_eq_ok.mpr ⟨_, found, bind_eq_ok.mpr ⟨_, readItem,
            bind_eq_ok.mpr ⟨_, readOthers, rfl⟩⟩⟩⟩

theorem decodeItems_of_readItems (decodes : Decodes depth decode Shape) {fuel : Nat}
    {first : Bool} {items : List Value} {results : List α}
    (shapes : List.Forall₂ Shape items results)
    (read : readItems (readValue depth) fuel first text = .ok (items, rest)) :
    decodeItems decode fuel first text = .ok (results, rest) := by
  induction fuel generalizing first text rest items results with
  | zero => cases read
  | succ fuel ih =>
      rw [readItems] at read
      obtain ⟨next, found, read⟩ := bind_eq_ok.mp read
      have found := lift_eq_ok_iff.mpr found
      rw [decodeItems]
      cases next with
      | done behind =>
          cases read
          cases shapes
          exact bind_eq_ok.mpr ⟨_, found, rfl⟩
      | more behind =>
          obtain ⟨⟨item, behindItem⟩, readItem, read⟩ := bind_eq_ok.mp read
          obtain ⟨⟨others, last⟩, readOthers, read⟩ := bind_eq_ok.mp read
          cases read
          cases shapes with
          | cons shape shapes =>
              exact bind_eq_ok.mpr ⟨_, found, bind_eq_ok.mpr ⟨_, decodes.complete shape readItem,
                bind_eq_ok.mpr ⟨_, ih shapes readOthers, rfl⟩⟩⟩

/-- Lists are decoded from arrays, item by item. -/
theorem decodes_list (decodes : Decodes depth decode Shape) :
    Decodes (depth + 1) (decodeList decode) fun value results =>
      ∃ items, value = .array items ∧ List.Forall₂ Shape items results where
  sound decoded := by
    obtain ⟨-, decoded⟩ := decodeNext_eq_ok_iff.mp decoded
    split at decoded
    · next behind skipped =>
      obtain ⟨items, read⟩ := exists_readItems_of_decodeItems decodes decoded
      exact ⟨_, readValue_eq_array_iff.mpr ⟨behind, skipped, read⟩⟩
    · exact absurd decoded (refuse_ne_ok _ _)
  complete := by
    rintro _ _ _ _ ⟨items, rfl, shapes⟩ read
    obtain ⟨behind, skipped, read⟩ := readValue_eq_array_iff.mp read
    rw [decodeList, decodeNext_eq_ok_iff, skipped]
    exact ⟨List.cons_ne_nil _ _, decodeItems_of_readItems decodes shapes read⟩

theorem decodeName_eq_ok_iff {names : List (String × α)} {wanted : String} {result : α} :
    decodeName names wanted text = .ok (result, rest) ↔
      ∃ name spelled, decodeTextAs wanted text = .ok (name, rest) ∧
        names.find? (·.1.toList == name) = some (spelled, result) := by
  constructor
  · intro decoded
    obtain ⟨⟨name, behind⟩, decodedText, chosen⟩ := bind_eq_ok.mp decoded
    dsimp only at chosen
    split at chosen
    · next spelled value found =>
      cases chosen
      exact ⟨name, spelled, decodedText, found⟩
    · cases chosen
  · rintro ⟨name, spelled, decodedText, found⟩
    refine bind_eq_ok.mpr ⟨_, decodedText, ?_⟩
    simp only [found]
    rfl

theorem readValue_of_decodeUnit (decoded : decodeUnit text = .ok ((), rest)) :
    readValue depth text = .ok (.null, rest) := by
  obtain ⟨-, decoded⟩ := decodeNext_eq_ok_iff.mp decoded
  split at decoded
  · next behind skipped =>
    obtain ⟨-, rfl⟩ := readIdentifier_eq_ok_iff.mp (lift_eq_ok_iff.mp decoded)
    cases depth <;> rw [readValue, readValueWith, skipped] <;>
      exact readIdentifier_eq_ok_iff.mpr ⟨rfl, rfl⟩
  · exact absurd decoded (refuse_ne_ok _ _)

/-- A choice is decoded from the string of its name, and maybe from an object. -/
theorem decodes_choice (names : List (String × α)) :
    Decodes (depth + 1) (decodeChoice names) fun value result =>
      ∃ name spelled, value = .string name ∧
        names.find? (·.1.toList == name) = some (spelled, result) where
  sound {text rest result} decoded := by
    obtain ⟨-, decoded⟩ := decodeNext_eq_ok_iff.mp decoded
    split at decoded
    · next behind skipped =>
      obtain ⟨name, spelled, decodedText, -⟩ := decodeName_eq_ok_iff.mp decoded
      rw [skipped] at decodedText
      obtain ⟨last, same, read⟩ := decodeTextAs_eq_ok_iff.mp decodedText
      exact ⟨_, readValue_eq_string_iff.mpr ⟨last, skipped.trans same, read⟩⟩
    · next behind skipped =>
      -- The object has one member, which is a null.
      obtain ⟨⟨value, behindName⟩, decodedName, decoded⟩ := bind_eq_ok.mp decoded
      obtain ⟨behindColon, colon, decoded⟩ := bind_eq_ok.mp decoded
      obtain ⟨⟨⟨⟩, behindNull⟩, decodedNull, decoded⟩ := bind_eq_ok.mp decoded
      obtain ⟨name, spelled, decodedText, -⟩ := decodeName_eq_ok_iff.mp decodedName
      obtain ⟨inside, quote, readKey⟩ := decodeTextAs_eq_ok_iff.mp decodedText
      dsimp only at decoded
      split at decoded
      · cases decoded
      · next last closed =>
        cases decoded
        exact ⟨_, readValue_of_single skipped quote readKey (lift_eq_ok_iff.mp colon)
          (readValue_of_decodeUnit decodedNull) closed⟩
      · cases decoded
    · cases decoded
  complete := by
    rintro text rest _ result ⟨name, spelled, rfl, found⟩ read
    obtain ⟨behind, skipped, read⟩ := readValue_eq_string_iff.mp read
    rw [decodeChoice, decodeNext_eq_ok_iff, skipped]
    refine ⟨List.cons_ne_nil _ _, decodeName_eq_ok_iff.mpr ⟨name, spelled, ?_, found⟩⟩
    exact decodeTextAs_eq_ok_iff.mpr ⟨behind, rfl, read⟩

end Decoders

/-! ## Records -/

namespace RecordShape

variable {σ : Type} {shape : RecordShape σ} {seen : List String} {record result : σ}

/-- What members make of a record that is decoded from them one by one: each is taken by the field
with its key, which must not have been there before, and no required field is missing in the end. -/
inductive Enters (depth : Nat) (shape : RecordShape σ) :
    (seen : List String) → σ → List Member → σ → Prop where
  | done {seen : List String} {record : σ}
      (complete : (shape.fields.find? fun field => field.required && !seen.contains field.name) =
        none) : Enters depth shape seen record [] record
  | member {seen : List String} {record next result : σ} {key : Text} {value : Value}
      {members : List Member} {field : RecordField σ}
      (known : shape.fields.find? (·.name.toList == key) = some field)
      (new : seen.contains field.name = false)
      (takes : ∀ {text rest : Text}, readValue depth text = .ok (value, rest) →
        field.decode record text = .ok (next, rest))
      (others : Enters depth shape (field.name :: seen) next members result) :
      Enters depth shape seen record ((key, value) :: members) result

/-- A record is decoded from the members that the reader finds. -/
theorem decodeMembers_of_readMembers {members : List Member}
    (enters : Enters depth shape seen record members result) {fuel : Nat} {first : Bool}
    (read : readMembers (readValue depth) fuel first text = .ok (members, rest)) :
    shape.decodeMembers fuel first seen record text = .ok (result, rest) := by
  induction enters generalizing fuel first text with
  | done complete =>
      cases fuel with
      | zero => cases read
      | succ fuel =>
          rw [readMembers_eq_nil_iff] at read
          rw [decodeMembers]
          refine bind_eq_ok.mpr ⟨_, lift_eq_ok_iff.mpr read, ?_⟩
          simp only [complete]
          rfl
  | member known new takes _ ih =>
      cases fuel with
      | zero => cases read
      | succ fuel =>
          obtain ⟨behind, behindKey, behindColon, behindValue, found, readKey, colon, readIt,
            readOthers⟩ := readMembers_eq_cons_iff.mp read
          rw [decodeMembers]
          refine bind_eq_ok.mpr ⟨_, lift_eq_ok_iff.mpr found, ?_⟩
          refine bind_eq_ok.mpr ⟨_, lift_eq_ok_iff.mpr readKey, ?_⟩
          simp only [known, new]
          refine bind_eq_ok.mpr ⟨_, lift_eq_ok_iff.mpr colon, ?_⟩
          exact bind_eq_ok.mpr ⟨_, takes readIt, ih readOthers⟩

/-- A record that is decoded from an object has known keys only, and each of them once. -/
theorem exists_readMembers_of_decodeMembers (strict : shape.lenient = false)
    (sound : ∀ field ∈ shape.fields, ∀ {record next : σ} {text rest : Text},
      field.decode record text = .ok (next, rest) →
      ∃ value, readValue depth text = .ok (value, rest))
    {fuel : Nat} {first : Bool}
    (decoded : shape.decodeMembers fuel first seen record text = .ok (result, rest)) :
    ∃ members, readMembers (readValue depth) fuel first text = .ok (members, rest) ∧
      (members.map Prod.fst).Nodup ∧
      (∀ key ∈ members.map Prod.fst, key ∈ shape.fields.map (·.name.toList)) ∧
      ∀ key ∈ members.map Prod.fst, key ∉ seen.map String.toList := by
  induction fuel generalizing first seen record text with
  | zero => cases decoded
  | succ fuel ih =>
      rw [decodeMembers] at decoded
      obtain ⟨next, found, decoded⟩ := bind_eq_ok.mp decoded
      rw [lift_eq_ok_iff] at found
      cases next with
      | done behind =>
          dsimp only at decoded
          split at decoded
          · cases decoded
          · cases decoded
            exact ⟨[], readMembers_eq_nil_iff.mpr found, List.nodup_nil, List.forall_mem_nil _,
              List.forall_mem_nil _⟩
      | more behind =>
          obtain ⟨⟨key, behindKey⟩, readKey, decoded⟩ := bind_eq_ok.mp decoded
          rw [lift_eq_ok_iff] at readKey
          dsimp only at decoded
          split at decoded
          · next field isKnown =>
            have isField := List.mem_of_find?_eq_some isKnown
            have named : field.name.toList = key := by simpa using List.find?_some isKnown
            split at decoded
            · cases decoded
            · next new =>
              obtain ⟨behindColon, colon, decoded⟩ := bind_eq_ok.mp decoded
              obtain ⟨⟨entered, behindValue⟩, decodeIt, decoded⟩ := bind_eq_ok.mp decoded
              rw [lift_eq_ok_iff] at colon
              obtain ⟨value, readIt⟩ := sound field isField decodeIt
              obtain ⟨members, readOthers, distinct, known, unseen⟩ := ih decoded
              refine ⟨(key, value) :: members, ?_, ?_, ?_, ?_⟩
              · exact readMembers_eq_cons_iff.mpr
                  ⟨_, _, _, _, found, readKey, colon, readIt, readOthers⟩
              · refine List.nodup_cons.mpr ⟨fun again => ?_, distinct⟩
                exact unseen key again (named ▸ List.mem_cons_self)
              · refine List.forall_mem_cons.mpr ⟨?_, known⟩
                exact List.mem_map.mpr ⟨field, isField, named⟩
              · refine List.forall_mem_cons.mpr ⟨?_, fun other listed before => ?_⟩
                · intro before
                  obtain ⟨name, isSeen, same⟩ := List.mem_map.mp before
                  rw [← named, String.toList_inj] at same
                  exact new (List.contains_iff_mem.mpr (same ▸ isSeen))
                · exact unseen other listed (List.mem_cons_of_mem _ before)
          · rw [strict] at decoded
            cases decoded

end RecordShape

/-! ## Documents that hold a record -/

/-- A text that holds an object, its members being those of the entries and written like them, with
blanks before, between and behind its parts. -/
structure HoldsObject (depth : Nat) (entries : List Entry) (text : Text) : Prop where
  spaced : Spaced (['{'] :: listed '}' true (entries.map Entry.written)) text
  keys : ∀ entry ∈ entries, Scalar entry.quoted (.string entry.member.1)
  values : ∀ entry ∈ entries, Denotes depth entry.parts entry.member.2

/-- The reader finds the members of an object one by one, before it collects them. -/
theorem exists_holdsObject_iff {members : List Member} :
    (∃ entries, HoldsObject depth entries text ∧ entries.map Entry.member = members) ↔
      ∃ behind rest, skipSpace text = '{' :: behind ∧
        readMembers (readValue depth) (behind.length + 1) true behind = .ok (members, rest) ∧
        skipSpace rest = [] := by
  constructor
  · rintro ⟨entries, holds, rfl⟩
    obtain ⟨behind, skipped, spaced⟩ :=
      holds.spaced.skipSpace_cons (solid_of_mem_signs (by decide))
    rw [← List.append_nil (listed _ _ _)] at spaced
    obtain ⟨rest, read, ends⟩ := exists_readMembers (recognizes_readValue depth)
      (Nat.lt_succ_self behind.length) holds.keys holds.values spaced
    exact ⟨behind, rest, skipped, read, ends.skipSpace_nil⟩
  · rintro ⟨behind, rest, skipped, read, ends⟩
    obtain ⟨entries, keys, values, same, spaced⟩ :=
      exists_of_readMembers (recognizes_readValue depth) read
    have ended : Spaced [] rest := .of_skipSpace (ends ▸ .nil Space.nil)
    have written := spaced [] ended
    rw [List.append_nil] at written
    exact ⟨entries, ⟨.of_skipSpace_eq_append skipped written, keys, values⟩, same⟩

theorem decodeDocument_eq_ok_iff {α : Type} {decode : Decoder α} {result : α} :
    decodeDocument decode text = .ok result ↔
      ∃ rest, decode text = .ok (result, rest) ∧ skipSpace rest = [] := by
  rw [decodeDocument, mapError_eq_ok_iff, bind_eq_ok]
  constructor
  · rintro ⟨⟨value, rest⟩, decoded, chosen⟩
    dsimp only at chosen
    split at chosen
    · next ends =>
      cases chosen
      exact ⟨rest, decoded, ends⟩
    · cases chosen
  · rintro ⟨rest, decoded, ends⟩
    refine ⟨(result, rest), decoded, ?_⟩
    simp only [ends]
    rfl

namespace RecordShape

variable {σ : Type} {shape : RecordShape σ} {entries : List Entry} {result : σ}

/-- A document that holds an object is decoded as what its members make of the initial record. -/
theorem decodeDocument_of_enters (holds : HoldsObject depth entries text)
    (enters : Enters depth shape [] shape.initial (entries.map Entry.member) result) :
    decodeDocument shape.decode text = .ok result := by
  obtain ⟨behind, rest, skipped, read, ends⟩ := exists_holdsObject_iff.mp ⟨entries, holds, rfl⟩
  refine decodeDocument_eq_ok_iff.mpr ⟨rest, ?_, ends⟩
  rw [decode, decodeNext_eq_ok_iff, skipped]
  exact ⟨List.cons_ne_nil _ _, decodeMembers_of_readMembers enters read⟩

/-- An object that is decoded has known keys only, and each of them once. -/
theorem keys_of_decodeDocument (strict : shape.lenient = false)
    (sound : ∀ field ∈ shape.fields, ∀ {record next : σ} {text rest : Text},
      field.decode record text = .ok (next, rest) →
      ∃ value, readValue depth text = .ok (value, rest))
    (holds : HoldsObject depth entries text)
    (decoded : decodeDocument shape.decode text = .ok result) :
    (entries.map (·.member.1)).Nodup ∧
      ∀ entry ∈ entries, entry.member.1 ∈ shape.fields.map (·.name.toList) := by
  obtain ⟨behind, rest, skipped, read, ends⟩ := exists_holdsObject_iff.mp ⟨entries, holds, rfl⟩
  obtain ⟨last, decoded, -⟩ := decodeDocument_eq_ok_iff.mp decoded
  rw [decode, decodeNext_eq_ok_iff, skipped] at decoded
  obtain ⟨members, readAgain, distinct, known, -⟩ :=
    exists_readMembers_of_decodeMembers strict sound decoded.2
  rw [read] at readAgain
  cases readAgain
  rw [List.map_map] at distinct known
  exact ⟨distinct, List.forall_mem_map.mp known⟩

end RecordShape

end Reflow.Json
