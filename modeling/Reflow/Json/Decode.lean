import Reflow.Json.Ignore
import Reflow.Json.Printer
import Reflow.Text.Visible

/-!
# Decoding documents of a known shape

Some documents are not read for their values but for settings of a known shape: texts, sizes, lists
and records. A decoder takes the start of a text like a reader and also complains when a value has
not the shape that is wanted. A record may be written as an object or as an array of its fields in
order.
-/

namespace Reflow.Json

/-- What was found where something else was wanted. -/
inductive Found where
  | null
  | bool (value : Bool)
  | number (value : Number)
  | string (text : Text)
  | sequence
  | map
deriving DecidableEq, Repr

namespace Found

/-- What was found, as a message says it. -/
def message : Found → String
  | .null => "null"
  | .bool value => "boolean `" ++ String.ofList (writeBool value) ++ "`"
  | .number (.integer value) => "integer `" ++ String.ofList (writeInteger value) ++ "`"
  | .number (.double value) =>
      "floating point `" ++ String.ofList (value.write numberStyle) ++ "`"
  | .string text => "string " ++ String.ofList text.visible
  | .sequence => "sequence"
  | .map => "map"

end Found

/-- Why a document does not have the wanted shape. -/
inductive DecodeFault where
  /-- It is no JSON to begin with. -/
  | malformed (fault : Fault)
  | invalidType (found : Found) (wanted : String)
  | invalidValue (found : Found) (wanted : String)
  | invalidLength (length : Nat) (wanted : String)
  | unknownField (name : Text) (known : List String)
  | duplicateField (name : String)
  | missingField (name : String)
  | unknownVariant (name : Text) (known : List String)
deriving DecidableEq, Repr

namespace DecodeFault

/-- A name in a message. -/
def quoteName (name : String) : String :=
  "`" ++ name ++ "`"

/-- Names to choose from in a message. -/
def choices : List String → String
  | [] => ""
  | [only] => quoteName only
  | [first, second] => quoteName first ++ " or " ++ quoteName second
  | names => "one of " ++ String.intercalate ", " (names.map quoteName)

/-- The wording of a fault. -/
def message : DecodeFault → String
  | .malformed fault => fault.message
  | .invalidType found wanted => "invalid type: " ++ found.message ++ ", expected " ++ wanted
  | .invalidValue found wanted => "invalid value: " ++ found.message ++ ", expected " ++ wanted
  | .invalidLength length wanted =>
      "invalid length " ++ toString length ++ ", expected " ++ wanted
  | .unknownField name known =>
      "unknown field " ++ quoteName (String.ofList name) ++ ", expected " ++ choices known
  | .duplicateField name => "duplicate field " ++ quoteName name
  | .missingField name => "missing field " ++ quoteName name
  | .unknownVariant name known =>
      "unknown variant " ++ quoteName (String.ofList name) ++ ", expected " ++ choices known

end DecodeFault

/-- Why and where a document does not have the wanted shape. -/
structure DecodeError where
  fault : DecodeFault
  place : Location
deriving DecidableEq, Repr

namespace DecodeError

/-- The wording of an error. -/
def message (error : DecodeError) : String :=
  error.fault.message ++ " at line " ++ toString error.place.line ++ " column " ++
    toString error.place.column

end DecodeError

/-- Reads the start of a text for a value of a wanted shape. -/
abbrev Decoder (α : Type) := Reader DecodeFault α

/-- An error of reading as an error of decoding. -/
def ReadError.malformed (error : ReadError Fault) : ReadError DecodeFault :=
  { error with fault := .malformed error.fault }

/-- The outcome of reading as an outcome of decoding. -/
def lift {α : Type} (outcome : Except (ReadError Fault) α) : Except (ReadError DecodeFault) α :=
  outcome.mapError ReadError.malformed

/-- What is read in a text that starts with a value other than wanted. A scalar is read up to its
end; of a container only its start is looked at. -/
def readFound (text : Text) : Except (ReadError Fault) (Found × Text) :=
  match text with
  | 'n' :: rest => readIdentifier .null ['u', 'l', 'l'] rest
  | 't' :: rest => readIdentifier (.bool true) ['r', 'u', 'e'] rest
  | 'f' :: rest => readIdentifier (.bool false) ['a', 'l', 's', 'e'] rest
  | '-' :: rest => (readUnsigned true rest).map fun (number, rest) => (.number number, rest)
  | '"' :: rest => (readString rest).map fun (text, rest) => (.string text, rest)
  | '[' :: rest => .ok (.sequence, '[' :: rest)
  | '{' :: rest => .ok (.map, '{' :: rest)
  | [] => .error (.before .expectedValue [])
  | char :: rest =>
      if char.isDigit then
        (readUnsigned false (char :: rest)).map fun (number, rest) => (.number number, rest)
      else .error (.atNext .expectedValue (char :: rest))

/-- Complain about a value that is not of the wanted type. -/
def refuse {α : Type} (wanted : String) (text : Text) : Except (ReadError DecodeFault) α := do
  let (found, rest) ← lift (readFound text)
  .error (.before (.invalidType found wanted) rest)

/-- Decode what follows the blanks at the start of a text, provided that something does. -/
def decodeNext {α : Type} (decode : Decoder α) : Decoder α := fun text =>
  match skipSpace text with
  | [] => .error (.before (.malformed .endInValue) [])
  | rest => decode rest

/-- Decode a boolean. -/
def decodeBool : Decoder Bool := decodeNext fun text =>
  match text with
  | 't' :: rest => lift (readIdentifier true ['r', 'u', 'e'] rest)
  | 'f' :: rest => lift (readIdentifier false ['a', 'l', 's', 'e'] rest)
  | text => refuse "a boolean" text

/-- Decode a string, called `wanted` in messages. -/
def decodeTextAs (wanted : String) : Decoder Text := decodeNext fun text =>
  match text with
  | '"' :: rest => lift (readString rest)
  | text => refuse wanted text

/-- Decode a string. -/
def decodeText : Decoder Text :=
  decodeTextAs "a string"

/-- Decode nothing, written as a null. -/
def decodeUnit : Decoder Unit := decodeNext fun text =>
  match text with
  | 'n' :: rest => lift (readIdentifier () ['u', 'l', 'l'] rest)
  | text => refuse "unit" text

/-- Take a number for a size: it has to be an integer and not negative. -/
def sizeOf (wanted : String) (number : Number) (rest : Text) :
    Except (ReadError DecodeFault) (Nat × Text) :=
  match number with
  | .integer (.ofNat size) => .ok (size, rest)
  | .integer value => .error (.before (.invalidValue (.number (.integer value)) wanted) rest)
  | .double value => .error (.before (.invalidType (.number (.double value)) wanted) rest)

/-- Decode a size. -/
def decodeSize : Decoder Nat := decodeNext fun text =>
  let wanted := "usize"
  match text with
  | '-' :: rest => do
      let (number, rest) ← lift (readUnsigned true rest)
      sizeOf wanted number rest
  | char :: rest =>
      if char.isDigit then do
        let (number, rest) ← lift (readUnsigned false (char :: rest))
        sizeOf wanted number rest
      else refuse wanted (char :: rest)
  | [] => refuse wanted []

/-- Decode the items of an array up to its closing bracket. -/
def decodeItems {α : Type} (decode : Decoder α) : (fuel : Nat) → (first : Bool) → Decoder (List α)
  | 0, _, text => .error (.before (.malformed .endInList) text)
  | fuel + 1, first, text => do
      match ← lift (nextItem first text) with
      | .done rest => return ([], rest)
      | .more rest =>
          let (item, rest) ← decode rest
          let (items, rest) ← decodeItems decode fuel false rest
          return (item :: items, rest)

/-- Decode a list. -/
def decodeList {α : Type} (decode : Decoder α) : Decoder (List α) := decodeNext fun text =>
  match text with
  | '[' :: rest => decodeItems decode (rest.length + 1) true rest
  | text => refuse "a sequence" text

/-- Decode one of several names that stand for values. -/
def decodeName {α : Type} (names : List (String × α)) (wanted : String) : Decoder α :=
  fun text => do
    let (name, rest) ← decodeTextAs wanted text
    match names.find? (·.1.toList == name) with
    | some (_, value) => return (value, rest)
    | none => .error (.before (.unknownVariant name (names.map (·.1))) rest)

/-- Decode a choice: a name, or an object in which the name has a null. -/
def decodeChoice {α : Type} (names : List (String × α)) : Decoder α := decodeNext fun text =>
  match text with
  | '"' :: _ => decodeName names "a string" text
  | '{' :: rest => do
      let (value, rest) ← decodeName names "variant identifier" rest
      let rest ← lift (readColon rest)
      let ((), rest) ← decodeUnit rest
      match skipSpace rest with
      | [] => .error (.before (.malformed .endInObject) [])
      | '}' :: rest => return (value, rest)
      | rest => .error (.before (.malformed .expectedValue) rest)
  | text => .error (.atNext (.malformed .expectedValue) text)

/-! ## Records -/

/-- A field of a record that is put together in values of type `σ`. -/
structure RecordField (σ : Type) where
  name : String
  /-- Decode the value of the field and put it into the record. -/
  decode : σ → Decoder σ
  /-- Whether the field has to be there. -/
  required : Bool

/-- The shape of a record. -/
structure RecordShape (σ : Type) where
  /-- What a record of the shape is called. -/
  title : String
  fields : List (RecordField σ)
  /-- The record that has no field set. -/
  initial : σ
  /-- Whether members with other names than those of the fields are passed over. -/
  lenient : Bool

namespace RecordShape

variable {σ : Type}

/-- The text behind an object that is given up behind a key: blanks are skipped, and the closing
brace if it comes next. -/
def giveUp (text : Text) : Text :=
  match skipSpace text with
  | '}' :: rest => rest
  | rest => rest

/-- Decode the members of an object up to its closing brace; `seen` are the fields met so far. -/
def decodeMembers (shape : RecordShape σ) : (fuel : Nat) → (first : Bool) → (seen : List String) →
    σ → Decoder σ
  | 0, _, _, _, text => .error (.before (.malformed .endInObject) text)
  | fuel + 1, first, seen, record, text => do
      match ← lift (nextMember first text) with
      | .done rest =>
          match shape.fields.find? fun field => field.required && !seen.contains field.name with
          | some field => .error (.before (.missingField field.name) rest)
          | none => return (record, rest)
      | .more rest =>
          let (key, rest) ← lift (readString rest)
          match shape.fields.find? (·.name.toList == key) with
          | some field =>
              if seen.contains field.name then
                .error (.before (.duplicateField field.name) (giveUp rest))
              else
                let (record, rest) ← field.decode record (← lift (readColon rest))
                decodeMembers shape fuel false (field.name :: seen) record rest
          | none =>
              if shape.lenient then
                let rest ← lift (ignoreValue (← lift (readColon rest)))
                decodeMembers shape fuel false seen record rest
              else
                .error (.before (.unknownField key (shape.fields.map (·.name))) (giveUp rest))

/-- Look for the end of an array that has a value for each field. -/
def endArray (record : σ) (text : Text) : Except (ReadError Fault) (σ × Text) :=
  match skipSpace text with
  | [] => .error (.before .endInList [])
  | ']' :: rest => .ok (record, rest)
  | ',' :: rest =>
      match skipSpace rest with
      | ']' :: rest => .error (.before .trailingComma rest)
      | rest => .error (.atNext .trailingCharacters rest)
  | rest => .error (.atNext .trailingCharacters rest)

/-- Decode fields in order from an array up to its closing bracket; `index` fields have been
decoded. The array may end early if no required field is missing. -/
def decodeFields (shape : RecordShape σ) (index : Nat) (record : σ)
    (fields : List (RecordField σ)) : Decoder σ := fun text => do
  match fields with
  | [] => lift (endArray record text)
  | field :: fields =>
      match ← lift (nextItem (index == 0) text) with
      | .more rest =>
          let (record, rest) ← field.decode record rest
          decodeFields shape (index + 1) record fields rest
      | .done rest =>
          match (field :: fields).findIdx? (·.required) with
          | none => return (record, rest)
          | some later =>
              let wanted :=
                shape.title ++ " with " ++ toString shape.fields.length ++ " elements"
              .error (.before (.invalidLength (index + later) wanted) rest)

/-- Decode a record. -/
def decode (shape : RecordShape σ) : Decoder σ := decodeNext fun text =>
  match text with
  | '[' :: rest => decodeFields shape 0 shape.initial shape.fields rest
  | '{' :: rest => decodeMembers shape (rest.length + 1) true [] shape.initial rest
  | text => refuse shape.title text

end RecordShape

/-- Decode a text that holds a value of the wanted shape and nothing else but blanks. -/
def decodeDocument {α : Type} (decode : Decoder α) (text : Text) : Except DecodeError α :=
  let outcome : Except (ReadError DecodeFault) α := do
    let (value, rest) ← decode text
    match skipSpace rest with
    | [] => return value
    | rest => .error (.atNext (.malformed .trailingCharacters) rest)
  outcome.mapError fun error =>
    { fault := error.fault, place := Location.ofRemaining text error.remaining }

end Reflow.Json
