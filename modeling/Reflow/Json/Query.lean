import Reflow.Json.Printer

/-!
# Query strings

A document becomes a list of names and values: one pair for each scalar, named by the way to it,
with every step but the first in brackets. The pairs are then written in the form encoding of web
addresses.
-/

namespace Reflow.Json

/-- A name and a value. -/
abbrev Pair := Text × Text

/-- The name of a part: its own name in brackets behind the name of the whole. -/
def partName (name part : Text) : Text :=
  name ++ '[' :: part ++ [']']

mutual

/-- The pairs of a value with a name. Empty containers have none. -/
def Value.pairs (name : Text) : Value → List Pair
  | .null => [(name, [])]
  | .bool value => [(name, writeBool value)]
  | .number value => [(name, value.write)]
  | .string text => [(name, text)]
  | .array items => itemPairs name 0 items
  | .object members => memberPairs name members

/-- The pairs of the items of an array with a name, numbered from `index` on. -/
def itemPairs (name : Text) (index : Nat) : List Value → List Pair
  | [] => []
  | item :: items =>
      item.pairs (partName name (Nat.toDigits 10 index)) ++ itemPairs name (index + 1) items

/-- The pairs of the members of an object with a name. -/
def memberPairs (name : Text) : List (Text × Value) → List Pair
  | [] => []
  | (key, value) :: members => value.pairs (partName name key) ++ memberPairs name members

end

/-- The pairs of the items of a document, numbered from `index` on. -/
def documentItems (index : Nat) (items : List Value) : List Pair :=
  match items with
  | [] => []
  | item :: items => item.pairs (Nat.toDigits 10 index) ++ documentItems (index + 1) items

/-- The pairs of a document. Only arrays and objects have any. -/
def Value.query : Value → List Pair
  | .array items => documentItems 0 items
  | .object members => members.flatMap fun (key, value) => value.pairs key
  | _ => []

/-! ## Form encoding -/

/-- Whether a character stands for itself. -/
def isUnreserved (char : Char) : Bool :=
  char.isAlphanum || char == '*' || char == '-' || char == '.' || char == '_'

/-- A digit of an encoded byte, in upper case. -/
def percentDigit (value : Nat) : Char :=
  if value < 10 then .ofNat ('0'.toNat + value) else .ofNat ('A'.toNat + (value - 10))

/-- A byte written by its two hexadecimal digits. -/
def percentByte (byte : Nat) : Text :=
  ['%', percentDigit (byte / 16), percentDigit (byte % 16)]

/-- The bytes of a character in UTF-8. -/
def utf8Bytes (char : Char) : List Nat :=
  let code := char.toNat
  if code < 0x80 then [code]
  else if code < 0x800 then [0xC0 + code / 0x40, 0x80 + code % 0x40]
  else if code < 0x10000 then
    [0xE0 + code / 0x1000, 0x80 + code / 0x40 % 0x40, 0x80 + code % 0x40]
  else
    [0xF0 + code / 0x40000, 0x80 + code / 0x1000 % 0x40, 0x80 + code / 0x40 % 0x40,
      0x80 + code % 0x40]

/-- A text in form encoding. -/
def formEncode (text : Text) : Text :=
  text.flatMap fun char =>
    if char = ' ' then ['+']
    else if isUnreserved char then [char]
    else (utf8Bytes char).flatMap percentByte

/-- A pair in form encoding. -/
def formPair (pair : Pair) : Text :=
  formEncode pair.1 ++ '=' :: formEncode pair.2

/-- Pairs in form encoding. -/
def formPairs (pairs : List Pair) : Text :=
  Text.joinWith ['&'] (pairs.map formPair)

end Reflow.Json
