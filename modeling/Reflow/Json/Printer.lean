import Reflow.Binary64.Shortest
import Reflow.Json.Basic

/-!
# Writing JSON

Two forms of the same value: a compact one without any blank, and one that gives every item and
member a line of its own, indented by four spaces for each container around it.
-/

namespace Reflow.Json

/-- A digit of a hexadecimal number, in lower case. -/
def hexDigit (value : Nat) : Char :=
  if value < 10 then .ofNat ('0'.toNat + value) else .ofNat ('a'.toNat + (value - 10))

/-- A character as it stands in a string. Only quotes, backslashes and control characters are
escaped. -/
def escapeChar (char : Char) : Text :=
  if char = '"' then ['\\', '"']
  else if char = '\\' then ['\\', '\\']
  else if char = '\x08' then ['\\', 'b']
  else if char = '\x0c' then ['\\', 'f']
  else if char = '\n' then ['\\', 'n']
  else if char = '\r' then ['\\', 'r']
  else if char = '\t' then ['\\', 't']
  else if char.toNat < 0x20 then
    ['\\', 'u', '0', '0', hexDigit (char.toNat / 16), hexDigit (char.toNat % 16)]
  else [char]

/-- A text in quotes. -/
def quote (text : Text) : Text :=
  '"' :: text.flatMap escapeChar ++ ['"']

/-- Numbers are written without an exponent while the first digit stands between the fifth place
behind the point and the sixteenth place before it. -/
def numberStyle : Binary64.DecimalStyle where
  leastPlain := -5
  mostPlain := 15

/-- An integer in decimal digits. -/
def writeInteger (value : Int) : Text :=
  (if value < 0 then ['-'] else []) ++ Nat.toDigits 10 value.natAbs

/-- A number as it is written. -/
def Number.write : Number → Text
  | .integer value => writeInteger value
  | .double value => value.write numberStyle

/-- A boolean as it is written. -/
def writeBool (value : Bool) : Text :=
  if value then ['t', 'r', 'u', 'e'] else ['f', 'a', 'l', 's', 'e']

/-! ## The compact form -/

mutual

/-- A value without blanks. -/
def Value.compact : Value → Text
  | .null => ['n', 'u', 'l', 'l']
  | .bool value => writeBool value
  | .number value => value.write
  | .string text => quote text
  | .array items => '[' :: compactItems true items
  | .object members => '{' :: compactMembers true members

/-- Items behind an opening bracket or behind an item, with the closing bracket. -/
def compactItems (first : Bool) : List Value → Text
  | [] => [']']
  | item :: items =>
      (if first then [] else [',']) ++ item.compact ++ compactItems false items

/-- Members behind an opening brace or behind a member, with the closing brace. -/
def compactMembers (first : Bool) : List (Text × Value) → Text
  | [] => ['}']
  | (key, value) :: members =>
      (if first then [] else [',']) ++ quote key ++ ':' :: value.compact ++
        compactMembers false members

end

/-! ## The form in lines -/

/-- A line feed and the indentation of a line inside of `level` containers. -/
def newLine (level : Nat) : Text :=
  '\n' :: List.replicate (4 * level) ' '

mutual

/-- A value in lines, inside of `level` containers. -/
def Value.prettyAt (level : Nat) : Value → Text
  | .null => ['n', 'u', 'l', 'l']
  | .bool value => writeBool value
  | .number value => value.write
  | .string text => quote text
  | .array [] => ['[', ']']
  | .array (item :: items) =>
      '[' :: newLine (level + 1) ++ item.prettyAt (level + 1) ++ prettyItems level items
  | .object [] => ['{', '}']
  | .object ((key, value) :: members) =>
      '{' :: newLine (level + 1) ++ quote key ++ [':', ' '] ++ value.prettyAt (level + 1) ++
        prettyMembers level members

/-- Items behind an item, with the closing bracket. -/
def prettyItems (level : Nat) : List Value → Text
  | [] => newLine level ++ [']']
  | item :: items =>
      ',' :: newLine (level + 1) ++ item.prettyAt (level + 1) ++ prettyItems level items

/-- Members behind a member, with the closing brace. -/
def prettyMembers (level : Nat) : List (Text × Value) → Text
  | [] => newLine level ++ ['}']
  | (key, value) :: members =>
      ',' :: newLine (level + 1) ++ quote key ++ [':', ' '] ++ value.prettyAt (level + 1) ++
        prettyMembers level members

end

/-- A value in lines. -/
def Value.pretty (value : Value) : Text :=
  value.prettyAt 0

end Reflow.Json
