import Reflow.Text.Position

/-!
# What is wrong with a JSON text

A reader stops at the first fault. It says what the fault is and how much of the text it had not
consumed, from which line and column follow.
-/

namespace Reflow.Json

/-- What can be wrong with a JSON text. -/
inductive Fault where
  | endInList
  | endInObject
  | endInString
  | endInValue
  | expectedColon
  | expectedListSeparator
  | expectedObjectSeparator
  | expectedIdentifier
  | expectedValue
  | invalidEscape
  | invalidNumber
  | numberOutOfRange
  | controlCharacter
  | keyNotString
  | loneSurrogate
  | endOfHexEscape
  | trailingComma
  | trailingCharacters
  | recursionLimit
deriving DecidableEq, Repr

namespace Fault

/-- The wording of a fault. -/
def message : Fault → String
  | .endInList => "EOF while parsing a list"
  | .endInObject => "EOF while parsing an object"
  | .endInString => "EOF while parsing a string"
  | .endInValue => "EOF while parsing a value"
  | .expectedColon => "expected `:`"
  | .expectedListSeparator => "expected `,` or `]`"
  | .expectedObjectSeparator => "expected `,` or `\x7d`"
  | .expectedIdentifier => "expected ident"
  | .expectedValue => "expected value"
  | .invalidEscape => "invalid escape"
  | .invalidNumber => "invalid number"
  | .numberOutOfRange => "number out of range"
  | .controlCharacter => "control character (\\u0000-\\u001F) found while parsing a string"
  | .keyNotString => "key must be a string"
  | .loneSurrogate => "lone leading surrogate in hex escape"
  | .endOfHexEscape => "unexpected end of hex escape"
  | .trailingComma => "trailing comma"
  | .trailingCharacters => "trailing characters"
  | .recursionLimit => "recursion limit exceeded"

end Fault

/-- A fault, and the number of bytes that had not been consumed when it was noticed. -/
structure ReadError (Fault : Type) where
  fault : Fault
  remaining : Nat
deriving DecidableEq, Repr

namespace ReadError

variable {Fault : Type}

/-- A fault noticed before the rest of a text. -/
def before (fault : Fault) (rest : Text) : ReadError Fault :=
  { fault, remaining := rest.byteLength }

/-- A fault noticed at the next byte of a text, or at its end. The byte counts as consumed. -/
def atNext (fault : Fault) (rest : Text) : ReadError Fault :=
  { fault, remaining := rest.byteLength - 1 }

end ReadError

/-- A line counted from one, and the number of bytes of that line before a place. -/
structure Location where
  line : Nat
  column : Nat
deriving DecidableEq, Repr

namespace Location

/-- Move a place over the next `count` bytes of a text. -/
def advance (place : Location) (count : Nat) : Text → Location
  | [] => place
  | char :: rest =>
      if count = 0 then place
      else if char = '\n' then advance { line := place.line + 1, column := 0 } (count - 1) rest
      else
        let size := min char.utf8Size count
        advance { place with column := place.column + size } (count - size) rest

/-- The place in a text behind which `remaining` bytes are left. -/
def ofRemaining (text : Text) (remaining : Nat) : Location :=
  advance { line := 1, column := 0 } (text.byteLength - remaining) text

/-- The position of a place, its column of bytes taken for a column of characters. -/
def position (place : Location) (text : Text) : Position :=
  Position.ofLineColumn text place.line place.column

end Location

/-- Why a text is no JSON document. -/
inductive Error where
  /-- The text holds blanks only. -/
  | emptyInput
  | malformed (fault : Fault) (position : Position)
deriving DecidableEq, Repr

namespace Error

/-- The wording of an error. -/
def message : Error → String
  | .emptyInput => "input is empty"
  | .malformed fault position =>
      fault.message ++ " at idx=" ++ toString position.index ++ ", row=" ++ toString position.row ++
        ", col=" ++ toString position.column

end Error

end Reflow.Json
