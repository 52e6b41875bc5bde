import Reflow.Json.Basic
import Reflow.Json.Error
import Reflow.Text.Digits

/-!
# The parts of a JSON text

Readers for blanks, literal names, numbers and strings. Each takes a text and gives what it has read
together with the rest of the text.
-/

namespace Reflow.Json

/-- Reads the start of a text and gives the rest of it, or fails. -/
abbrev Reader (Fault α : Type) := Text → Except (ReadError Fault) (α × Text)

/-- Whether a character is a blank between the parts of a JSON text. -/
def isSpace (char : Char) : Bool :=
  char == ' ' || char == '\t' || char == '\n' || char == '\r'

/-- The text behind the blanks at its start. -/
def skipSpace (text : Text) : Text :=
  text.dropWhile isSpace

/-- Read the remaining letters of a literal name. -/
def readIdentifier {α : Type} (value : α) : (letters : Text) → Reader Fault α
  | [], text => .ok (value, text)
  | _ :: _, [] => .error (.before .endInValue [])
  | letter :: letters, char :: rest =>
      if char = letter then readIdentifier value letters rest
      else .error (.atNext .expectedIdentifier (char :: rest))

/-! ## Numbers

The digits of a number are gathered in an integer of 64 bits. When the next digit would not fit,
further digits of the integer part only raise the exponent, and further digits of the fraction are
dropped. The gathered integer is rounded to a floating point number, which is then multiplied or
divided by a power of ten. -/

/-- The largest integer that gathers digits. -/
def gatherLimit : Nat := 0xFFFFFFFFFFFFFFFF

/-- The largest exponent that can be written out. -/
def exponentLimit : Nat := 0x7FFFFFFF

/-- Divide a number by a power of ten, in steps for powers that are themselves too large. -/
def divPowerOfTen : (steps : Nat) → Binary64 → (power : Nat) → Binary64
  | 0, number, power => number.div (.powerOfTen power)
  | steps + 1, number, power =>
      if number.isZero then number
      else divPowerOfTen steps (number.div (.powerOfTen 308)) (power - 308)

/-- The floating point number for gathered digits and an exponent, unless it is out of range. -/
def scaled? (digits : Nat) (exponent : Int) : Option Binary64 :=
  let number := Binary64.ofNat digits
  let power := exponent.natAbs
  if exponent < 0 then some (divPowerOfTen ((power - 1) / 308) number power)
  else if power ≤ 308 then
    let scaled := number.mul (.powerOfTen power)
    if scaled.isInfinite then none else some scaled
  else if number.isZero then some number
  else none

/-- A floating point number under construction: its sign, the gathered digits and the exponent. -/
structure Gathered where
  negative : Bool
  digits : Nat
  exponent : Int

namespace Gathered

/-- Finish a number in front of the rest of a text. -/
def finish (gathered : Gathered) (rest : Text) : Except (ReadError Fault) (Number × Text) :=
  match scaled? gathered.digits gathered.exponent with
  | some number => .ok (.double { number with negative := gathered.negative }, rest)
  | none => .error (.before .numberOutOfRange rest)

/-- Read the further digits of an exponent, of which `value` has been read. -/
def readExponentDigits (gathered : Gathered) (negative : Bool) :
    (value : Nat) → Text → Except (ReadError Fault) (Number × Text)
  | value, [] => finishExponent value []
  | value, char :: rest =>
      if !char.isDigit then finishExponent value (char :: rest)
      else if 10 * value + Text.digitValue char ≤ exponentLimit then
        readExponentDigits gathered negative (10 * value + Text.digitValue char) rest
      else if gathered.digits != 0 && !negative then .error (.before .numberOutOfRange rest)
      else .ok (.double { negative := gathered.negative, magnitude := 0 },
        rest.dropWhile Char.isDigit)
where
  /-- Finish the number with a complete exponent. -/
  finishExponent (value : Nat) (rest : Text) : Except (ReadError Fault) (Number × Text) :=
    let shift : Int := if negative then -value else value
    { gathered with exponent := gathered.exponent + shift }.finish rest

/-- Read the first digit of an exponent and those behind it. -/
def readExponentValue (gathered : Gathered) (negative : Bool) :
    Text → Except (ReadError Fault) (Number × Text)
  | [] => .error (.before .endInValue [])
  | char :: rest =>
      if char.isDigit then gathered.readExponentDigits negative (Text.digitValue char) rest
      else .error (.atNext .invalidNumber (char :: rest))

/-- Read an exponent behind its letter. -/
def readExponent (gathered : Gathered) (text : Text) :
    Except (ReadError Fault) (Number × Text) :=
  match text with
  | '+' :: rest => gathered.readExponentValue false rest
  | '-' :: rest => gathered.readExponentValue true rest
  | rest => gathered.readExponentValue false rest

/-- Read an exponent, if there is one, and finish the number. -/
def readTail (gathered : Gathered) (text : Text) : Except (ReadError Fault) (Number × Text) :=
  match text with
  | 'e' :: rest | 'E' :: rest => gathered.readExponent rest
  | rest => gathered.finish rest

/-- Read the digits behind a point. `seen` tells whether there have been any. -/
def readFraction (gathered : Gathered) (seen : Bool) :
    Text → Except (ReadError Fault) (Number × Text)
  | [] => if seen then gathered.readTail [] else .error (.before .endInValue [])
  | char :: rest =>
      if char.isDigit then
        let digits := 10 * gathered.digits + Text.digitValue char
        if digits ≤ gatherLimit then
          { gathered with digits, exponent := gathered.exponent - 1 }.readFraction true rest
        else gathered.readTail (rest.dropWhile Char.isDigit)
      else if seen then gathered.readTail (char :: rest)
      else .error (.atNext .invalidNumber (char :: rest))

/-- Read the digits of an integer part that does not fit. -/
def readLong (gathered : Gathered) : Text → Except (ReadError Fault) (Number × Text)
  | [] => gathered.readTail []
  | '.' :: rest => gathered.readFraction false rest
  | char :: rest =>
      if char.isDigit then { gathered with exponent := gathered.exponent + 1 }.readLong rest
      else gathered.readTail (char :: rest)

end Gathered

/-- The number that an integer part alone denotes. A negative zero, and what does not fit 64 bits
with its sign, is a floating point number. -/
def wholeNumber (negative : Bool) (digits : Nat) : Number :=
  if !negative then .integer digits
  else if digits = 0 ∨ 0x8000000000000000 < digits then
    .double { Binary64.ofNat digits with negative := true }
  else .integer (-digits)

/-- Read what follows the integer part of a number. -/
def readNumberTail (negative : Bool) (digits : Nat) (text : Text) :
    Except (ReadError Fault) (Number × Text) :=
  let gathered : Gathered := { negative, digits, exponent := 0 }
  match text with
  | '.' :: rest => gathered.readFraction false rest
  | 'e' :: rest | 'E' :: rest => gathered.readExponent rest
  | rest => .ok (wholeNumber negative digits, rest)

/-- Read the further digits of an integer part. -/
def readWhole (negative : Bool) : (digits : Nat) → Text → Except (ReadError Fault) (Number × Text)
  | digits, [] => readNumberTail negative digits []
  | digits, char :: rest =>
      if char.isDigit then
        if 10 * digits + Text.digitValue char ≤ gatherLimit then
          readWhole negative (10 * digits + Text.digitValue char) rest
        else { negative, digits, exponent := 0 : Gathered }.readLong (char :: rest)
      else readNumberTail negative digits (char :: rest)

/-- Read a number behind its sign. -/
def readUnsigned (negative : Bool) : Reader Fault Number
  | [] => .error (.before .endInValue [])
  | '0' :: rest =>
      if (rest.head?.any Char.isDigit) then .error (.atNext .invalidNumber rest)
      else readNumberTail negative 0 rest
  | char :: rest =>
      if char.isDigit then readWhole negative (Text.digitValue char) rest
      else .error (.atNext .invalidNumber (char :: rest))

/-! ## Strings -/

/-- The number that four hexadecimal digits denote. -/
def hexValue? (first second third fourth : Char) : Option Nat := do
  let high := 16 * (← Text.hexDigit? first) + (← Text.hexDigit? second)
  let low := 16 * (← Text.hexDigit? third) + (← Text.hexDigit? fourth)
  return 256 * high + low

/-- Read four hexadecimal digits. Anything else of four bytes is consumed as well. -/
def readHex : Reader Fault Nat := fun text =>
  if text.byteLength < 4 then .error { fault := .endInString, remaining := 0 }
  else
    let refused := ReadError.mk Fault.invalidEscape (text.byteLength - 4)
    match text with
    | first :: second :: third :: fourth :: rest =>
        match hexValue? first second third fourth with
        | some code => .ok (code, rest)
        | none => .error refused
    | _ => .error refused

/-- Read the second half of a character beyond the first 65536, whose first half has been read. -/
def readSecondHalf (first : Nat) : Reader Fault Char
  | [] => .error (.before .endInString [])
  | ['\\'] => .error (.before .endInString [])
  | '\\' :: 'u' :: rest => do
      let (second, rest) ← readHex rest
      if 0xDC00 ≤ second ∧ second ≤ 0xDFFF then
        return (.ofNat (0x10000 + 0x400 * (first - 0xD800) + (second - 0xDC00)), rest)
      else .error (.before .loneSurrogate rest)
  | '\\' :: rest => .error (.atNext .endOfHexEscape rest)
  | rest => .error (.atNext .endOfHexEscape rest)

/-- Read an escape behind its backslash. -/
def readEscape : Reader Fault Char
  | [] => .error (.before .endInString [])
  | '"' :: rest => .ok ('"', rest)
  | '\\' :: rest => .ok ('\\', rest)
  | '/' :: rest => .ok ('/', rest)
  | 'b' :: rest => .ok ('\x08', rest)
  | 'f' :: rest => .ok ('\x0c', rest)
  | 'n' :: rest => .ok ('\n', rest)
  | 'r' :: rest => .ok ('\r', rest)
  | 't' :: rest => .ok ('\t', rest)
  | 'u' :: rest => do
      let (code, rest) ← readHex rest
      if 0xDC00 ≤ code ∧ code ≤ 0xDFFF then .error (.before .loneSurrogate rest)
      else if 0xD800 ≤ code ∧ code ≤ 0xDBFF then readSecondHalf code rest
      else return (.ofNat code, rest)
  | rest => .error (.atNext .invalidEscape rest)

/-- Whether a character may not stand in a string as it is. -/
def isControl (char : Char) : Bool :=
  char.toNat < 0x20

/-- Read a string behind its opening quote. Every step takes at least one character, so the length
of the text is fuel enough. -/
def readStringUpTo : (fuel : Nat) → Reader Fault Text
  | 0, text => .error (.before .endInString text)
  | _ + 1, [] => .error (.before .endInString [])
  | _ + 1, '"' :: rest => .ok ([], rest)
  | fuel + 1, '\\' :: rest => do
      let (char, rest) ← readEscape rest
      let (text, rest) ← readStringUpTo fuel rest
      return (char :: text, rest)
  | fuel + 1, char :: rest =>
      if isControl char then .error (.before .controlCharacter rest)
      else do
        let (text, rest) ← readStringUpTo fuel rest
        return (char :: text, rest)

/-- Read a string behind its opening quote. -/
def readString : Reader Fault Text := fun text =>
  readStringUpTo (text.length + 1) text

end Reflow.Json
