import Reflow.Json.Parser

/-!
# Passing over values

A value that nobody wants is only passed over. This is more lenient than reading: escaped code
points need not form characters, numbers may be of any size, and containers may be nested to any
depth.
-/

namespace Reflow.Json

/-- The rest of a text behind a part that is passed over. -/
abbrev Passed := Except (ReadError Fault) Text

/-- Pass over the digits of an exponent, behind its letter. -/
def ignoreExponent (text : Text) : Passed :=
  let unsigned := match text with
    | '+' :: rest => rest
    | '-' :: rest => rest
    | rest => rest
  match unsigned with
  | [] => .error (.before .invalidNumber [])
  | char :: rest =>
      if char.isDigit then .ok (rest.dropWhile Char.isDigit)
      else .error (.atNext .invalidNumber (char :: rest))

/-- Pass over an exponent, if there is one. -/
def ignoreTail (text : Text) : Passed :=
  match text with
  | 'e' :: rest => ignoreExponent rest
  | 'E' :: rest => ignoreExponent rest
  | rest => .ok rest

/-- Pass over a fraction and an exponent, if there are any. -/
def ignoreFraction (text : Text) : Passed :=
  match text with
  | '.' :: rest =>
      if rest.head?.any Char.isDigit then ignoreTail (rest.dropWhile Char.isDigit)
      else .error (.atNext .invalidNumber rest)
  | rest => ignoreTail rest

/-- Pass over a number behind its sign. -/
def ignoreNumber (text : Text) : Passed :=
  match text with
  | [] => .error (.before .invalidNumber [])
  | '0' :: rest =>
      if rest.head?.any Char.isDigit then .error (.atNext .invalidNumber rest)
      else ignoreFraction rest
  | char :: rest =>
      if char.isDigit then ignoreFraction (rest.dropWhile Char.isDigit)
      else .error (.atNext .invalidNumber (char :: rest))

/-- Pass over an escape behind its backslash. -/
def ignoreEscape (text : Text) : Passed :=
  match text with
  | [] => .error (.before .endInString [])
  | 'u' :: rest => (readHex rest).map (·.2)
  | char :: rest =>
      if ['"', '\\', '/', 'b', 'f', 'n', 'r', 't'].contains char then .ok rest
      else .error (.atNext .invalidEscape (char :: rest))

/-- Pass over a string behind its opening quote. -/
def ignoreString : (fuel : Nat) → Text → Passed
  | 0, text => .error (.before .endInString text)
  | _ + 1, [] => .error (.before .endInString [])
  | _ + 1, '"' :: rest => .ok rest
  | fuel + 1, '\\' :: rest => do ignoreString fuel (← ignoreEscape rest)
  | fuel + 1, char :: rest =>
      if isControl char then .error (.before .controlCharacter (char :: rest))
      else ignoreString fuel rest

/-- The kinds of containers. -/
inductive Container where
  | array
  | object
deriving DecidableEq, Repr

namespace Container

/-- The character that closes a container. -/
def closing : Container → Char
  | .array => ']'
  | .object => '}'

/-- The text ends inside of a container. -/
def endFault : Container → Fault
  | .array => .endInList
  | .object => .endInObject

/-- Neither a comma nor the end of a container follows a part of it. -/
def separatorFault : Container → Fault
  | .array => .expectedListSeparator
  | .object => .expectedObjectSeparator

end Container

/-- Pass over the key of a member and the colon behind it. -/
def ignoreKey (text : Text) : Passed :=
  match skipSpace text with
  | [] => .error (.before .endInObject [])
  | '"' :: rest => do readColon (← ignoreString (rest.length + 1) rest)
  | rest => .error (.atNext .keyNotString rest)

/-- What comes next when a value is passed over. -/
inductive Expected where
  /-- A value inside of the containers. -/
  | value
  /-- A part of the innermost container or its end; `first` if there has been no part yet. -/
  | part (first : Bool)

/-- Pass over a value, `enclosing` being the containers that are open, the innermost first. Every
two steps take at least one character. -/
def ignoreSteps : (fuel : Nat) → (enclosing : List Container) → Expected → Text → Passed
  | 0, _, _, text => .error (.before .expectedValue text)
  | fuel + 1, enclosing, .value, text =>
      let continueWith (rest : Text) : Passed := ignoreSteps fuel enclosing (.part false) rest
      match skipSpace text with
      | [] => .error (.before .endInValue [])
      | 'n' :: rest => do continueWith (← readIdentifier () ['u', 'l', 'l'] rest).2
      | 't' :: rest => do continueWith (← readIdentifier () ['r', 'u', 'e'] rest).2
      | 'f' :: rest => do continueWith (← readIdentifier () ['a', 'l', 's', 'e'] rest).2
      | '-' :: rest => do continueWith (← ignoreNumber rest)
      | '"' :: rest => do continueWith (← ignoreString (rest.length + 1) rest)
      | '[' :: rest => ignoreSteps fuel (.array :: enclosing) (.part true) rest
      | '{' :: rest => ignoreSteps fuel (.object :: enclosing) (.part true) rest
      | char :: rest =>
          if char.isDigit then do continueWith (← ignoreNumber (char :: rest))
          else .error (.atNext .expectedValue (char :: rest))
  | _ + 1, [], .part _, text => .ok text
  | fuel + 1, container :: enclosing, .part first, text =>
      let readPart (rest : Text) : Passed := do
        let rest ← if container = .object then ignoreKey rest else pure rest
        ignoreSteps fuel (container :: enclosing) .value rest
      match skipSpace text with
      | [] => .error (.before container.endFault [])
      | char :: rest =>
          if char = container.closing then ignoreSteps fuel enclosing (.part false) rest
          else if first then readPart (char :: rest)
          else if char = ',' then readPart rest
          else .error (.atNext container.separatorFault (char :: rest))

/-- Pass over a value. -/
def ignoreValue (text : Text) : Passed :=
  ignoreSteps (2 * text.length + 2) [] .value text

end Reflow.Json
