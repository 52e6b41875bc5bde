import Reflow.Json.Lexical
import Reflow.Text.Blank

/-!
# Reading JSON

Values are read by recursion on the number of containers that may still be opened, which bounds the
nesting of a document. The loops over items and members take fuel from the length of the text, since
every round consumes something.
-/

namespace Reflow.Json

/-- The number of containers that may be nested. -/
def nestingLimit : Nat := 127

/-- How a container goes on. -/
inductive Next where
  /-- It has ended, and this is the rest. -/
  | done (rest : Text)
  /-- Another part follows at the start of the rest. -/
  | more (rest : Text)

/-- Look for the next item of an array, behind the opening bracket or behind an item. -/
def nextItem (first : Bool) (text : Text) : Except (ReadError Fault) Next :=
  match skipSpace text with
  | [] => .error (.before .endInList [])
  | ']' :: rest => .ok (.done rest)
  | char :: rest =>
      if first then .ok (.more (char :: rest))
      else if char = ',' then
        match skipSpace rest with
        | [] => .error (.before .endInValue [])
        | ']' :: rest => .error (.before .trailingComma rest)
        | rest => .ok (.more rest)
      else .error (.atNext .expectedListSeparator (char :: rest))

/-- Look for the next member of an object, behind the opening brace or behind a member. The rest
starts behind the quote that opens the key. -/
def nextMember (first : Bool) (text : Text) : Except (ReadError Fault) Next :=
  match skipSpace text with
  | [] => .error (.before .endInObject [])
  | '}' :: rest => .ok (.done rest)
  | char :: rest =>
      if first then
        if char = '"' then .ok (.more rest) else .error (.atNext .keyNotString (char :: rest))
      else if char = ',' then
        match skipSpace rest with
        | [] => .error (.before .endInValue [])
        | '"' :: rest => .ok (.more rest)
        | '}' :: rest => .error (.before .trailingComma rest)
        | rest => .error (.atNext .keyNotString rest)
      else .error (.atNext .expectedObjectSeparator (char :: rest))

/-- Read the colon behind a key. -/
def readColon (text : Text) : Except (ReadError Fault) Text :=
  match skipSpace text with
  | [] => .error (.before .endInObject [])
  | ':' :: rest => .ok rest
  | rest => .error (.atNext .expectedColon rest)

/-- Read the items of an array up to its closing bracket. -/
def readItems (readValue : Reader Fault Value) : (fuel : Nat) → (first : Bool) →
    Reader Fault (List Value)
  | 0, _, text => .error (.before .endInList text)
  | fuel + 1, first, text => do
      match ← nextItem first text with
      | .done rest => return ([], rest)
      | .more rest =>
          let (item, rest) ← readValue rest
          let (items, rest) ← readItems readValue fuel false rest
          return (item :: items, rest)

/-- Read the members of an object up to its closing brace. Keys may come repeatedly. -/
def readMembers (readValue : Reader Fault Value) : (fuel : Nat) → (first : Bool) →
    Reader Fault (List Member)
  | 0, _, text => .error (.before .endInObject text)
  | fuel + 1, first, text => do
      match ← nextMember first text with
      | .done rest => return ([], rest)
      | .more rest =>
          let (key, rest) ← readString rest
          let (value, rest) ← readValue (← readColon rest)
          let (members, rest) ← readMembers readValue fuel false rest
          return ((key, value) :: members, rest)

/-- Read a value, given the readers for what follows an opening bracket or brace. -/
def readValueWith (readArray readObject : Reader Fault Value) : Reader Fault Value := fun text =>
  match skipSpace text with
  | [] => .error (.before .endInValue [])
  | 'n' :: rest => readIdentifier .null ['u', 'l', 'l'] rest
  | 't' :: rest => readIdentifier (.bool true) ['r', 'u', 'e'] rest
  | 'f' :: rest => readIdentifier (.bool false) ['a', 'l', 's', 'e'] rest
  | '"' :: rest => do
      let (text, rest) ← readString rest
      return (.string text, rest)
  | '-' :: rest => do
      let (number, rest) ← readUnsigned true rest
      return (.number number, rest)
  | '[' :: rest => readArray rest
  | '{' :: rest => readObject rest
  | char :: rest =>
      if char.isDigit then do
        let (number, rest) ← readUnsigned false (char :: rest)
        return (.number number, rest)
      else .error (.atNext .expectedValue (char :: rest))

/-- Read a value in which at most `depth` containers are nested. -/
def readValue : (depth : Nat) → Reader Fault Value
  | 0 =>
      let refuse : Reader Fault Value := fun rest => .error (.before .recursionLimit rest)
      readValueWith refuse refuse
  | depth + 1 =>
      readValueWith
        (fun text => do
          let (items, rest) ← readItems (readValue depth) (text.length + 1) true text
          return (.array items, rest))
        (fun text => do
          let (members, rest) ← readMembers (readValue depth) (text.length + 1) true text
          return (.object (collectMembers members), rest))

/-- Read a text that holds one value and nothing else but blanks. -/
def readDocument (text : Text) : Except (ReadError Fault) Value := do
  let (value, rest) ← readValue nestingLimit text
  match skipSpace rest with
  | [] => return value
  | rest => .error (.atNext .trailingCharacters rest)

/-- The value that a text denotes, or what is wrong with the text and where. -/
def parse (text : Text) : Except Error Value :=
  if text.blank then .error .emptyInput
  else
    match readDocument text with
    | .ok value => .ok value
    | .error ⟨fault, remaining⟩ =>
        .error (.malformed fault ((Location.ofRemaining text remaining).position text))

end Reflow.Json
