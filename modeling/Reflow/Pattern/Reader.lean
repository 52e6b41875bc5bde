import Reflow.Pattern.Automaton
import Reflow.Pattern.Property
import Reflow.Text.Digits
import Reflow.Unicode.Alphanumeric

/-!
# The notation of patterns

Reads the usual notation of regular expressions. Modes such as `(?i)` hold up to the end of the
group that they stand in, and are resolved while reading. A text that is not in the notation has no
pattern; the reader does not say why.
-/

namespace Reflow

/-- A pattern with the names of its groups. -/
structure Expression where
  pattern : Pattern
  /-- The names that groups carry, with the numbers of the groups. -/
  names : List (Text × Nat)
deriving DecidableEq, Repr

namespace Expression

/-- The modes under which a part of the notation is read. -/
structure Modes where
  /-- Letters stand for themselves in either case. -/
  ignoreCase : Bool := false
  /-- The line anchors look at every line. -/
  multiLine : Bool := false
  /-- The dot also stands for a line feed. -/
  dotAll : Bool := false
  /-- Repetitions are lazy, and greedy with a question mark. -/
  swapGreed : Bool := false
  /-- A carriage return also ends lines. -/
  anyLineBreak : Bool := false
  /-- Classes are those of Unicode, not of ASCII. -/
  unicode : Bool := true
  /-- Blanks and comments between the parts of a pattern are ignored. -/
  extended : Bool := false

/-- The groups met so far. -/
structure Groups where
  /-- The number of the latest group. -/
  count : Nat := 0
  /-- The names with the numbers of their groups. -/
  names : List (Text × Nat) := []

/-- The text behind blanks and comments. -/
def skipIgnored : (inComment : Bool) → Text → Text
  | _, [] => []
  | true, char :: rest => skipIgnored (char != '\n') rest
  | false, char :: rest =>
      if Text.isBlank char then skipIgnored false rest
      else if char == '#' then skipIgnored true rest
      else char :: rest

/-- The text behind what the modes ignore. -/
def Modes.skip (modes : Modes) (text : Text) : Text :=
  if modes.extended then skipIgnored false text else text

/-- The set widened to all cases of its members, where case is ignored. -/
def Modes.widen (modes : Modes) (set : CharSet) : CharSet :=
  if !modes.ignoreCase then set
  else if modes.unicode then .anyCase set
  else .anyAsciiCase set

/-- A class as it stands in a pattern: widened where case is ignored, and then negated if asked for.
Without Unicode a class is one of bytes, and may not hold bytes that are no characters. -/
def Modes.close? (modes : Modes) (negated : Bool) (set : CharSet) : Option CharSet :=
  if !negated then some (modes.widen set)
  else if modes.unicode then some (.complement (modes.widen set))
  else none

/-- One part of a class or one item outside of classes. -/
inductive Atom where
  /-- A character that stands for itself. -/
  | literal (char : Char)
  /-- A character, or without Unicode a byte, that is written as two digits. -/
  | byte (char : Char)
  /-- A class that is named by an escape. -/
  | set (set : CharSet)
  | look (assertion : Assertion)

/-! ## Escapes -/

/-- The character with a code point, if there is one. -/
def charOfCode? (code : Nat) : Option Char :=
  if code.isValidChar then some (Char.ofNat code) else none

/-- Read `count` hexadecimal digits, `value` being the value of those before. -/
def readHexDigits (modes : Modes) : (count value : Nat) → Text → Option (Char × Text)
  | 0, value, text => (charOfCode? value).map (·, text)
  | count + 1, value, text =>
      match text with
      | [] => none
      | char :: rest => do
          readHexDigits modes count (16 * value + (← Text.hexDigit? char)) (modes.skip rest)

/-- Read hexadecimal digits up to a closing brace; `value?` is the value of those before. -/
def readHexBraces (modes : Modes) :
    (fuel : Nat) → (value? : Option Nat) → Text → Option (Char × Text)
  | 0, _, _ => none
  | fuel + 1, value?, text =>
      match modes.skip text with
      | [] => none
      | '}' :: rest => do return (← charOfCode? (← value?), modes.skip rest)
      | char :: rest => do
          readHexBraces modes fuel (some (16 * value?.getD 0 + (← Text.hexDigit? char))) rest

/-- Read the digits of an escaped code point: in braces, or exactly `count`. -/
def readHex (modes : Modes) (count : Nat) (text : Text) : Option (Char × Text) :=
  match modes.skip text with
  | '{' :: rest => readHexBraces modes (rest.length + 1) none rest
  | text => readHexDigits modes count 0 text

/-- The ASCII members of the word class. -/
def asciiWord : CharSet :=
  .unions [.range '0' '9', .range 'A' 'Z', .only '_', .range 'a' 'z']

/-- The ASCII members of the class of blanks. -/
def asciiSpace : CharSet :=
  .unions [.range '\t' '\r', .only ' ']

/-- The class that a letter names behind a backslash. Without Unicode only the positive ones may
occur. -/
def letterClass? (modes : Modes) (letter : Char) : Option CharSet :=
  if modes.unicode then
    match letter with
    | 'd' => some .digit
    | 's' => some .space
    | 'w' => some .word
    | 'D' => some (.complement .digit)
    | 'S' => some (.complement .space)
    | 'W' => some (.complement .word)
    | _ => none
  else
    match letter with
    | 'd' => some (.range '0' '9')
    | 's' => some asciiSpace
    | 'w' => some asciiWord
    | _ => none

/-- Read the name of a property up to a closing brace. -/
def readPropertyName (modes : Modes) : (fuel : Nat) → Text → Option (Text × Text)
  | 0, _ => none
  | fuel + 1, text =>
      match modes.skip text with
      | [] => none
      | '}' :: rest => some ([], rest)
      | char :: rest => do
          let (name, rest) ← readPropertyName modes fuel rest
          return (char :: name, rest)

/-- The texts before and behind the first place where `mark` stands, if there is one. -/
def splitAtMark? (mark : Text) : Text → Option (Text × Text)
  | [] => none
  | char :: rest =>
      match Text.dropStart? mark (char :: rest) with
      | some behind => some ([], behind)
      | none => (splitAtMark? mark rest).map fun (before, behind) => (char :: before, behind)

/-- The class that the text in braces names. The value of a property stands behind one of several
signs, which all say the same. -/
def propertyClass? (modes : Modes) (negated : Bool) (text : Text) : Option CharSet :=
  let parts := (splitAtMark? ['!', '='] text).or
    ((splitAtMark? [':'] text).or (splitAtMark? ['='] text))
  match parts with
  | some (name, value) => do modes.close? negated (← Property.valued? name value)
  | none => do modes.close? negated (← Property.named? text)

/-- Read the name of a property, in braces or a single letter. -/
def readProperty (modes : Modes) (negated : Bool) (text : Text) : Option (Atom × Text) :=
  if !modes.unicode then none
  else
    match modes.skip text with
    | [] => none
    | '{' :: rest => do
        let (name, rest) ← readPropertyName modes (rest.length + 1) rest
        return (.set (← propertyClass? modes negated name), rest)
    | letter :: rest => do
        let named ← if letter == '\\' then none else Property.named? [letter]
        return (.set (← modes.close? negated named), modes.skip rest)

/-- The characters of words in the notation. -/
def Modes.words (modes : Modes) : WordKind :=
  if modes.unicode then .unicode else .ascii

/-- Read the letters that may follow a word boundary in braces, up to another character. -/
def readBoundaryName (modes : Modes) : (fuel : Nat) → Text → Text × Text
  | 0, text => ([], text)
  | _ + 1, [] => ([], [])
  | fuel + 1, char :: rest =>
      if char.isAlpha || char == '-' then
        let (name, rest) := readBoundaryName modes fuel (modes.skip rest)
        (char :: name, rest)
      else ([], char :: rest)

/-- Read what follows the letter of a word boundary: a kind of boundary in braces or nothing. Braces
that hold a number are left to the repetition that they write. -/
def readBoundary (modes : Modes) (text : Text) : Option (Assertion × Text) :=
  match text with
  | '{' :: inside =>
      match modes.skip inside with
      | [] => none
      | first :: _ =>
          if first.isAlpha || first == '-' then
            match readBoundaryName modes (inside.length + 1) (modes.skip inside) with
            | (name, '}' :: rest) =>
                if name = "start".toList then some (.wordStart modes.words, rest)
                else if name = "end".toList then some (.wordEnd modes.words, rest)
                else if name = "start-half".toList then some (.wordStartHalf modes.words, rest)
                else if name = "end-half".toList then some (.wordEndHalf modes.words, rest)
                else none
            | _ => none
          else some (.wordBoundary modes.words, text)
  | _ => some (.wordBoundary modes.words, text)

/-- Read what follows a backslash. -/
def readEscape (modes : Modes) (text : Text) : Option (Atom × Text) :=
  match text with
  | [] => none
  | 'x' :: rest =>
      (readHex modes 2 rest).map fun (char, behind) =>
        (if (modes.skip rest).head? == some '{' then .literal char else .byte char, behind)
  | 'u' :: rest => (readHex modes 4 rest).map fun (char, rest) => (.literal char, rest)
  | 'U' :: rest => (readHex modes 8 rest).map fun (char, rest) => (.literal char, rest)
  | 'a' :: rest => some (.literal '\x07', rest)
  | 'f' :: rest => some (.literal '\x0c', rest)
  | 't' :: rest => some (.literal '\t', rest)
  | 'n' :: rest => some (.literal '\n', rest)
  | 'r' :: rest => some (.literal '\r', rest)
  | 'v' :: rest => some (.literal '\x0b', rest)
  | 'A' :: rest => some (.look .textStart, rest)
  | 'z' :: rest => some (.look .textEnd, rest)
  | 'b' :: rest => (readBoundary modes rest).map fun (assertion, rest) => (.look assertion, rest)
  | 'B' :: rest => some (.look (.noWordBoundary modes.words), rest)
  | '<' :: rest => some (.look (.wordStart modes.words), rest)
  | '>' :: rest => some (.look (.wordEnd modes.words), rest)
  | 'p' :: rest => readProperty modes false rest
  | 'P' :: rest => readProperty modes true rest
  | char :: rest =>
      if char.isAlphanum then (letterClass? modes char).map fun set => (.set set, rest)
      else if char.toNat < 128 then some (.literal char, rest)
      else none

/-! ## Classes in brackets -/

/-- The classes that are written with a name between colons. -/
def namedClass? (name : Text) : Option CharSet :=
  match String.ofList name with
  | "alnum" => some (.unions [.range '0' '9', .range 'A' 'Z', .range 'a' 'z'])
  | "alpha" => some (.unions [.range 'A' 'Z', .range 'a' 'z'])
  | "ascii" => some (.range '\x00' '\x7f')
  | "blank" => some (.unions [.only '\t', .only ' '])
  | "cntrl" => some (.unions [.range '\x00' '\x1f', .only '\x7f'])
  | "digit" => some (.range '0' '9')
  | "graph" => some (.range '!' '~')
  | "lower" => some (.range 'a' 'z')
  | "print" => some (.range ' ' '~')
  | "punct" => some (.unions [.range '!' '/', .range ':' '@', .range '[' (Char.ofNat 0x60),
      .range '{' '~'])
  | "space" => some asciiSpace
  | "upper" => some (.range 'A' 'Z')
  | "word" => some asciiWord
  | "xdigit" => some (.unions [.range '0' '9', .range 'A' 'F', .range 'a' 'f'])
  | _ => none

/-- Read a class between colons; the text starts behind the bracket. There is a class with such a
name, or there is not, and then the bracket means something else. -/
def readNamedClass (modes : Modes) (text : Text) : Option (Option CharSet × Text) :=
  match text with
  | ':' :: text =>
      let (negated, text) : Bool × Text := match text with
        | '^' :: text => (true, text)
        | text => (false, text)
      match text.dropWhile (· != ':') with
      | ':' :: ']' :: rest =>
          (namedClass? (text.takeWhile (· != ':'))).map fun set => (modes.close? negated set, rest)
      | _ => none
  | _ => none

/-- How two classes are combined. -/
inductive Combination where
  | intersection
  | difference
  | symmetricDifference

/-- Members of a class, and how deeply the notation of them is nested. -/
structure Members where
  set : CharSet
  depth : Nat

/-- A class on the left of an operator that waits for the class on its right. -/
abbrev Waiting := Option (Combination × Members)

/-- Combine the waiting class, if there is one, with the class that follows it. -/
def Modes.combine (modes : Modes) (waiting : Waiting) (right : Members) : Members :=
  match waiting with
  | none => right
  | some (combination, left) =>
      let (leftSet, rightSet) := (modes.widen left.set, modes.widen right.set)
      { set := match combination with
          | .intersection => .intersection leftSet rightSet
          | .difference => .difference leftSet rightSet
          | .symmetricDifference => .symmetricDifference leftSet rightSet
        depth := max left.depth right.depth + 1 }

/-- A class that is being read: whether it is negated, the class that waits on the left of an
operator, and the items read since. -/
structure ClassFrame where
  negated : Bool
  waiting : Waiting := none
  /-- The number of items. -/
  count : Nat := 0
  /-- The members of all items, and the greatest depth of an item. -/
  members : Members := { set := .none, depth := 0 }

namespace ClassFrame

/-- Add an item. -/
def push (frame : ClassFrame) (item : Members) : ClassFrame :=
  { frame with
    count := frame.count + 1
    members :=
      { set := .union frame.members.set item.set
        depth := max frame.members.depth item.depth } }

/-- Add a character. -/
def pushChar (frame : ClassFrame) (char : Char) : ClassFrame :=
  frame.push { set := .only char, depth := 0 }

/-- What has been read, up to an operator or the closing bracket. Several items nest deeper than
one. -/
def combined (frame : ClassFrame) (modes : Modes) : Members :=
  let items : Members :=
    if frame.count ≤ 1 then frame.members
    else { frame.members with depth := frame.members.depth + 1 }
  modes.combine frame.waiting items

/-- Let what has been read wait on the left of an operator. -/
def wait (frame : ClassFrame) (modes : Modes) (combination : Combination) : ClassFrame :=
  { negated := frame.negated, waiting := some (combination, frame.combined modes) }

/-- The finished class. -/
def close? (frame : ClassFrame) (modes : Modes) : Option Members := do
  let members := frame.combined modes
  return { set := ← modes.close? frame.negated members.set, depth := members.depth + 1 }

end ClassFrame

/-- Read one character or escape in a class. -/
def readMember (modes : Modes) (text : Text) : Option (Atom × Text) :=
  match text with
  | [] => none
  | '\\' :: rest => readEscape modes rest
  | char :: rest => some (.literal char, rest)

/-- The character that an item of a class stands for. Without Unicode it has to be one of ASCII. -/
def Modes.memberChar? (modes : Modes) : Atom → Option Char
  | .literal char | .byte char => if modes.unicode || char.toNat < 128 then some char else none
  | .set _ | .look _ => none

/-- The set that an item of a class stands for. -/
def Modes.member? (modes : Modes) : Atom → Option CharSet
  | .set members => some members
  | .look _ => none
  | atom => (modes.memberChar? atom).map .only

/-- The character behind a hyphen that decides whether the hyphen writes a range. What the modes
ignore is passed over, except that of a comment only the sign is. -/
def Modes.peek (modes : Modes) (behind : Text) : Option Char :=
  if !modes.extended then behind.head?
  else
    match behind.dropWhile Text.isBlank with
    | '#' :: comment => (comment.dropWhile Text.isBlank).head?.or behind.head?
    | rest => rest.head?.or behind.head?

/-- Read one item of a class: a character, a range or a class that an escape names. -/
def readRange (modes : Modes) (text : Text) : Option (CharSet × Text) := do
  let (first, text) ← readMember modes text
  match modes.skip text with
  | [] => none
  | '-' :: behind =>
      match modes.peek behind with
      | some ']' | some '-' => return (← modes.member? first, '-' :: behind)
      | _ =>
          let (last, rest) ← readMember modes (modes.skip behind)
          let first ← modes.memberChar? first
          let last ← modes.memberChar? last
          if first ≤ last then some (.range first last, rest) else none
  | text => return (← modes.member? first, text)

/-- The literal hyphens at the start of a class, and the text behind them. -/
def readHyphens (modes : Modes) : (fuel : Nat) → ClassFrame → Text → ClassFrame × Text
  | 0, frame, text => (frame, text)
  | fuel + 1, frame, text =>
      match text with
      | '-' :: rest => readHyphens modes fuel (frame.pushChar '-') (modes.skip rest)
      | text => (frame, text)

/-- Read the start of a class, behind its bracket: a negation, literal hyphens and a literal closing
bracket. -/
def openClass (modes : Modes) (text : Text) : ClassFrame × Text :=
  let (negated, text) : Bool × Text := match modes.skip text with
    | '^' :: text => (true, modes.skip text)
    | text => (false, text)
  match readHyphens modes text.length { negated } text with
  | (frame, ']' :: rest) =>
      if frame.count = 0 then (frame.pushChar ']', modes.skip rest) else (frame, ']' :: rest)
  | (frame, rest) => (frame, rest)

/-- Read the rest of a class, of which `frame` has been read, and of the classes around it. -/
def readClass (modes : Modes) :
    (fuel : Nat) → ClassFrame → (outer : List ClassFrame) → Text → Option (Members × Text)
  | 0, _, _, _ => none
  | fuel + 1, frame, outer, text =>
      match modes.skip text with
      | [] => none
      | '[' :: rest =>
          match readNamedClass modes rest with
          | some (named, rest) => do
              readClass modes fuel (frame.push { set := ← named, depth := 0 }) outer rest
          | none =>
              let (inner, rest) := openClass modes rest
              readClass modes fuel inner (frame :: outer) rest
      | ']' :: rest => do
          let members ← frame.close? modes
          match outer with
          | [] => some (members, rest)
          | parent :: outer => readClass modes fuel (parent.push members) outer rest
      | '&' :: '&' :: rest => readClass modes fuel (frame.wait modes .intersection) outer rest
      | '-' :: '-' :: rest => readClass modes fuel (frame.wait modes .difference) outer rest
      | '~' :: '~' :: rest =>
          readClass modes fuel (frame.wait modes .symmetricDifference) outer rest
      | text => do
          let (set, rest) ← readRange modes text
          readClass modes fuel (frame.push { set, depth := 0 }) outer rest

/-! ## Repetitions -/

/-- The largest count that a repetition may carry. -/
def largestCount : Nat := 0xFFFFFFFF

/-- The digits at the start of a text, what the modes ignore between them allowed, and the rest. -/
def readDigits (modes : Modes) : (fuel : Nat) → Text → Text × Text
  | 0, text => ([], text)
  | _ + 1, [] => ([], [])
  | fuel + 1, char :: rest =>
      if char.isDigit then
        let (digits, rest) := readDigits modes fuel (modes.skip rest)
        (char :: digits, rest)
      else ([], char :: rest)

/-- Read a count with blanks around it. There may be no digits, and then there is no count. -/
def readCount (modes : Modes) (text : Text) : Option (Option Nat × Text) :=
  let text := text.dropWhile Text.isBlank
  let (digits, rest) := readDigits modes text.length text
  let rest := modes.skip (rest.dropWhile Text.isBlank)
  if digits.isEmpty then some (none, rest)
  else
    let count := Text.decimalValue digits
    if count ≤ largestCount then some (some count, rest) else none

/-- Read the bounds of a repetition behind the opening brace, and the closing brace. -/
def readBounds (modes : Modes) (text : Text) : Option ((Nat × Option Nat) × Text) := do
  let (least?, text) ← readCount modes (modes.skip text)
  let least ← least?
  match text with
  | '}' :: rest => some ((least, some least), rest)
  | ',' :: rest =>
      match modes.skip rest with
      | '}' :: rest => some ((least, none), rest)
      | text =>
          let (most?, text) ← readCount modes text
          let most ← most?
          match text with
          | '}' :: rest => if least ≤ most then some ((least, some most), rest) else none
          | _ => none
  | _ => none

/-- Whether a repetition is greedy: a question mark behind it says the opposite of the mode. -/
def readGreed (modes : Modes) (text : Text) : Bool × Text :=
  match text with
  | '?' :: rest => (modes.swapGreed, rest)
  | text => (!modes.swapGreed, text)

/-! ## Groups -/

/-- Whether a character may stand in the name of a group. -/
def isNameChar (first : Bool) (char : Char) : Bool :=
  if first then char == '_' || Unicode.isAlphabetic char
  else char == '_' || char == '.' || char == '[' || char == ']' || Unicode.isAlphanumeric char

/-- Read the name of a group and the bracket behind it. -/
def readName (text : Text) : Option (Text × Text) :=
  match text.takeWhile (· != '>'), text.dropWhile (· != '>') with
  | first :: others, _ :: rest =>
      if isNameChar true first && others.all (isNameChar false) then some (first :: others, rest)
      else none
  | _, _ => none

/-- The modes with the one that a letter names switched on or off. -/
def Modes.set? (modes : Modes) (letter : Char) (value : Bool) : Option Modes :=
  match letter with
  | 'i' => some { modes with ignoreCase := value }
  | 'm' => some { modes with multiLine := value }
  | 's' => some { modes with dotAll := value }
  | 'U' => some { modes with swapGreed := value }
  | 'R' => some { modes with anyLineBreak := value }
  | 'u' => some { modes with unicode := value }
  | 'x' => some { modes with extended := value }
  | _ => none

/-- Read the letters of modes up to a colon or a closing parenthesis. Each letter and the minus sign
may stand there once, the minus sign not at the end. The letters so far are in `seen`. -/
def readModes (modes : Modes) (seen : List Char) : Text → Option (Modes × List Char × Text)
  | [] => none
  | char :: rest =>
      if char == ':' || char == ')' then
        if seen.head? == some '-' then none else some (modes, seen, char :: rest)
      else if seen.contains char then none
      else if char == '-' then readModes modes (char :: seen) rest
      else
        match modes.set? char (!seen.contains '-') with
        | some modes => readModes modes (char :: seen) rest
        | none => none

/-- What an opening parenthesis begins. -/
inductive Opening where
  /-- A change of modes for the rest of the enclosing group. -/
  | modes (modes : Modes)
  /-- A group that remembers nothing, read under modes of its own. -/
  | plain (modes : Modes)
  /-- A group with a number. -/
  | numbered (index : Nat)

/-- Count a new group and enter its name. A name may be given once. -/
def Groups.open? (groups : Groups) (name : Option Text) : Option (Opening × Groups) :=
  let index := groups.count + 1
  match name with
  | none => some (.numbered index, { groups with count := index })
  | some name =>
      if (groups.names.lookup name).isSome then none
      else some (.numbered index, { count := index, names := (name, index) :: groups.names })

/-- Read what follows an opening parenthesis up to the start of the group's body. -/
def readOpening (modes : Modes) (groups : Groups) (text : Text) :
    Option (Opening × Groups × Text) :=
  match modes.skip text with
  | '?' :: '=' :: _ | '?' :: '!' :: _ => none
  | '?' :: '<' :: '=' :: _ | '?' :: '<' :: '!' :: _ => none
  | '?' :: 'P' :: '<' :: rest | '?' :: '<' :: rest => do
      let (name, rest) ← readName rest
      let (opening, groups) ← groups.open? (some name)
      return (opening, groups, rest)
  | '?' :: rest => do
      let (inner, seen, rest) ← readModes modes [] rest
      match rest with
      | ':' :: rest => some (.plain inner, groups, rest)
      | _ :: rest => if seen.isEmpty then none else some (.modes inner, groups, rest)
      | [] => none
  | text => do
      let (opening, groups) ← groups.open? none
      return (opening, groups, text)

/-! ## Patterns -/

/-- A character that stands for itself. -/
def Modes.literal (modes : Modes) (char : Char) : Notation :=
  let set : CharSet := .only char
  .oneOf 0 (if modes.unicode || char.toNat < 128 then modes.widen set else set)

/-- What the dot stands for. Without Unicode it would be any byte, and so bytes that are no
characters. -/
def Modes.dot? (modes : Modes) : Option Notation :=
  if !modes.unicode then none
  else if modes.dotAll then some (.oneOf 0 .all)
  else if modes.anyLineBreak then some (.oneOf 0 (.complement (.unions [.only '\n', .only '\r'])))
  else some (.oneOf 0 (.complement (.only '\n')))

/-- The condition of the sign for the start of a text or line. -/
def Modes.startSign (modes : Modes) : Assertion :=
  if !modes.multiLine then .textStart
  else if modes.anyLineBreak then .anyLineStart
  else .lineStart

/-- The condition of the sign for the end of a text or line. -/
def Modes.endSign (modes : Modes) : Assertion :=
  if !modes.multiLine then .textEnd
  else if modes.anyLineBreak then .anyLineEnd
  else .lineEnd

/-- What an escape outside of classes stands for. -/
def Modes.atom? (modes : Modes) : Atom → Option Notation
  | .literal char => some (modes.literal char)
  | .byte char => if modes.unicode || char.toNat < 128 then some (modes.literal char) else none
  | .set members => some (.oneOf 0 members)
  | .look assertion => some (.look assertion)

/-- A group or the whole pattern while it is read: the finished alternatives and the items of the
current one, both with the latest first. -/
structure Branches where
  finished : List Notation := []
  items : List Notation := []

namespace Branches

/-- Add an item to the current alternative. -/
def push (branches : Branches) (item : Notation) : Branches :=
  { branches with items := item :: branches.items }

/-- The current alternative. -/
def current (branches : Branches) : Notation :=
  .ofParts branches.items.reverse

/-- Finish the current alternative and begin another one. -/
def next (branches : Branches) : Branches :=
  { finished := branches.current :: branches.finished, items := [] }

/-- Repeat the latest item. A change of modes cannot be repeated. -/
def repeatLast? (branches : Branches) (least : Nat) (most : Option Nat) (greedy : Bool) :
    Option Branches :=
  match branches.items with
  | [] | .modes :: _ => none
  | item :: items => some { branches with items := .repeated least most greedy item :: items }

/-- The choice between all alternatives. -/
def close (branches : Branches) : Notation :=
  .ofOptions (branches.current :: branches.finished).reverse

end Branches

/-- Read the rest of a group, up to its closing parenthesis or the end of the text. -/
def readBranches :
    (fuel : Nat) → Modes → Groups → Branches → Text → Option (Notation × Groups × Text)
  | 0, _, _, _, _ => none
  | fuel + 1, modes, groups, branches, text =>
      let continueWith (branches : Branches) (rest : Text) :=
        readBranches fuel modes groups branches rest
      let repeatWith (least : Nat) (most : Option Nat) (rest : Text) := do
        let (greedy, rest) := readGreed modes rest
        continueWith (← branches.repeatLast? least most greedy) rest
      match modes.skip text with
      | [] => some (branches.close, groups, [])
      | ')' :: rest => some (branches.close, groups, ')' :: rest)
      | '|' :: rest => continueWith branches.next rest
      | '(' :: rest =>
          match readOpening modes groups rest with
          | none => none
          | some (.modes inner, groups, rest) =>
              readBranches fuel inner groups (branches.push .modes) rest
          | some (.plain inner, groups, rest) =>
              match readBranches fuel inner groups {} rest with
              | some (body, groups, ')' :: rest) =>
                  readBranches fuel modes groups (branches.push (.plain body)) rest
              | _ => none
          | some (.numbered index, groups, rest) =>
              match readBranches fuel modes groups {} rest with
              | some (body, groups, ')' :: rest) =>
                  readBranches fuel modes groups (branches.push (.group index body)) rest
              | _ => none
      | '[' :: rest => do
          let (frame, rest) := openClass modes rest
          let (members, rest) ← readClass modes (rest.length + 1) frame [] rest
          continueWith (branches.push (.oneOf members.depth members.set)) rest
      | '?' :: rest => repeatWith 0 (some 1) rest
      | '*' :: rest => repeatWith 0 none rest
      | '+' :: rest => repeatWith 1 none rest
      | '{' :: rest => do
          let ((least, most), rest) ← readBounds modes rest
          repeatWith least most (modes.skip rest)
      | '\\' :: rest => do
          let (atom, rest) ← readEscape modes rest
          continueWith (branches.push (← modes.atom? atom)) rest
      | '.' :: rest => do continueWith (branches.push (← modes.dot?)) rest
      | '^' :: rest => continueWith (branches.push (.look modes.startSign)) rest
      | '$' :: rest => continueWith (branches.push (.look modes.endSign)) rest
      | char :: rest => continueWith (branches.push (modes.literal char)) rest

/-- How deeply the notation may be nested. -/
def depthLimit : Nat := 250

/-- The expression that a text denotes, if it denotes one. -/
def read? (text : Text) : Option Expression :=
  match readBranches (text.length + 1) {} {} {} text with
  | some (written, groups, []) =>
      if written.depth ≤ depthLimit && written.fits then
        some { pattern := written.pattern, names := groups.names }
      else none
  | _ => none

end Expression

end Reflow
