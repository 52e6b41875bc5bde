import Reflow.Text.Basic

/-!
# Command line arguments

A command line names switches and files. A switch is a flag or takes a value, which may stand in the
same argument or in the next one. Values that stand alone are checked only when the next switch or
file comes, so the order in which faults are noticed is part of the rules.
-/

namespace Reflow.Command

/-- Why the arguments do not make up a command. Asking for help counts as such a reason. -/
inductive UsageError where
  | help
  | version
  /-- No command is given where one has to be. -/
  | missingCommand
  | unknownCommand
  | unknownArgument
  /-- A value is missing, or is none of those allowed. -/
  | invalidValue
  /-- A value is not of the right form. -/
  | malformedValue
  /-- A switch that may be given once is given again. -/
  | repeatedSwitch
  /-- A flag is given a value. -/
  | unwantedValue
deriving DecidableEq, Repr

/-- What the values of a switch have to look like. -/
inductive ValueForm where
  | any
  /-- A path, which must not be empty. -/
  | path
  /-- A number of 64 bits. -/
  | size
  | oneOf (names : List Text)
deriving DecidableEq, Repr

/-- The number of 64 bits that a text denotes in decimal digits, a plus sign before it allowed. -/
def size? (text : Text) : Option Nat :=
  let digits := match text with
    | '+' :: digits => digits
    | digits => digits
  let value := Nat.ofDigitChars 10 digits 0
  if digits.isEmpty || !digits.all Char.isDigit || 0xFFFFFFFFFFFFFFFF < value then none
  else some value

namespace ValueForm

/-- What is wrong with a value, if anything is. -/
def fault? (form : ValueForm) (value : Text) : Option UsageError :=
  match form with
  | .any => none
  | .path => if value.isEmpty then some .invalidValue else none
  | .size => if (size? value).isNone then some .malformedValue else none
  | .oneOf names => if names.contains value then none else some .invalidValue

end ValueForm

/-- A switch, or the files of a command. -/
structure Switch where
  /-- The name behind two hyphens. -/
  name : Text
  /-- The letter behind one hyphen. -/
  letter : Option Char
  /-- The form of the value, if the switch takes one. -/
  form : Option ValueForm
  /-- Whether the switch may be given several times. -/
  repeatable : Bool
deriving DecidableEq, Repr

/-- The values given so far. -/
structure Given where
  /-- Finished values under the names of their switches, the earliest first. A flag has an empty
  value. -/
  values : List (Text × Text)
  /-- A switch whose values have not been checked yet. -/
  pending : Option (Switch × List Text)

namespace Given

/-- Nothing has been given. -/
def nothing : Given := { values := [], pending := none }

/-- Whether a switch has been given. -/
def has (given : Given) (name : Text) : Bool :=
  given.values.any (·.1 == name)

/-- All values of a switch, the earliest first. -/
def all (given : Given) (name : Text) : List Text :=
  (given.values.filter (·.1 == name)).map (·.2)

/-- The value of a switch. -/
def value? (given : Given) (name : Text) : Option Text :=
  (given.all name).head?

/-- Check values of a switch and take them in. -/
def enter (given : Given) (switch : Switch) (values : List Text) : Except UsageError Given :=
  let form := switch.form.getD .any
  if values.isEmpty then .error .invalidValue
  else if !switch.repeatable && given.has switch.name then .error .repeatedSwitch
  else
    match values.findSome? form.fault? with
    | some fault => .error fault
    | none => .ok { given with values := given.values ++ values.map (switch.name, ·) }

/-- Check the values that have been waiting. -/
def settle (given : Given) : Except UsageError Given :=
  match given.pending with
  | none => .ok given
  | some (switch, values) => { given with pending := none }.enter switch values

/-- Let a switch wait for its value. -/
def await (given : Given) (switch : Switch) : Except UsageError Given := do
  return { ← given.settle with pending := some (switch, []) }

/-- Let a value wait under its switch, together with those that wait there already. -/
def hold (given : Given) (switch : Switch) (value : Text) : Except UsageError Given :=
  match given.pending with
  | some (other, values) =>
      if other = switch then
        .ok { given with pending := some (switch, values ++ [value]) }
      else do
        return { ← given.settle with pending := some (switch, [value]) }
  | none => .ok { given with pending := some (switch, [value]) }

/-- Take in a switch with the value that stands in the same argument, if there is one. The result
tells whether the next argument may be its value. -/
def take (given : Given) (switch : Switch) (attached : Option Text) :
    Except UsageError (Bool × Given) :=
  match switch.form, attached with
  | none, some _ => .error .unwantedValue
  | none, none => do return (false, ← (← given.settle).enter switch [[]])
  | some _, some value => do return (false, ← (← given.settle).enter switch [value])
  | some _, none => do return (true, ← given.await switch)

/-- Answer a request for help, once the waiting values are found to be in order. -/
def help {α : Type} (given : Given) (attached : Option Text) : Except UsageError α :=
  match attached with
  | some _ => .error .unwantedValue
  | none => do
      let _ ← given.settle
      .error .help

end Given

/-- The switches of a command, and its files. -/
structure Grammar where
  switches : List Switch
  files : Switch

namespace Grammar

/-- Cut an argument at its first equals sign. -/
def cutValue (argument : Text) : Text × Option Text :=
  match argument.dropWhile (· != '=') with
  | [] => (argument, none)
  | _ :: value => (argument.takeWhile (· != '='), some value)

/-- Take in an argument that starts with two hyphens; the hyphens have been removed. -/
def takeLong (grammar : Grammar) (given : Given) (argument : Text) :
    Except UsageError (Bool × Given) :=
  let (name, attached) := cutValue argument
  if name = "help".toList then given.help attached
  else
    match grammar.switches.find? (·.name == name) with
    | some switch => given.take switch attached
    | none => .error .unknownArgument

/-- Take in an argument that starts with one hyphen; the hyphen has been removed. A switch that
takes a value takes the rest of the argument. -/
def takeLetters (grammar : Grammar) (given : Given) : Text → Except UsageError (Bool × Given)
  | [] => .ok (false, given)
  | letter :: rest =>
      if letter = 'h' then given.help none
      else
        match grammar.switches.find? (·.letter == some letter) with
        | none => .error .unknownArgument
        | some switch =>
            match switch.form, rest with
            | none, rest => do
                let (_, given) ← given.take switch none
                takeLetters grammar given rest
            | some _, [] => given.take switch none
            | some _, '=' :: value => given.take switch (some value)
            | some _, value => given.take switch (some value)

/-- Take in arguments. `awaiting` tells whether a switch waits for its value; `onlyFiles` whether
the end of the switches has been marked. -/
def takeAll (grammar : Grammar) (given : Given) (awaiting onlyFiles : Bool) :
    List Text → Except UsageError Given
  | [] => given.settle
  | argument :: arguments => do
      if onlyFiles then
        grammar.takeAll (← given.hold grammar.files argument) false true arguments
      else
        match argument with
        | ['-', '-'] => grammar.takeAll given false true arguments
        | '-' :: '-' :: argument =>
            let (awaiting, given) ← grammar.takeLong given argument
            grammar.takeAll given awaiting false arguments
        | '-' :: letter :: letters =>
            let (awaiting, given) ← grammar.takeLetters given (letter :: letters)
            grammar.takeAll given awaiting false arguments
        | argument =>
            match awaiting, given.pending with
            | true, some (switch, _) =>
                grammar.takeAll (← given.hold switch argument) false false arguments
            | _, _ => grammar.takeAll (← given.hold grammar.files argument) false false arguments

/-- Read the arguments of a command. -/
def read (grammar : Grammar) (arguments : List Text) : Except UsageError Given :=
  grammar.takeAll .nothing false false arguments

end Grammar

end Reflow.Command
