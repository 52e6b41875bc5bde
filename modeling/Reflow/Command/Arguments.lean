import Reflow.Command.Switch
import Reflow.Json.Sort
import Reflow.Layout.Options

/-!
# Commands

What the command line asks for: an action on an input, where the input comes from and where the
output goes to.
-/

namespace Reflow.Command

/-- The options that are built in. -/
inductive Preset where
  | tags
  | brackets
deriving DecidableEq, Repr

/-- The settings of a layout. -/
structure LayoutSettings where
  /-- A file with options to start from. -/
  config : Option Text
  /-- The built-in options to start from. -/
  preset : Option Preset
  indentWidth : Option Nat
  lineEnding : Option LineEnding
  openTokens : List Text
  closeTokens : List Text
  breakTokens : List Text
deriving DecidableEq, Repr

/-- The settings of a cleaning. -/
structure CleanSettings where
  null : Bool
  blank : Bool
  falseBool : Bool
  emptyObject : Bool
  emptyArray : Bool
  keyPattern : Option Text
  valuePattern : Option Text
deriving DecidableEq, Repr

/-- What is done with the input. -/
inductive Action where
  | reflow (settings : LayoutSettings)
  | compress (collapse : Bool)
  | reformat
  | minify
  | escape
  | unescape
  | sort (order : Json.SortOrder)
  | clean (settings : CleanSettings)
  | query
  | expand (mark : Bool)
  | convertDump
deriving DecidableEq, Repr

/-- An action with its input and output. -/
structure Request where
  action : Action
  /-- The files whose contents, one after the other, are the input. Without files the standard input
  is. -/
  files : List Text
  /-- The file that takes the output. Without it the standard output does. -/
  output : Option Text
deriving DecidableEq, Repr

/-! ## Switches -/

/-- A flag. -/
def flag (name : String) : Switch :=
  { name := name.toList, letter := none, form := none, repeatable := false }

/-- A switch that takes one value. -/
def setting (name : String) (form : ValueForm) (letter : Option Char := none) : Switch :=
  { name := name.toList, letter, form := some form, repeatable := false }

/-- A switch that takes a token each time it is given. -/
def tokens (name : String) : Switch :=
  { name := name.toList, letter := none, form := some .any, repeatable := true }

/-- The input files. -/
def filesSwitch : Switch :=
  { name := [], letter := none, form := some .path, repeatable := true }

/-- The output file. -/
def outputSwitch : Switch :=
  setting "output" .path (some 'o')

/-- The grammar of a command with switches of its own. -/
def grammar (switches : List Switch) : Grammar :=
  { switches := outputSwitch :: switches, files := filesSwitch }

/-- The switches of a layout. -/
def layoutSwitches : List Switch :=
  [setting "config" .path,
    setting "preset" (.oneOf ["tags".toList, "brackets".toList]),
    setting "indent" .size (some 'i'),
    setting "eol" (.oneOf ["lf".toList, "crlf".toList]),
    tokens "open", tokens "close", tokens "break"]

/-- The switches of a cleaning. -/
def cleanSwitches : List Switch :=
  [flag "null", flag "blank", flag "false", flag "empty-object", flag "empty-array",
    setting "key-pattern" .any, setting "value-pattern" .any]

/-- The settings of a layout that have been given. -/
def layoutSettings (given : Given) : LayoutSettings where
  config := given.value? "config".toList
  preset := (given.value? "preset".toList).map fun name =>
    if name = "brackets".toList then .brackets else .tags
  indentWidth := (given.value? "indent".toList).bind size?
  lineEnding := (given.value? "eol".toList).map fun name =>
    if name = "crlf".toList then .crlf else .lf
  openTokens := given.all "open".toList
  closeTokens := given.all "close".toList
  breakTokens := given.all "break".toList

/-- The settings of a cleaning that have been given. -/
def cleanSettings (given : Given) : CleanSettings where
  null := given.has "null".toList
  blank := given.has "blank".toList
  falseBool := given.has "false".toList
  emptyObject := given.has "empty-object".toList
  emptyArray := given.has "empty-array".toList
  keyPattern := given.value? "key-pattern".toList
  valuePattern := given.value? "value-pattern".toList

/-! ## The menu of commands -/

/-- A command by its name. -/
structure Entry where
  name : Text
  switches : List Switch
  /-- The action that the given switches ask for. -/
  action : Given → Action

/-- The commands that work on documents. -/
def documentEntries : List Entry :=
  [⟨"format".toList, [], fun _ => .reformat⟩,
    ⟨"minify".toList, [], fun _ => .minify⟩,
    ⟨"escape".toList, [], fun _ => .escape⟩,
    ⟨"unescape".toList, [], fun _ => .unescape⟩,
    ⟨"sort".toList, [flag "desc"], fun given =>
      .sort (if given.has "desc".toList then .descending else .ascending)⟩,
    ⟨"clean".toList, cleanSwitches, fun given => .clean (cleanSettings given)⟩,
    ⟨"query".toList, [], fun _ => .query⟩,
    ⟨"expand".toList, [flag "mark"], fun given => .expand (given.has "mark".toList)⟩]

/-- The other commands. -/
def textEntries : List Entry :=
  [⟨"reflow".toList, layoutSwitches, fun given => .reflow (layoutSettings given)⟩,
    ⟨"compress".toList, [flag "collapse"], fun given => .compress (given.has "collapse".toList)⟩,
    ⟨"to-json".toList, [], fun _ => .convertDump⟩]

/-- The name under which the commands for documents are found. -/
def documentMenu : Text := "json".toList

/-- The name of the command that shows help. -/
def helpName : Text := "help".toList

/-- Read the arguments of a command. -/
def Entry.read (entry : Entry) (arguments : List Text) : Except UsageError Request := do
  let given ← (grammar entry.switches).read arguments
  return {
    action := entry.action given
    files := given.all filesSwitch.name
    output := given.value? outputSwitch.name }

/-- What a menu finds when the argument is none of its names. -/
def readStray (names : List Text) (versioned : Bool) (argument : Text) (arguments : List Text) :
    UsageError :=
  match argument with
  | ['-', '-'] =>
      match arguments with
      | [] => .missingCommand
      | first :: _ => if names.contains first then .unknownArgument else .unknownCommand
  | '-' :: '-' :: argument =>
      let (name, attached) := Grammar.cutValue argument
      if name = "help".toList then if attached.isSome then .unwantedValue else .help
      else if versioned && name = "version".toList then
        if attached.isSome then .unwantedValue else .version
      else .unknownArgument
  | '-' :: letter :: _ =>
      if letter = 'h' then .help
      else if versioned && letter = 'V' then .version
      else .unknownArgument
  | _ => .unknownCommand

/-- Show help on the command that names lead to. -/
def readHelp (arguments : List Text) : UsageError :=
  let top := helpName :: documentMenu :: textEntries.map (·.name)
  let document := helpName :: documentEntries.map (·.name)
  match arguments with
  | [] => .help
  | [name] => if top.contains name then .help else .unknownCommand
  | [menu, name] =>
      if menu = documentMenu ∧ document.contains name then .help else .unknownCommand
  | _ => .unknownCommand

/-- Show help on the document command that names lead to. -/
def readDocumentHelp (arguments : List Text) : UsageError :=
  match arguments with
  | [] => .help
  | [name] =>
      if (helpName :: documentEntries.map (·.name)).contains name then .help else .unknownCommand
  | _ => .unknownCommand

/-- Read the arguments behind the name of the menu for documents. -/
def readDocumentCommand (arguments : List Text) : Except UsageError Request :=
  match arguments with
  | [] => .error .missingCommand
  | name :: arguments =>
      match documentEntries.find? (·.name == name) with
      | some entry => entry.read arguments
      | none =>
          if name = helpName then .error (readDocumentHelp arguments)
          else
            .error (readStray (helpName :: documentEntries.map (·.name)) false name arguments)

/-- Read a command line. -/
def readCommand (arguments : List Text) : Except UsageError Request :=
  match arguments with
  | [] => .error .missingCommand
  | name :: arguments =>
      match textEntries.find? (·.name == name) with
      | some entry => entry.read arguments
      | none =>
          if name = documentMenu then readDocumentCommand arguments
          else if name = helpName then .error (readHelp arguments)
          else
            .error (readStray (helpName :: documentMenu :: textEntries.map (·.name)) true name
              arguments)

end Reflow.Command
