import Reflow.Command.Host
import Reflow.Json.Document
import Reflow.Layout.Configuration
import Reflow.Layout.Scan
import Reflow.Text.Lines
import Reflow.Text.Quote

/-!
# Running a command

A command first reads what its settings name, then its input; it works on the input, and only then
writes. So a command that fails in a world has not changed anything.
-/

namespace Reflow.Command

variable {m : Type → Type} [Host m]

/-- Go on with a result, or end in its error. -/
def require {α : Type} : Except Error α → m α
  | .ok value => pure value
  | .error error => Host.fail error

/-- Read the input of a command: the contents of its files, or the standard input. It is up to the
host to refuse a standard input that is a terminal; a world has none. -/
def readSources (files : List Text) : m Text :=
  match files with
  | [] => Host.readInput
  | files => do return (← files.mapM Host.readFile).flatten

/-- The options that the settings of a layout start from. -/
def LayoutSettings.base (settings : LayoutSettings) : m LayoutOptions := do
  match settings.config, settings.preset with
  | some path, _ =>
      let text ← Host.readFile path
      require ((LayoutOptions.ofDocument text).mapError .configuration)
  | none, some .brackets => return .brackets
  | none, _ => return .tags

/-- Options of a layout with those settings that have been given instead of its own. -/
def LayoutSettings.override (settings : LayoutSettings) (base : LayoutOptions) : LayoutOptions :=
  let instead (given configured : List Text) := if given.isEmpty then configured else given
  { openTokens := instead settings.openTokens base.openTokens
    closeTokens := instead settings.closeTokens base.closeTokens
    breakTokens := instead settings.breakTokens base.breakTokens
    indentWidth := settings.indentWidth.getD base.indentWidth
    lineEnding := settings.lineEnding.getD base.lineEnding }

/-- A pattern that may be missing. -/
def readPattern (text : Option Text) : Except Error (Option Pattern) :=
  match text with
  | none => .ok none
  | some text => (Expression.read text).map (some ·.pattern) |>.mapError .pattern

/-- The options that the settings of a cleaning ask for. -/
def CleanSettings.options (settings : CleanSettings) : Except Error Json.CleanOptions := do
  let keyPattern ← readPattern settings.keyPattern
  let valuePattern ← readPattern settings.valuePattern
  return {
    null := settings.null
    blankString := settings.blank
    falseBool := settings.falseBool
    emptyObject := settings.emptyObject
    emptyArray := settings.emptyArray
    keyPattern
    valuePattern }

/-- Lay out a text. -/
def layOut (options : LayoutOptions) (text : Text) : Except Error Text :=
  match (Layout.ofOptions options).reflow? text with
  | some laidOut => .ok laidOut
  | none => .error .layout

/-- What an action makes of an input, once its settings have been read. -/
def Action.prepare (action : Action) : m (Text → Except Error Text) := do
  match action with
  | .reflow settings => return layOut (settings.override (← settings.base))
  | .compress collapse =>
      return fun text => .ok (if collapse then text.collapse else text.compress)
  | .reformat => return fun text => (Json.reformat text).mapError .document
  | .minify => return fun text => (Json.minify text).mapError .document
  | .escape => return fun text => .ok text.escapeQuotes
  | .unescape => return fun text => .ok text.unescapeQuotes
  | .sort order => return fun text => (Json.sortFields order text).mapError .document
  | .clean settings =>
      let options ← require settings.options
      return fun text => (Json.cleanUp options text).mapError .document
  | .query => return fun text => (Json.toQuery text).mapError .document
  | .expand mark => return fun text => (Json.expandEmbedded mark text).mapError .document
  | .convertDump => return fun text => (Dump.toDocument text).mapError .ofDump

/-- Deliver an output: to a file as it is, or to the standard output with a line feed. -/
def deliver (output : Option Text) (text : Text) : m Unit :=
  match output with
  | none => do
      Host.print text
      Host.print ['\n']
  | some path => Host.writeFile path text

/-- Do what a request asks for. -/
def Request.perform (request : Request) : m Unit := do
  let transform ← request.action.prepare
  let text ← readSources request.files
  deliver request.output (← require (transform text))

/-- Run a command. -/
def execute (arguments : List Text) : m Unit := do
  let request ← require ((readCommand arguments).mapError .usage)
  request.perform

/-- What a command leaves behind. -/
structure Outcome where
  standardOutput : Text
  directory : Directory
deriving DecidableEq, Repr

/-- Run a command in a directory, nothing being printed yet, and look at what it leaves behind. -/
def run (directory : Directory) (standardInput : Content) (arguments : List Text) :
    Except Error Outcome :=
  match (execute arguments : Program Unit) { directory, standardInput, standardOutput := [] } with
  | .ok _ world => .ok { standardOutput := world.standardOutput, directory := world.directory }
  | .error error _ => .error error

end Reflow.Command
