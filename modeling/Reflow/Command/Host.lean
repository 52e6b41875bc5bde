import Reflow.Command.Arguments
import Reflow.Command.Directory
import Reflow.Json.Decode
import Reflow.Rewrite.Dump

/-!
# What a command runs on

A command reads files and the standard input, writes files and prints. What it runs on is left open:
it may be a machine, where each of these may fail, or a world that is a value. In such a world a
failure does not undo anything. Whatever has been done until then has been done.

A world has sound devices. A file may be missing, out of reach or no text, and the standard input
may be no text; but the standard output takes all that is printed, and a file is written as a whole
or not at all. An output that is closed or full, and a device that gives up in the middle, are not
part of a world.
-/

namespace Reflow.Command

/-- Why a command fails. -/
inductive Error where
  | usage (error : UsageError)
  /-- A document is empty or malformed. -/
  | document (error : Json.Error)
  | pattern (invalid : InvalidPattern)
  | configuration (error : Json.DecodeError)
  | access (path : Text) (fault : AccessFault)
  /-- A token of a layout ends inside of a character. -/
  | layout
deriving DecidableEq, Repr

namespace Error

/-- The wording of an error. One wording stands for all usage errors, and the reason why a pattern
is invalid is left out. -/
def message : Error → String
  | .usage _ => "the arguments make up no command"
  | .document error => error.message
  | .pattern invalid => "invalid pattern '" ++ String.ofList invalid.pattern ++ "'"
  | .configuration error => "invalid configuration: " ++ error.message
  | .access path fault => "cannot access '" ++ String.ofList path ++ "': " ++ fault.message
  | .layout => "a token ends inside of a character"

/-- The error of converting a dump as an error of a command. -/
def ofDump : Dump.Error → Error
  | .layout => .layout
  | .pattern invalid => .pattern invalid
  | .document error => .document error

end Error

/-- The name under which errors speak of the standard input. -/
def standardInputName : Text := "<stdin>".toList

/-- What a command can do on its host. -/
class Host (m : Type → Type) extends Monad m where
  /-- End in an error. -/
  fail {α : Type} (error : Error) : m α
  /-- Read the text of a file. -/
  readFile (path : Text) : m Text
  /-- Read the standard input up to its end. A host may refuse to, as a terminal has no end. -/
  readInput : m Text
  /-- Make a file hold a text, whether it is there or not. -/
  writeFile (path text : Text) : m Unit
  /-- Write a text to the standard output. -/
  print (text : Text) : m Unit

/-- What a command can see and change: the files of one directory, a standard input that is no
terminal, and a standard output that takes everything. -/
structure World where
  directory : Directory
  /-- What is still to be read from the standard input. -/
  standardInput : Content
  /-- What has been printed. -/
  standardOutput : Text
deriving DecidableEq, Repr

/-- What is done in a world, one thing after the other, up to the end or to an error. Either way
there is a world afterwards. -/
abbrev Program := EStateM Error World

namespace World

/-- Read a file. -/
def readFile (path : Text) : Program Text := fun world =>
  match world.directory.read path with
  | .ok text => .ok text world
  | .error fault => .error (.access path fault) world

/-- Read the standard input. Whatever it holds has then been read. -/
def readInput : Program Text := fun world =>
  let behind := { world with standardInput := .text [] }
  match world.standardInput.read with
  | .ok text => .ok text behind
  | .error fault => .error (.access standardInputName fault) behind

/-- Write a file. If this fails, nothing has been written. -/
def writeFile (path text : Text) : Program Unit := fun world =>
  match world.directory.write path text with
  | .ok directory => .ok () { world with directory }
  | .error fault => .error (.access path fault) world

/-- Print a text. This does not fail. -/
def print (text : Text) : Program Unit := fun world =>
  .ok () { world with standardOutput := world.standardOutput ++ text }

end World

instance : Host Program where
  fail := throw
  readFile := World.readFile
  readInput := World.readInput
  writeFile := World.writeFile
  print := World.print

end Reflow.Command
