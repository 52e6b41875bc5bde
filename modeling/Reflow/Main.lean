import Reflow.Command.Run

/-!
# The program

Runs a command on the machine itself. All decisions about texts are made by the command; this layer
moves texts, refuses a terminal as the standard input, and passes on what the system reports. It
keeps no log of what it does, and has one overview for all requests for help.
-/

namespace Reflow

open Command

/-- What the system says about an error: its number and its wording. Some of the errors come with
their numbers negated. -/
def systemReport? : IO.Error → Option (UInt32 × String)
  | .alreadyExists _ number wording | .invalidArgument _ number wording
  | .permissionDenied _ number wording | .resourceExhausted _ number wording
  | .inappropriateType _ number wording | .noSuchThing _ number wording
  | .interrupted _ number wording | .noFileOrDirectory _ number wording
  | .otherError number wording | .resourceBusy number wording | .resourceVanished number wording
  | .unsupportedOperation number wording | .hardwareFault number wording
  | .unsatisfiedConstraints number wording | .illegalOperation number wording
  | .protocolError number wording | .timeExpired number wording =>
      some (if number < 0x80000000 then number else -number, wording)
  | .unexpectedEof | .userError _ => none

/-- The fault that the system has a number for. -/
def accessFault? : UInt32 → Option AccessFault
  | 2 => some .notFound
  | 20 => some .notDirectory
  | 21 => some .isDirectory
  | 36 => some .nameTooLong
  | _ => none

/-- Why the program fails. -/
inductive Failure where
  | command (error : Command.Error)
  /-- The system does not do what it is asked for, for none of the reasons that a command knows. -/
  | system (path : Text) (wording : String)
  /-- Input is to be read, and the standard input is a terminal. -/
  | terminal

namespace Failure

/-- The failure behind an error of the system. -/
def ofSystem (path : Text) (error : IO.Error) : Failure :=
  match systemReport? error with
  | none => .system path (toString error)
  | some (number, wording) =>
      match accessFault? number with
      | some fault => .command (.access path fault)
      | none => .system path (wording.capitalize ++ " (os error " ++ toString number ++ ")")

/-- The wording of a failure. -/
def message : Failure → String
  | .command error => error.message
  | .system path wording => "cannot access '" ++ String.ofList path ++ "': " ++ wording
  | .terminal => "invalid configuration: no input: pass a file or pipe text into stdin"

/-- The exit code of the program. A token that ends inside of a character is none of the errors that
are provided for, and has a code of its own. -/
def exitCode : Failure → UInt32
  | .command (.usage _) => 2
  | .command .layout => 101
  | _ => 1

end Failure

/-- What the program does on the machine, up to the end or to a failure. -/
abbrev Machine := ExceptT Failure IO

namespace Machine

/-- Do something with what a path names. -/
def accessing {α : Type} (path : Text) (action : IO α) : Machine α :=
  ExceptT.mk do
    try
      return .ok (← action)
    catch error =>
      return .error (.ofSystem path error)

/-- The text in bytes that have been read from a path. -/
def decode (path : Text) (bytes : ByteArray) : Machine Text :=
  match String.fromUTF8? bytes with
  | some text => return text.toList
  | none => throw (.command (.access path .notText))

/-- Read the text of a file. -/
def readFile (path : Text) : Machine Text := do
  decode path (← accessing path (IO.FS.readBinFile (String.ofList path)))

/-- Read the standard input, unless it is a terminal. -/
def readInput : Machine Text := do
  let input ← IO.getStdin
  if ← input.isTty then throw .terminal
  decode standardInputName (← accessing standardInputName input.readBinToEnd)

/-- Print a text. It is written at once, so that an output that takes nothing is noticed. -/
def print (text : Text) : Machine Unit :=
  accessing "<stdout>".toList do
    let output ← IO.getStdout
    output.putStr (String.ofList text)
    output.flush

end Machine

instance : Host Machine where
  fail error := throw (.command error)
  readFile := Machine.readFile
  readInput := Machine.readInput
  writeFile path text :=
    Machine.accessing path (IO.FS.writeFile (String.ofList path) (String.ofList text))
  print := Machine.print

/-- The name of the program and its version. -/
def version : String := "anyfmt 0.1.0"

/-- The commands of the program. This is shown whatever help is asked for; help on a single command
is left out. -/
def overview : String :=
  "\n".intercalate
    ["Re-indents brace, bracket or tag delimited text from a set of tokens",
      "",
      "Usage: anyfmt <COMMAND>",
      "",
      "Commands:",
      "  reflow    Reflow text using open/close/break tokens",
      "  compress  Trim lines and drop blank ones, or join everything into one line",
      "  json      JSON helpers",
      "  to-json   Convert Java-style toString() output to JSON",
      "  help      Print this message or the help of the given subcommand(s)",
      "",
      "Options:",
      "  -h, --help     Print help",
      "  -V, --version  Print version"]

end Reflow

open Reflow in
/-- Run the program with its arguments. -/
def main (arguments : List String) : IO UInt32 := do
  match ← (Command.execute (arguments.map String.toList) : Machine Unit).run with
  | .ok () => return 0
  | .error (.command (.usage .help)) => do
      IO.println overview
      return 0
  | .error (.command (.usage .version)) => do
      IO.println version
      return 0
  | .error failure@(.command (.usage .missingCommand)) => do
      IO.eprintln overview
      return failure.exitCode
  | .error failure => do
      IO.eprintln ("anyfmt: " ++ failure.message)
      return failure.exitCode
