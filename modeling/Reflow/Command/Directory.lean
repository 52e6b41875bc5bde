import Reflow.Text.Basic

/-!
# The directory of a command

A command reads and writes files of one directory, the one it runs in. A path may go around through
the directory itself, but leads to nothing outside of it. Files elsewhere, links, and rights to
access a file are left out.
-/

namespace Reflow.Command

/-- What a file holds: a text, or bytes that are no text in UTF-8. -/
inductive Content where
  | text (text : Text)
  | bytes (bytes : List UInt8)
deriving DecidableEq, Repr

/-- Why a file cannot be read or written. -/
inductive AccessFault where
  | notFound
  | isDirectory
  | notDirectory
  | nameTooLong
  /-- The path holds a zero character. -/
  | zeroInPath
  | notText
deriving DecidableEq, Repr

namespace AccessFault

/-- The wording of a fault. -/
def message : AccessFault → String
  | .notFound => "No such file or directory (os error 2)"
  | .isDirectory => "Is a directory (os error 21)"
  | .notDirectory => "Not a directory (os error 20)"
  | .nameTooLong => "File name too long (os error 36)"
  | .zeroInPath => "file name contained an unexpected NUL byte"
  | .notText => "stream did not contain valid UTF-8"

end AccessFault

/-- The text that a content holds. -/
def Content.read : Content → Except AccessFault Text
  | .text held => .ok held
  | .bytes _ => .error .notText

/-- The files of a directory by their names. -/
structure Directory where
  files : List (Text × Content)
deriving DecidableEq, Repr

/-- Where a path leads. -/
inductive Target where
  | directory
  /-- A file, there or not. -/
  | file (name : Text)
deriving DecidableEq, Repr

namespace Directory

/-- What a file holds, if it is there. -/
def find? (directory : Directory) (name : Text) : Option Content :=
  directory.files.lookup name

/-- The directory with a file that holds a content. -/
def put (directory : Directory) (name : Text) (content : Content) : Directory :=
  if (directory.find? name).isSome then
    { files := directory.files.map fun (other, old) =>
        if other = name then (other, content) else (other, old) }
  else { files := directory.files ++ [(name, content)] }

/-- The longest name of a file, in bytes. -/
def longestName : Nat := 255

/-- The longest path, in bytes. -/
def longestPath : Nat := 4095

/-- What a path is used for. -/
inductive Purpose where
  | reading
  /-- Writing a file, which is made if it is not there. -/
  | writing
deriving DecidableEq, Repr

/-- Whether a step of a path stays where it is. -/
def staysPut (step : Text) : Bool :=
  step == [] || step == ['.']

/-- Where the steps of a path lead. A path with a slash at its end names a directory, and cannot be
written as a file. -/
def resolve (directory : Directory) (purpose : Purpose) : List Text → Except AccessFault Target
  | [] => .ok .directory
  | [name] =>
      if staysPut name || name == ['.', '.'] then .ok .directory
      else if longestName < name.byteLength then .error .nameTooLong
      else .ok (.file name)
  | name :: next :: steps =>
      if staysPut name then directory.resolve purpose (next :: steps)
      else if name == ['.', '.'] then
        if (next :: steps).all fun step => staysPut step || step == ['.', '.'] then .ok .directory
        else .error .notFound
      else if purpose == .writing && (next :: steps).all List.isEmpty then .ok .directory
      else if longestName < name.byteLength then .error .nameTooLong
      else if (directory.find? name).isSome then .error .notDirectory
      else .error .notFound

/-- Where a path leads. -/
def locate (directory : Directory) (purpose : Purpose) (path : Text) : Except AccessFault Target :=
  if path.contains '\x00' then .error .zeroInPath
  else if longestPath < path.byteLength then .error .nameTooLong
  else
    match path with
    | '/' :: rest =>
        if rest.all (· == '/') then .ok .directory else .error .notFound
    | path => directory.resolve purpose (Text.splitAt (· == '/') path)

/-- Read the text of a file. -/
def read (directory : Directory) (path : Text) : Except AccessFault Text := do
  match ← directory.locate .reading path with
  | .directory => .error .isDirectory
  | .file name =>
      match directory.find? name with
      | some content => content.read
      | none => .error .notFound

/-- The directory behind writing a text to a file. A file that is not there is made. -/
def write (directory : Directory) (path : Text) (text : Text) : Except AccessFault Directory := do
  match ← directory.locate .writing path with
  | .directory => .error .isDirectory
  | .file name => .ok (directory.put name (.text text))

end Directory

end Reflow.Command
