import Reflow.Json.Document
import Reflow.Layout.Scan
import Reflow.Rewrite.Rule

/-!
# Record dumps

Many programs print a record as its name and, in brackets, its fields with an equals sign between
name and value. Laid out in lines, such a dump is close to JSON: the rules below quote names and
values, open objects, and drop commas before closing braces.
-/

namespace Reflow.Dump

/-- A rule that is applied. -/
def rule (pattern replacement : String) : RewriteRule :=
  { enabled := true, pattern := pattern.toList, replacement := replacement.toList }

/-- Drops members that are null. -/
def dropNull : RewriteRule :=
  rule ".*=\"?null\"?;\\n?" ""

/-- Lets a name with a bracket behind it, and perhaps a type between them, open an object. -/
def openObject : RewriteRule :=
  rule "(\\w+)=?\\w*\\s*[\\[\\\x7b]" "\"$1\": \x7b"

/-- Ends an object that is followed by a separator. -/
def closeObject : RewriteRule :=
  rule "[\\]\\\x7d][;,]" "\x7d,"

/-- Quotes a member that is followed by a separator. -/
def quoteMember : RewriteRule :=
  rule "(\\w+)=(.*)[;,]" "\"$1\": \"$2\","

/-- Quotes a member at the end of a line. -/
def quoteLastMember : RewriteRule :=
  rule "(\\w+)=(.*)" "\"$1\": \"$2\""

/-- Drops a comma before a closing brace at the start of a line. -/
def dropComma : RewriteRule :=
  rule ",(\\n\\d*\\\x7d)" "$1"

/-- Takes the quotes from booleans. -/
def bareBoolean : RewriteRule :=
  rule ": \"(true|false)\"" ": $1"

/-- Drops a comma before a closing bracket on the next line. -/
def dropIndentedComma : RewriteRule :=
  rule ",(\\n\\s*[\\\x7d\\]])" "$1"

/-- Joins lines. The rule is kept for those who write rules of their own and is not applied. -/
def joinLines : RewriteRule :=
  { rule "\\s*\\n\\s*" "" with enabled := false }

/-- The rules that turn a dump, laid out by its brackets, into the members of an object. -/
def rules : List RewriteRule :=
  [dropNull, openObject, closeObject, quoteMember, quoteLastMember, dropComma, bareBoolean,
    dropIndentedComma, joinLines]

/-- Put braces around a text that does not begin with a brace or a bracket. -/
def wrap (text : Text) : Text :=
  match text with
  | '{' :: _ | '[' :: _ => text
  | _ => '{' :: text ++ ['}']

/-- Why a dump has no document. -/
inductive Error where
  /-- A token of the layout ends inside of a character. -/
  | layout
  | pattern (invalid : InvalidPattern)
  | document (error : Json.Error)
deriving DecidableEq, Repr

/-- Turn a dump into a document in lines. -/
def toDocument (text : Text) : Except Error Text := do
  let laidOut ← match (Layout.ofOptions .brackets).reflow? text with
    | some laidOut => .ok laidOut
    | none => .error .layout
  let rewritten ← (rewrite rules laidOut).mapError .pattern
  (Json.reformat (wrap rewritten.trim)).mapError .document

end Reflow.Dump
