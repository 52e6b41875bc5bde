import Reflow.Json.Decode
import Reflow.Layout.Options

/-!
# Configuration documents

Options of a layout written as JSON. A field that is left out keeps its value of the preset for
tags; a field that is not known is refused.
-/

namespace Reflow.LayoutOptions

open Json

/-- A field that holds candidates. -/
def candidatesField (name : String) (set : LayoutOptions → List Text → LayoutOptions) :
    RecordField LayoutOptions where
  name := name
  decode options text := do
    let (candidates, rest) ← decodeList decodeText text
    return (set options candidates, rest)
  required := false

/-- The candidates for tokens that open a level. -/
def openTokensField : RecordField LayoutOptions :=
  candidatesField "open_tokens" fun options openTokens => { options with openTokens }

/-- The candidates for tokens that close a level. -/
def closeTokensField : RecordField LayoutOptions :=
  candidatesField "close_tokens" fun options closeTokens => { options with closeTokens }

/-- The candidates for tokens that end a line. -/
def breakTokensField : RecordField LayoutOptions :=
  candidatesField "break_tokens" fun options breakTokens => { options with breakTokens }

/-- The number of spaces for each level. -/
def indentWidthField : RecordField LayoutOptions where
  name := "indent_width"
  decode options text := do
    let (indentWidth, rest) ← decodeSize text
    return ({ options with indentWidth }, rest)
  required := false

/-- How lines are ended. -/
def lineEndingField : RecordField LayoutOptions where
  name := "eol_style"
  decode options text := do
    let (lineEnding, rest) ← decodeChoice [("crlf", .crlf), ("lf", .lf)] text
    return ({ options with lineEnding }, rest)
  required := false

/-- The shape of options. -/
def shape : RecordShape LayoutOptions where
  title := "struct ReflowOptions"
  fields := [openTokensField, closeTokensField, breakTokensField, indentWidthField, lineEndingField]
  initial := tags
  lenient := false

/-- The options that a document denotes. -/
def ofDocument (text : Text) : Except DecodeError LayoutOptions :=
  decodeDocument shape.decode text

end Reflow.LayoutOptions
