import Reflow.Json.Decode
import Reflow.Rewrite.Rule

/-!
# Documents of rules

A list of rules written as JSON. The pattern of a rule has to be there; without a template it
deletes, and it is enabled unless it says otherwise. Members that are not known are passed over.
-/

namespace Reflow.RewriteRule

open Json

/-- Whether the rule is applied. -/
def enabledField : RecordField RewriteRule where
  name := "enabled"
  decode rule text := do
    let (enabled, rest) ← decodeBool text
    return ({ rule with enabled }, rest)
  required := false

/-- The pattern of the rule. -/
def patternField : RecordField RewriteRule where
  name := "pattern"
  decode rule text := do
    let (pattern, rest) ← decodeText text
    return ({ rule with pattern }, rest)
  required := true

/-- The template of the rule. -/
def replacementField : RecordField RewriteRule where
  name := "replacement"
  decode rule text := do
    let (replacement, rest) ← decodeText text
    return ({ rule with replacement }, rest)
  required := false

/-- The shape of a rule. -/
def shape : RecordShape RewriteRule where
  title := "struct RewriteRule"
  fields := [enabledField, patternField, replacementField]
  initial := { enabled := true, pattern := [], replacement := [] }
  lenient := true

/-- The rules that a document denotes. -/
def listOfDocument (text : Text) : Except DecodeError (List RewriteRule) :=
  decodeDocument (decodeList shape.decode) text

end Reflow.RewriteRule
