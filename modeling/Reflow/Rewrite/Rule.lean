import Reflow.Pattern.Reader
import Reflow.Pattern.Replace

/-!
# Rewriting by rules

A rule replaces all matches of a pattern by a template. Rules are applied one after the other, each
to the text that the rules before it have left.
-/

namespace Reflow

/-- One substitution. -/
structure RewriteRule where
  /-- Whether the rule is applied at all. -/
  enabled : Bool
  /-- The pattern in its notation. -/
  pattern : Text
  /-- The template in its notation. -/
  replacement : Text
deriving DecidableEq, Repr

/-- A text that should denote a pattern and does not. -/
structure InvalidPattern where
  pattern : Text
deriving DecidableEq, Repr

/-- The expression that a text denotes, or the complaint that it denotes none. -/
def Expression.read (text : Text) : Except InvalidPattern Expression :=
  match Expression.read? text with
  | some expression => .ok expression
  | none => .error { pattern := text }

namespace RewriteRule

/-- Apply a rule, whether it is enabled or not. -/
def apply (rule : RewriteRule) (text : Text) : Except InvalidPattern Text := do
  let expression ← Expression.read rule.pattern
  let template := Template.read rule.replacement
  return expression.pattern.replaceAll (fun found => template.flatMap (found.fill expression.names))
    text

end RewriteRule

/-- Apply the enabled rules in order. -/
def rewrite (rules : List RewriteRule) (text : Text) : Except InvalidPattern Text :=
  (rules.filter (·.enabled)).foldlM (fun text rule => rule.apply text) text

end Reflow
