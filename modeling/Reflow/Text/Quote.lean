import Reflow.Text.Basic

/-!
# Escaped quotes

A double quote is written with a backslash before it. Nothing else is escaped, so reading back
undoes exactly what writing did.
-/

namespace Reflow.Text

/-- Write a backslash before every double quote. -/
def escapeQuotes : Text → Text
  | [] => []
  | '"' :: rest => '\\' :: '"' :: escapeQuotes rest
  | char :: rest => char :: escapeQuotes rest

/-- Turn every double quote that follows a backslash back into the plain quote. -/
def unescapeQuotes : Text → Text
  | [] => []
  | '\\' :: '"' :: rest => '"' :: unescapeQuotes rest
  | char :: rest => char :: unescapeQuotes rest

end Reflow.Text
