import Reflow.Json.Clean
import Reflow.Json.Expand
import Reflow.Json.Parser
import Reflow.Json.Query
import Reflow.Json.Sort

/-!
# Tools for documents

Each tool reads a document, works on its value and writes the result. A text that is no document is
refused with the position of the fault.
-/

namespace Reflow.Json

/-- Write a document in lines. -/
def reformat (text : Text) : Except Error Text :=
  (parse text).map Value.pretty

/-- Write a document without blanks. -/
def minify (text : Text) : Except Error Text :=
  (parse text).map Value.compact

/-- Sort a document and write it in lines. -/
def sortFields (order : SortOrder) (text : Text) : Except Error Text :=
  (parse text).map fun value => (value.sort order).pretty

/-- Clean a document and write it in lines. -/
def cleanUp (options : CleanOptions) (text : Text) : Except Error Text :=
  (parse text).map fun value => (value.clean options).pretty

/-- Expand what a document holds in strings and write it in lines. -/
def expandEmbedded (mark : Bool) (text : Text) : Except Error Text :=
  (parse text).map fun value => (value.expand mark).pretty

/-- Write the scalars of a document as a query string. -/
def toQuery (text : Text) : Except Error Text :=
  (parse text).map fun value => formPairs value.query

end Reflow.Json
