import Reflow.Json.Basic
import Reflow.Pattern.Search
import Reflow.Text.Blank

/-!
# Cleaning

Cleaning removes what options select: values of some kinds, members with a matching key and strings
that match. The parts of a container are cleaned before the container itself is judged, so a
container that has become empty counts as empty.
-/

namespace Reflow.Json

/-- What cleaning removes. -/
structure CleanOptions where
  null : Bool := false
  /-- Strings that hold blanks only. -/
  blankString : Bool := false
  /-- The boolean `false`. -/
  falseBool : Bool := false
  emptyObject : Bool := false
  emptyArray : Bool := false
  /-- Members whose key holds a match. -/
  keyPattern : Option Pattern := none
  /-- Strings that hold a match. -/
  valuePattern : Option Pattern := none

namespace CleanOptions

/-- Whether members with a key are removed. -/
def dropsKey (options : CleanOptions) (key : Text) : Bool :=
  options.keyPattern.any (·.occursIn key)

/-- Whether a value, the parts of which have been cleaned, is removed. -/
def dropsValue (options : CleanOptions) : Value → Bool
  | .null => options.null
  | .bool value => options.falseBool && !value
  | .number _ => false
  | .string text =>
      (options.blankString && text.blank) || options.valuePattern.any (·.occursIn text)
  | .array items => options.emptyArray && items.isEmpty
  | .object members => options.emptyObject && members.isEmpty

/-- A value, if it is not removed. -/
def keep (options : CleanOptions) (value : Value) : Option Value :=
  if options.dropsValue value then none else some value

end CleanOptions

mutual

/-- What is left of a value, if anything is. -/
def Value.clean? (options : CleanOptions) : Value → Option Value
  | .array items => options.keep (.array (cleanItems options items))
  | .object members => options.keep (.object (cleanMembers options members))
  | value => options.keep value

/-- What is left of items. -/
def cleanItems (options : CleanOptions) : List Value → List Value
  | [] => []
  | item :: items => (item.clean? options).toList ++ cleanItems options items

/-- What is left of members. -/
def cleanMembers (options : CleanOptions) : List (Text × Value) → List (Text × Value)
  | [] => []
  | (key, value) :: members =>
      (if options.dropsKey key then []
        else ((value.clean? options).map (key, ·)).toList) ++ cleanMembers options members

end

/-- What is left of a document. If nothing is, an empty string stands for it. -/
def Value.clean (options : CleanOptions) (value : Value) : Value :=
  (value.clean? options).getD (.string [])

end Reflow.Json
