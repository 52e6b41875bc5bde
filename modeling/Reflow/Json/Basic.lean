import Reflow.Binary64.Basic
import Reflow.Text.Basic

/-!
# JSON values

Objects keep their members in the order in which the keys first came. A number is an integer as long
as it fits 64 bits and was written without point and exponent, and a floating point number
otherwise.
-/

namespace Reflow.Json

/-- A number. -/
inductive Number where
  | integer (value : Int)
  | double (value : Binary64)
deriving DecidableEq, Repr

namespace Number

/-- The floating point number nearest to a number. -/
def toBinary64 : Number → Binary64
  | .integer value => .ofInt value
  | .double value => value

/-- Whether the value of a number, taken as a floating point number, is at most that of another. -/
def le (left right : Number) : Bool :=
  left.toBinary64.key ≤ right.toBinary64.key

end Number

/-- A JSON value. -/
inductive Value where
  | null
  | bool (value : Bool)
  | number (value : Number)
  | string (text : Text)
  | array (items : List Value)
  | object (members : List (Text × Value))
deriving Repr

/-- A member of an object: a key and its value. -/
abbrev Member := Text × Value

/-- The kinds of values. -/
inductive Kind where
  | null
  | bool
  | number
  | string
  | array
  | object
deriving DecidableEq, Repr

namespace Kind

/-- Whether values of the kind are put in order among themselves. -/
def sortable : Kind → Bool
  | .bool | .number | .string => true
  | .null | .array | .object => false

end Kind

namespace Value

/-- The kind of a value. -/
def kind : Value → Kind
  | .null => .null
  | .bool _ => .bool
  | .number _ => .number
  | .string _ => .string
  | .array _ => .array
  | .object _ => .object

end Value

/-- Enter a member: a key that is there already keeps its place and takes the new value. -/
def insertMember (members : List Member) (key : Text) (value : Value) : List Member :=
  match members with
  | [] => [(key, value)]
  | (other, old) :: rest =>
      if other = key then (other, value) :: rest else (other, old) :: insertMember rest key value

/-- The members of an object into which the given ones are entered one after the other. -/
def collectMembers (members : List Member) : List Member :=
  members.foldl (fun collected member => insertMember collected member.1 member.2) []

end Reflow.Json
