/-
This file holds the values of JSON. A number is either an integer or a
floating-point number. Members of an object keep their order, and of two members
with one name the later one counts.
-/

import SqlImage.Number.Double

namespace SqlImage.Json

/-- A number of JSON. -/
inductive Number where
  | integer (value : Int)
  | real (value : Double)
deriving DecidableEq, Repr

/-- A value of JSON. -/
inductive Value where
  | null
  | boolean (value : Bool)
  | number (value : Number)
  | text (value : String)
  | list (elements : List Value)
  | object (members : List (String × Value))
deriving Inhabited

namespace Number

/-- The integer that a number is, if it is one. -/
def toInt? : Number → Option Int
  | .integer value => some value
  | .real _ => none

/-- The nearest floating-point number. -/
def toDouble : Number → Double
  | .integer value => .ofInt value
  | .real value => value

end Number

namespace Value

/-- The integer that a value is, if it is one within the bounds. -/
def intWithin? (least greatest : Int) : Value → Option Int
  | .number written => written.toInt?.filter fun value => least ≤ value && value ≤ greatest
  | _ => none

/-- The member of an object with a given name, the last one if there are several. -/
def member? (name : String) : Value → Option Value
  | .object members => (members.reverse.find? (·.1 = name)).map (·.2)
  | _ => none

/-- The text that a value is, if it is one. -/
def text? : Value → Option String
  | .text value => some value
  | _ => none

end Value

mutual

/-- The greatest number of lists and objects that lie inside one another. -/
def Value.depth : Value → Nat
  | .list elements => elementsDepth elements + 1
  | .object members => membersDepth members + 1
  | _ => 1

/-- The greatest depth of some elements. -/
def elementsDepth : List Value → Nat
  | [] => 0
  | head :: tail => max head.depth (elementsDepth tail)

/-- The greatest depth of some members. -/
def membersDepth : List (String × Value) → Nat
  | [] => 0
  | (_, head) :: tail => max head.depth (membersDepth tail)

end

end SqlImage.Json
