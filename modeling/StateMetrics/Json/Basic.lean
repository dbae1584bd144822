import StateMetrics.Decimal.Binary64
import StateMetrics.NameMap

/-!
# JSON values

The dynamic values that resources, objects and their stored forms are made of. A number is an
integer or a double, never both; the members of an object are kept in the order of their names and
no name occurs twice, which `ofMembers` sees to.
-/

namespace StateMetrics

/-- A JSON number. Integers are the ones that fit in 64 bits, signed or unsigned. -/
inductive Json.Number where
  /-- A number written without fraction and exponent. -/
  | integer (value : Int)
  /-- Any other number. -/
  | real (value : Binary64)
  deriving DecidableEq, Repr, Inhabited

/-- A JSON value. -/
inductive Json where
  | null
  | bool (value : Bool)
  | number (value : Json.Number)
  | str (text : String)
  | arr (items : List Json)
  | obj (members : List (String × Json))
  deriving Repr, Inhabited

namespace Json

/-- An integer as a JSON number. -/
def int (value : Int) : Json := .number (.integer value)

/-- The object with the given members; the last value of a repeated name counts. -/
def ofMembers (members : List (String × Json)) : Json := .obj (NameMap.ofPairs members)

/-- The object with those of the given members that have a value. -/
def ofSome (members : List (String × Option Json)) : Json :=
  ofMembers (members.filterMap fun (name, value?) => value?.map fun value => (name, value))

/-- The value of a member of an object. -/
def get? (name : String) : Json → Option Json
  | .obj members => members.lookup name
  | _ => none

/-- The value of a member of an object; an absent one is null. -/
def field (name : String) (value : Json) : Json := (value.get? name).getD .null

/-- The string or null of an optional text. -/
def ofText? : Option String → Json
  | some text => .str text
  | none => .null

/-- The list of strings. -/
def ofTexts (texts : List String) : Json := .arr (texts.map .str)

/-- The object of string members. -/
def ofTextMap (members : TextMap) : Json :=
  ofMembers (members.map fun (name, text) => (name, .str text))

end Json

end StateMetrics
