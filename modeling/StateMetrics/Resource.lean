import StateMetrics.Error
import StateMetrics.Fragment
import StateMetrics.Json.Printer
import StateMetrics.Text.Placed

/-!
# Resources of any shape

A resource may come as a value that is richer than JSON: with integers of any width, doubles that
are not finite, maps with names of any kind. `Resource.toJson?` gives its JSON form or says why it
has none; `Resource.encode` gives the text of a list of resources and names the first that has none.
-/

namespace StateMetrics

/-- The name of a member of a map. -/
inductive Resource.Name where
  | json (value : Json)
  | real (value : Binary64)
  deriving Repr, Inhabited

/-- A resource. -/
inductive Resource where
  | json (value : Json)
  | real (value : Binary64)
  | integer (value : Int)
  | bytes (values : List UInt8)
  | list (items : List Resource)
  | map (members : List (Resource.Name × Resource))
  /-- A value that refuses to be written, and why. -/
  | failing (why : String)
  deriving Repr, Inhabited

namespace Resource

/-- Why a value has no JSON form. -/
inductive Fault where
  | nameNotText
  | nameNotFinite
  | outOfRange
  | refused (why : String)
  deriving DecidableEq, Repr, Inhabited

/-- The text of a fault. -/
def Fault.message : Fault → String
  | nameNotText => "key must be a string"
  | nameNotFinite => "float key must be finite (got NaN or +/-inf)"
  | outOfRange => "number out of range"
  | refused why => Text.placed why

/-- The text of a number as a name. -/
def nameOfReal (value : Binary64) : Except Fault String :=
  if value.isFinite then .ok (String.ofList (Json.numberLayout.text value))
  else .error .nameNotFinite

/-- A name as text: strings, numbers and truth values have one. -/
def Name.toText : Name → Except Fault String
  | .real value => nameOfReal value
  | .json (.str text) => .ok text
  | .json (.bool true) => .ok "true"
  | .json (.bool false) => .ok "false"
  | .json (.number (.integer value)) => .ok (Decimal.intText value)
  | .json (.number (.real value)) => nameOfReal value
  | .json _ => .error .nameNotText

mutual

/-- The JSON form of a resource, or the first reason why it has none. -/
def toJson : Resource → Except Fault Json
  | .json value => .ok value
  | .real value => .ok (if value.isFinite then .number (.real value) else .null)
  | .integer value =>
    if fitsInWord value then .ok (Json.int value) else .error .outOfRange
  | .bytes values => .ok (.arr (values.map fun b => Json.int b.toNat))
  | .list items => (listToJson items).map .arr
  | .map members => (membersToJson members).map Json.ofMembers
  | .failing why => .error (.refused why)

/-- The JSON forms of the items of a list. -/
def listToJson : List Resource → Except Fault (List Json)
  | [] => .ok []
  | item :: items => do
    let first ← toJson item
    let rest ← listToJson items
    pure (first :: rest)

/-- The JSON forms of the members of a map, each name before its value. -/
def membersToJson : List (Name × Resource) → Except Fault (List (String × Json))
  | [] => .ok []
  | (name, value) :: members => do
    let text ← name.toText
    let first ← toJson value
    let rest ← membersToJson members
    pure ((text, first) :: rest)

end

/-- The JSON forms of resources, counted from `index`; the first without one is the error. -/
def allToJson (index : Nat) : List Resource → Except Error (List Json)
  | [] => .ok []
  | resource :: resources =>
    match resource.toJson with
    | .error fault => .error (.encoding index fault.message)
    | .ok first => (allToJson (index + 1) resources).map (first :: ·)

/-- The text of resources inside a block. -/
def encode (resources : List Resource) : Except Error String :=
  (allToJson 0 resources).map Fragment.encode

end Resource

end StateMetrics
