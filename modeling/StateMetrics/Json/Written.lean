import StateMetrics.Json.Basic

/-!
# JSON as it is written

A text may write more than a JSON value holds: members under one name, in any order; numbers past
the doubles; strings with half a pair of escapes. `Json.Written` is what a text writes, and
`Json.Written.toJson?` the value that it stands for, if there is one.
-/

namespace StateMetrics

/-- What a JSON text writes. -/
inductive Json.Written where
  | null
  | bool (value : Bool)
  /-- A number, unless it is too large. -/
  | number (value : Option Json.Number)
  /-- A string, unless half a pair of escapes is in it. -/
  | text (value : Option String)
  | arr (items : List Json.Written)
  /-- Members, in the order of the text. -/
  | obj (members : List (Option String × Json.Written))
  deriving Repr, Inhabited

namespace Json

mutual

/-- A value as it is written. -/
def written : Json → Written
  | .null => .null
  | .bool value => .bool value
  | .number value => .number (some value)
  | .str value => .text (some value)
  | .arr items => .arr (writtenItems items)
  | .obj members => .obj (writtenMembers members)

/-- The items of a list as they are written. -/
def writtenItems : List Json → List Written
  | [] => []
  | item :: items => item.written :: writtenItems items

/-- The members of an object as they are written. -/
def writtenMembers : List (String × Json) → List (Option String × Written)
  | [] => []
  | (name, value) :: members => (some name, value.written) :: writtenMembers members

end

namespace Written

mutual

/-- The value that is written, if it has one and nests no deeper than so many levels. The last of
the members under one name counts. -/
def toJson? (levels : Nat) : Written → Option Json
  | .null => some .null
  | .bool value => some (.bool value)
  | .number value => value.map .number
  | .text value => value.map .str
  | .arr items =>
    match levels with
    | 0 => none
    | levels + 1 => (itemsToJson? levels items).map .arr
  | .obj members =>
    match levels with
    | 0 => none
    | levels + 1 => (membersToJson? levels members).map ofMembers

/-- The values of the items of a list. -/
def itemsToJson? (levels : Nat) : List Written → Option (List Json)
  | [] => some []
  | item :: items => do
    let first ← toJson? levels item
    let rest ← itemsToJson? levels items
    pure (first :: rest)

/-- The names and values of the members of an object. -/
def membersToJson? (levels : Nat) : List (Option String × Written) → Option (List (String × Json))
  | [] => some []
  | (name, value) :: members => do
    let name ← name
    let first ← toJson? levels value
    let rest ← membersToJson? levels members
    pure ((name, first) :: rest)

end

end Written

end Json

end StateMetrics
