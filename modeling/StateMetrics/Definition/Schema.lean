import StateMetrics.Json.Basic
import StateMetrics.NameMap

/-!
# Schemas

What the members of a stored object may be, in the form in which an API server is told. A schema is
a shape with remarks on it.
-/

namespace StateMetrics

/-- What a value may be. -/
inductive Schema where
  /-- Anything at all; what is unknown is kept. -/
  | anything
  | text
  /-- A text that writes a moment. -/
  | moment
  /-- One of some words. -/
  | word (words : List String)
  /-- A whole number of 64 bits. -/
  | int64
  | list (items : Schema)
  /-- Members by name, each required or not. -/
  | record (fields : List (String × Bool × Schema))
  | described (text : String) (schema : Schema)
  | titled (text : String) (schema : Schema)
  /-- The value may also be null. -/
  | nullable (schema : Schema)
  /-- The value that stands for an absent one. -/
  | withDefault (value : Json) (schema : Schema)
  deriving Inhabited

namespace Schema

/-- The names of the required members, in order. -/
def requiredNames : List (String × Bool × Schema) → List String
  | [] => []
  | (name, required, _) :: rest =>
    if required then (NameMap.insert name () ((requiredNames rest).map (·, ()))).map (·.1)
    else requiredNames rest

/-- The kind of a value. -/
def kind (name : String) : String × Json := ("type", .str name)

mutual

/-- The members of the stored form of a schema. -/
def members : Schema → List (String × Json)
  | anything => [("x-kubernetes-preserve-unknown-fields", .bool true)]
  | text => [kind "string"]
  | moment => [("format", .str "date-time"), kind "string"]
  | word words => [("enum", Json.ofTexts words), kind "string"]
  | int64 => [("format", .str "int64"), kind "integer"]
  | list items => [("items", Json.ofMembers (members items)), kind "array"]
  | record fields =>
    [("properties", Json.ofMembers (properties fields)), kind "object"]
      ++ if requiredNames fields = [] then []
         else [("required", Json.ofTexts (requiredNames fields))]
  | described about schema => ("description", .str about) :: members schema
  | titled title schema => ("title", .str title) :: members schema
  | nullable schema => ("nullable", .bool true) :: members schema
  | withDefault value schema => ("default", value) :: members schema

/-- The stored forms of the schemas of members. -/
def properties : List (String × Bool × Schema) → List (String × Json)
  | [] => []
  | (name, _, schema) :: rest => (name, Json.ofMembers (members schema)) :: properties rest

end

/-- The stored form of a schema. -/
def toJson (schema : Schema) : Json := Json.ofMembers schema.members

end Schema

end StateMetrics
