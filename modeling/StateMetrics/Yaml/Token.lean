import StateMetrics.Yaml.Mark

/-!
# YAML tokens

The pieces of a YAML text. Where the indentation alone tells that a list or map starts or ends, a
token says so.
-/

namespace StateMetrics.Yaml

/-- A piece of a YAML text. -/
inductive Token where
  /-- Deeper indentation starts a list. -/
  | blockList
  /-- Deeper indentation starts a map. -/
  | blockMap
  /-- Less indentation ends a list or map. -/
  | blockEnd
  | openList
  | closeList
  | openMap
  | closeMap
  /-- The dash in front of an item. -/
  | item
  | comma
  /-- A name follows. -/
  | name
  /-- The value of a name follows. -/
  | value
  /-- A place where a node stands that was given a label. -/
  | reference (label : List Char)
  /-- A label for the node that follows. -/
  | label (text : List Char)
  /-- The type of the node that follows, its start perhaps abbreviated. -/
  | tag (handle rest : List Char)
  /-- A scalar, and whether it stands plain. -/
  | scalar (text : List Char) (plain : Bool)
  | documentStart
  | documentEnd
  | version (major minor : Nat)
  /-- What the start of tags is abbreviated to. -/
  | abbreviation (handle start : List Char)
  | finish
  deriving DecidableEq, Repr, Inhabited

end StateMetrics.Yaml
