import StateMetrics.Yaml.Resolution

/-!
# YAML documents

The tree of lists, maps and scalars that a YAML text writes, before its scalars are given a type. A
node may stand in several places: one of them holds it under a label, the others refer to that.
-/

namespace StateMetrics.Yaml

/-- A node of a document. -/
inductive Node where
  /-- A scalar, whether it stands plain, and its tag. -/
  | scalar (text : List Char) (plain : Bool) (tag : Option (List Char))
  | list (items : List Node)
  | map (entries : List (Node × Node))
  /-- The node with a label, by the label's number. -/
  | reference (number : Nat)
  deriving Repr, Inhabited

namespace Node

/-- A node that is left out. -/
def empty : Node := .scalar [] true none

/-- The tag of null. -/
def nullTag : List Char := "tag:yaml.org,2002:null".toList

/-- Whether a node is null; nothing when it has the tag of null and another text. A quoted scalar is
not null, nor is a plain one with another tag. -/
def isNull? : Node → Option Bool
  | .scalar text true tag =>
    match tag with
    | none => some (readsAsNull text)
    | some tag =>
      if tag ≠ nullTag then some false
      else if text ≠ [] && readsAsNull text then some true
      else none
  | _ => some false

end Node

/-- A document. -/
structure Document where
  root : Node
  /-- The nodes with labels, by the numbers of the labels, the last to start first. -/
  labelled : List (Nat × Node) := []
  deriving Repr, Inhabited

/-- The node that stands for a node: what it refers to, or itself. -/
def Document.resolve (d : Document) : Node → Node
  | .reference number => (d.labelled.lookup number).getD .empty
  | node => node

end StateMetrics.Yaml
