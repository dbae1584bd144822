import StateMetrics.Error
import StateMetrics.Selector.Basic
import StateMetrics.Text.Blank
import StateMetrics.Yaml.Node.Reading

/-!
# Reading label selectors

A label selector is written in YAML, of which JSON is a part: a map of labels with their values, and
a list of requirements with a key, an operator and values. `Selector.read` reads it and turns it
into expressions; blank text stands for no selector.
-/

namespace StateMetrics

/-- A requirement as it is written. -/
structure Requirement where
  key : String
  operator : String
  values : Option (List String)
  deriving DecidableEq, Repr, Inhabited

/-- A label selector as it is written. -/
structure LabelSelector where
  matchLabels : Option TextMap := none
  matchExpressions : Option (List Requirement) := none
  deriving DecidableEq, Repr, Inhabited

/-! ## From YAML -/

namespace LabelSelector

open Yaml

/-- A scalar as text. -/
def text? (d : Document) (node : Node) : Option String :=
  match d.resolve node with
  | .scalar text _ _ => some (String.ofList text)
  | _ => none

/-- A node as a value, null as none; nothing when it has not the right form. -/
def unlessNull {α : Type} (read : Document → Node → Option α) (d : Document) (node : Node) :
    Option (Option α) := do
  if ← (d.resolve node).isNull? then pure none else (read d node).map some

/-- The entries of a map; a value that is left out has none. -/
def entries? (d : Document) (node : Node) : Option (List (Node × Node)) :=
  match d.resolve node with
  | .map entries => some entries
  | .scalar [] true _ => some []
  | _ => none

/-- The items of a list; a value that is left out has none. -/
def items? (d : Document) (node : Node) : Option (List Node) :=
  match d.resolve node with
  | .list items => some items
  | .scalar [] true _ => some []
  | _ => none

/-- A map of texts. -/
def textMap? (d : Document) (node : Node) : Option TextMap := do
  let entries ← entries? d node
  let pairs ← entries.mapM fun (name, value) => do
    let name ← text? d name
    let value ← text? d value
    pure (name, value)
  pure (NameMap.ofPairs pairs)

/-- A list of texts. -/
def texts? (d : Document) (node : Node) : Option (List String) := do
  let items ← items? d node
  items.mapM (text? d)

/-- Takes a member of a requirement in; unknown ones are passed over. -/
def requirementMember (d : Document) (r : Requirement) (entry : Node × Node) :
    Option Requirement := do
  match ← text? d entry.1 with
  | "key" => (unlessNull text? d entry.2).map fun key => { r with key := key.getD "" }
  | "operator" =>
    (unlessNull text? d entry.2).map fun operator => { r with operator := operator.getD "" }
  | "values" => (unlessNull texts? d entry.2).map fun values => { r with values := values }
  | _ => some r

/-- A requirement. -/
def requirement? (d : Document) (node : Node) : Option Requirement := do
  let entries ← entries? d node
  entries.foldlM (requirementMember d) ⟨"", "", none⟩

/-- A list of requirements. -/
def requirements? (d : Document) (node : Node) : Option (List Requirement) := do
  let items ← items? d node
  items.mapM (requirement? d)

/-- Takes a member of a label selector in; unknown ones are passed over. -/
def member (d : Document) (s : LabelSelector) (entry : Node × Node) : Option LabelSelector := do
  match ← text? d entry.1 with
  | "matchLabels" =>
    (unlessNull textMap? d entry.2).map fun labels => { s with matchLabels := labels }
  | "matchExpressions" =>
    (unlessNull requirements? d entry.2).map fun list => { s with matchExpressions := list }
  | _ => some s

/-- The label selector that a document writes. -/
def ofDocument? (d : Document) : Option LabelSelector := do
  let entries ← entries? d d.root
  entries.foldlM (member d) {}

end LabelSelector

/-! ## To expressions -/

/-- Puts a text into a set of texts, kept in order. -/
def insertText (text : String) : List String → List String
  | [] => [text]
  | t :: rest =>
    if text < t then text :: t :: rest
    else if text = t then t :: rest
    else t :: insertText text rest

/-- The set of some texts. -/
def textSet (texts : List String) : List String := texts.foldl (fun set t => insertText t set) []

/-- The text of a fault in a requirement. -/
def Requirement.fault (detail : String) : String :=
  "failed to parse value as expression: " ++ detail

/-- The expression of a requirement, or what is wrong with it. -/
def Requirement.toExpression (r : Requirement) : Except String Expression :=
  let values := r.values.map textSet
  match r.operator, values with
  | "In", some values => .ok (.among r.key values)
  | "NotIn", some values => .ok (.notAmong r.key values)
  | "In", none => .error (fault "Expected values for In operator, got none")
  | "NotIn", none => .error (fault "Expected values for In operator, got none")
  | "Exists", _ => .ok (.present r.key)
  | "DoesNotExist", _ => .ok (.absent r.key)
  | _, _ => .error (fault "Invalid expression operator")

/-- The selector of a label selector: its labels first, in the order of their names. -/
def LabelSelector.toSelector (s : LabelSelector) : Except String Selector := do
  let further ← (s.matchExpressions.getD []).mapM Requirement.toExpression
  pure ⟨(s.matchLabels.getD []).map (fun (key, value) => .equal key value) ++ further⟩

/-- The selector that a text writes; blank text writes none. -/
def Selector.read (raw : Option String) : Except Error (Option Selector) :=
  match raw with
  | none => .ok none
  | some raw =>
    if Text.isBlankText raw.toList then .ok none
    else
      match (Yaml.Document.read? raw).bind LabelSelector.ofDocument? with
      | none => .error (.selector (.unreadable raw))
      | some written =>
        match written.toSelector with
        | .ok selector => .ok (some selector)
        | .error detail => .error (.selector (.meaningless (raw ++ ": " ++ detail)))

end StateMetrics
