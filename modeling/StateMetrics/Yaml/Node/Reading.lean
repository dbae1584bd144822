import StateMetrics.Yaml.Node
import StateMetrics.Yaml.Token.Scan

/-!
# Reading YAML documents

`Document.ofTokens?` builds the one document of a text from its tokens; `Document.read?` does so for
a text. What may be left out, an item, a name or a value, is an empty scalar.
-/

namespace StateMetrics.Yaml

/-- What is left of the tokens, and what is known of the document. -/
structure Progress where
  tokens : List Token
  /-- What the starts of tags are abbreviated to. -/
  abbreviations : List (List Char × List Char) := []
  /-- The labels given so far, each with the number given to it last. -/
  labels : List (List Char × Nat) := []
  /-- The nodes with labels and their numbers, in the order in which they start; those that have not
  ended stand as empty. -/
  labelled : Array (Nat × Node) := #[]
  deriving Repr, Inhabited

/-- A step of reading, which may fail. -/
abbrev NodeReader (α : Type) := StateT Progress Option α

namespace NodeReader

/-- The token that comes next. -/
def peek : NodeReader Token := do pure ((← get).tokens.headD .finish)

/-- Moves on behind the next token. -/
def advance : NodeReader Unit := modify fun p => { p with tokens := p.tokens.drop 1 }

/-- The tag with its start written out. -/
def tagOf (handle rest : List Char) : NodeReader (List Char) := do
  if handle = [] then return rest
  match (← get).abbreviations.lookup handle with
  | some start => pure (start ++ rest)
  | none => failure

/-- A label or a tag, or both in either order, in front of a node. -/
def properties : NodeReader (Option (List Char) × Option (List Char)) := do
  match ← peek with
  | .label label =>
    advance
    match ← peek with
    | .tag handle rest => advance; pure (some label, some (← tagOf handle rest))
    | _ => pure (some label, none)
  | .tag handle rest =>
    advance
    match ← peek with
    | .label label => advance; pure (some label, some (← tagOf handle rest))
    | _ => pure (none, some (← tagOf handle rest))
  | _ => pure (none, none)

/-- Gives a label to the node that starts, whose place among the nodes with labels is returned. Its
number is how many labels there were before, where a label given again counts once: so two labels
may come to share a number, which stands for the node that got it last. -/
def startLabelled (label : List Char) : NodeReader Nat := do
  let p ← get
  let number := p.labels.length
  let labels := (label, number) :: p.labels.filter fun given => given.1 ≠ label
  set { p with labels, labelled := p.labelled.push (number, .empty) }
  pure p.labelled.size

/-- Ends the node with a label at a place. -/
def endLabelled (place : Nat) (node : Node) : NodeReader Unit :=
  modify fun p =>
    { p with labelled := p.labelled.modify place fun (number, _) => (number, node) }

/-- Whether nothing stands in front of a token outside of brackets. -/
def endsBlockNode : Token → Bool
  | .name | .value | .blockEnd => true
  | _ => false

/-- Whether nothing stands in front of a token in brackets. -/
def endsBracketNode : Token → Bool
  | .comma | .closeList | .closeMap => true
  | _ => false

mutual

/-- A node. Lists and maps without brackets may start only where `inBlock` says so, lists that are
not indented where `unindented` does. -/
def node (inBlock unindented : Bool) : Nat → NodeReader Node
  | 0 => failure
  | fuel + 1 => do
    match ← peek with
    | .reference label =>
      advance
      match (← get).labels.lookup label with
      | some number => pure (.reference number)
      | none => failure
    | _ =>
      let (label, tag) ← properties
      let place? ← label.mapM startLabelled
      let found ← content inBlock unindented (label.isSome || tag.isSome) tag fuel
      match place? with
      | some place => endLabelled place found
      | none => pure ()
      pure found

/-- What stands behind the label and tag of a node; nothing may stand there if there is one. -/
def content (inBlock unindented hasProperties : Bool) (tag : Option (List Char)) :
    Nat → NodeReader Node
  | 0 => failure
  | fuel + 1 => do
    match ← peek with
    | .scalar text plain => advance; pure (.scalar text plain tag)
    | .openList => advance; bracketList [] fuel
    | .openMap => advance; bracketMap [] fuel
    | .item =>
      if unindented then unindentedList [] fuel
      else if hasProperties then pure (.scalar [] true tag)
      else failure
    | .blockList =>
      if inBlock then do advance; blockList [] fuel
      else if hasProperties then pure (.scalar [] true tag)
      else failure
    | .blockMap =>
      if inBlock then do advance; blockMap [] fuel
      else if hasProperties then pure (.scalar [] true tag)
      else failure
    | _ => if hasProperties then pure (.scalar [] true tag) else failure

/-- The items of a list, onto those read before (the last first). -/
def blockList (items : List Node) : Nat → NodeReader Node
  | 0 => failure
  | fuel + 1 => do
    match ← peek with
    | .item =>
      advance
      let next ← peek
      let found ← if next = .item || next = .blockEnd then pure Node.empty else node true false fuel
      blockList (found :: items) fuel
    | .blockEnd => advance; pure (.list items.reverse)
    | _ => failure

/-- The items of a list that is not indented, onto those read before (the last first). -/
def unindentedList (items : List Node) : Nat → NodeReader Node
  | 0 => failure
  | fuel + 1 => do
    match ← peek with
    | .item =>
      advance
      let next ← peek
      let found ←
        if next = .item || endsBlockNode next then pure Node.empty else node true false fuel
      unindentedList (found :: items) fuel
    | _ => pure (.list items.reverse)

/-- The entries of a map, onto those read before (the last first). -/
def blockMap (entries : List (Node × Node)) : Nat → NodeReader Node
  | 0 => failure
  | fuel + 1 => do
    match ← peek with
    | .name =>
      advance
      let name ← if endsBlockNode (← peek) then pure Node.empty else node true true fuel
      match ← peek with
      | .value =>
        advance
        let value ← if endsBlockNode (← peek) then pure Node.empty else node true true fuel
        blockMap ((name, value) :: entries) fuel
      | _ => blockMap ((name, Node.empty) :: entries) fuel
    | .blockEnd => advance; pure (.map entries.reverse)
    | _ => failure

/-- The value of a name in brackets, if there is one. -/
def bracketValue : Nat → NodeReader Node
  | 0 => failure
  | fuel + 1 => do
    match ← peek with
    | .value =>
      advance
      if endsBracketNode (← peek) then pure Node.empty else node false false fuel
    | _ => pure Node.empty

/-- The items of a list in brackets, onto those read before (the last first). A name with its value
is a map of its own; a token that stands where its name should be is passed over. -/
def bracketList (items : List Node) : Nat → NodeReader Node
  | 0 => failure
  | fuel + 1 => do
    if (← peek) = .closeList then
      advance
      return .list items.reverse
    if !items.isEmpty then
      if (← peek) = .comma then advance else failure
    match ← peek with
    | .closeList => advance; pure (.list items.reverse)
    | .name =>
      advance
      let next ← peek
      let name ←
        if next = .value || next = .comma || next = .closeList then do
          advance
          pure Node.empty
        else node false false fuel
      let value ← bracketValue fuel
      bracketList (.map [(name, value)] :: items) fuel
    | _ =>
      let found ← node false false fuel
      bracketList (found :: items) fuel

/-- The entries of a map in brackets, onto those read before (the last first). -/
def bracketMap (entries : List (Node × Node)) : Nat → NodeReader Node
  | 0 => failure
  | fuel + 1 => do
    if (← peek) = .closeMap then
      advance
      return .map entries.reverse
    if !entries.isEmpty then
      if (← peek) = .comma then advance else failure
    match ← peek with
    | .closeMap => advance; pure (.map entries.reverse)
    | .name =>
      advance
      let next ← peek
      let name ←
        if next = .value || next = .comma || next = .closeMap then pure Node.empty
        else node false false fuel
      let value ← bracketValue fuel
      bracketMap ((name, value) :: entries) fuel
    | _ =>
      let name ← node false false fuel
      bracketMap ((name, Node.empty) :: entries) fuel

end

/-! ## Documents -/

/-- What the starts of tags are abbreviated to everywhere. -/
def standardAbbreviations : List (List Char × List Char) :=
  [(['!'], ['!']), (['!', '!'], "tag:yaml.org,2002:".toList)]

/-- Whether a text of a version can be read. -/
def isKnownVersion (major minor : Nat) : Bool := major = 1 && (minor = 1 || minor = 2)

/-- The directives in front of a document, at most so many; whether there were any. -/
def directives (versioned found : Bool) : Nat → NodeReader Bool
  | 0 => failure
  | fuel + 1 => do
    match ← peek with
    | .version major minor =>
      if versioned || !isKnownVersion major minor then failure
      advance
      directives true true fuel
    | .abbreviation handle start =>
      if ((← get).abbreviations.lookup handle).isSome then failure
      modify fun p => { p with abbreviations := p.abbreviations ++ [(handle, start)] }
      advance
      directives versioned true fuel
    | _ => pure found

/-- The root of a document. -/
def root (fuel : Nat) : NodeReader Node := do
  let directed ← directives false false fuel
  modify fun p => { p with abbreviations := p.abbreviations ++ standardAbbreviations }
  match ← peek with
  | .documentStart =>
    advance
    match ← peek with
    | .version .. | .abbreviation .. | .documentStart | .documentEnd | .finish => pure Node.empty
    | _ => node true false fuel
  | .finish => if directed then failure else pure Node.empty
  | _ => if directed then failure else node true false fuel

/-- Nothing but the ends of documents. -/
def ending : Nat → NodeReader Unit
  | 0 => failure
  | fuel + 1 => do
    match ← peek with
    | .documentEnd => advance; ending fuel
    | .finish => pure ()
    | _ => failure

end NodeReader

namespace Document

/-- The document that tokens write; none if they write several. -/
def ofTokens? (tokens : List Token) : Option Document := do
  let fuel := 4 * tokens.length + 4
  let read : NodeReader Node := do
    let root ← NodeReader.root fuel
    NodeReader.ending fuel
    pure root
  let (root, progress) ← read { tokens }
  pure ⟨root, progress.labelled.toList.reverse⟩

/-- The one document that a text writes; a text without one writes an empty scalar. -/
def read? (text : String) : Option Document := do
  let marks ← marks? text.toList
  let tokens ← Token.scan? marks
  ofTokens? tokens

end Document

end StateMetrics.Yaml
