import StateMetrics.Json.Token

/-!
# Reading JSON

`Json.Written.ofTokens?` puts tokens together by a stack of the lists and objects still open, one
token at a time; `Json.Written.read?` does so for a text. `Json.read?` gives the value of a text, in
which nesting is limited to 127 levels.
-/

namespace StateMetrics.Json

/-- A list or object still open: what it holds so far, the last first. -/
inductive Frame where
  | list (items : List Written)
  /-- The members, and the name whose value is being read. -/
  | object (members : List (Option String × Written)) (name : Option String)
  deriving Repr, Inhabited

/-- What may come next. -/
inductive Expected where
  | value
  | valueOrClose
  | afterItem
  | name
  | nameOrClose
  | colon
  | afterMember
  | nothing (result : Written)
  deriving Repr, Inhabited

/-- A reading under way. -/
structure Reading where
  /-- The lists and objects still open, the innermost first. -/
  stack : List Frame
  /-- What may come next. -/
  expected : Expected
  deriving Repr, Inhabited

namespace Reading

/-- A reading before its first token. -/
def start : Reading := ⟨[], .value⟩

/-- Hands a finished value to the list or object around it. -/
def finish (value : Written) : List Frame → Reading
  | [] => ⟨[], .nothing value⟩
  | .list items :: stack => ⟨.list (value :: items) :: stack, .afterItem⟩
  | .object members name :: stack =>
    ⟨.object ((name, value) :: members) name :: stack, .afterMember⟩

/-- Opens a list or object. -/
def descend (r : Reading) (frame : Frame) (expected : Expected) : Reading :=
  ⟨frame :: r.stack, expected⟩

/-- Takes in a token that starts a value. -/
def value (r : Reading) : Token → Option Reading
  | .scalar v => some (finish v r.stack)
  | .text s => some (finish (.text s) r.stack)
  | .openList => some (r.descend (.list []) .valueOrClose)
  | .openObject => some (r.descend (.object [] none) .nameOrClose)
  | _ => none

/-- Takes in the token that closes the innermost list or object. -/
def close (r : Reading) : Token → Option Reading
  | .closeList =>
    match r.stack with
    | .list items :: stack => some (finish (.arr items.reverse) stack)
    | _ => none
  | .closeObject =>
    match r.stack with
    | .object members _ :: stack => some (finish (.obj members.reverse) stack)
    | _ => none
  | _ => none

/-- Takes in the name of a member. -/
def name (r : Reading) : Token → Option Reading
  | .text name =>
    match r.stack with
    | .object members _ :: stack => some ⟨.object members name :: stack, .colon⟩
    | _ => none
  | _ => none

/-- Takes the next token in. -/
def step (r : Reading) (token : Token) : Option Reading :=
  match r.expected, token with
  | .value, t => r.value t
  | .valueOrClose, .closeList => r.close .closeList
  | .valueOrClose, t => r.value t
  | .afterItem, .comma => some { r with expected := .value }
  | .afterItem, t => r.close t
  | .name, t => r.name t
  | .nameOrClose, .closeObject => r.close .closeObject
  | .nameOrClose, t => r.name t
  | .colon, .colon => some { r with expected := .value }
  | .colon, _ => none
  | .afterMember, .comma => some { r with expected := .name }
  | .afterMember, t => r.close t
  | .nothing _, _ => none

end Reading

/-- What the tokens write, if that is one value. -/
def Written.ofTokens? (tokens : List Token) : Option Written := do
  let r ← tokens.foldlM Reading.step Reading.start
  match r.expected with
  | .nothing result => some result
  | _ => none

/-- What a text writes. -/
def Written.read? (text : String) : Option Written := do
  let tokens ← Token.scan? text.toList
  ofTokens? tokens

/-- The deepest nesting of a value that is read. -/
def maxDepth : Nat := 127

/-- The value that a text writes. -/
def read? (text : String) : Option Json := do
  let written ← Written.read? text
  written.toJson? maxDepth

end StateMetrics.Json
