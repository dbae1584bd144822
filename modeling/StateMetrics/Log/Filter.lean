import StateMetrics.Decimal.Digits
import StateMetrics.Text.Alphanumeric
import StateMetrics.Text.Blank

/-!
# Log filters

A filter lists directives: how urgent a line from some part of the program has to be to be written.
Of the directives about a part the most specific counts, and of equally specific ones the last.

A directive is a threshold, or a part of the program, or both with an equals sign between them; a
span in brackets, with a field in braces, limits it to what is told inside such a span.
-/

namespace StateMetrics.Log

/-- How urgent a log line is. -/
inductive Level where
  | error
  | warn
  | info
  | debug
  | trace
  deriving DecidableEq, Repr, Inhabited

namespace Level

/-- All levels, the most urgent first. -/
def all : List Level := [error, warn, info, debug, trace]

/-- The word for a level. -/
def text : Level → String
  | error => "ERROR"
  | warn => "WARN"
  | info => "INFO"
  | debug => "DEBUG"
  | trace => "TRACE"

/-- The number of a level; the most urgent has the least. -/
def rank : Level → Nat
  | error => 1
  | warn => 2
  | info => 3
  | debug => 4
  | trace => 5

end Level

/-- How urgent lines have to be: at least a level, or none is enough. -/
abbrev Threshold := Option Level

namespace Threshold

/-- Whether lines of a level are urgent enough. -/
def admits (threshold : Threshold) (level : Level) : Bool :=
  threshold.any fun least => level.rank ≤ least.rank

/-- The words for thresholds, in capitals. -/
def words : List (List Char × Threshold) :=
  ("OFF".toList, none) :: Level.all.map fun level => (level.text.toList, some level)

/-- The threshold that a number stands for. -/
def ofNumber? : Nat → Option Threshold
  | 0 => some none
  | n => (Level.all.find? (·.rank = n)).map some

/-- Reads a threshold: a word in any case, or a number; nothing at all means errors only. -/
def read? (text : List Char) : Option Threshold :=
  if text = [] then some (some .error)
  else
    let digits := match text with
      | '+' :: rest => rest
      | rest => rest
    match Decimal.ofDigits? digits with
    | some n => ofNumber? n
    | none => words.lookup (text.map Char.toUpper)

end Threshold

/-- A field that lines have to have. -/
structure Field where
  name : List Char
  /-- Whether the field has to have a certain value. -/
  hasValue : Bool
  deriving DecidableEq, Repr, Inhabited

/-- A line of a filter: a threshold for the parts of the program whose names begin in some way. -/
structure Directive where
  /-- What the names begin with; nothing when the directive is about all of them. -/
  part : Option (List Char) := none
  /-- The name of the span that the directive is limited to. -/
  span : Option (List Char) := none
  field : Option Field := none
  threshold : Threshold := some .trace
  deriving DecidableEq, Repr, Inhabited

/-- Why a directive cannot be read. -/
inductive Directive.Fault where
  | malformed
  /-- A piece of the text would begin or end inside a character. -/
  | torn
  deriving DecidableEq, Repr, Inhabited

namespace Directive

/-! ## Reading -/

/-- What is read of a directive, and where it began, in bytes. -/
inductive Stage where
  | start
  /-- A threshold or the name of a part. -/
  | name (first : Nat)
  | span (first : Nat)
  | field (first : Nat)
  | behindField
  | behindSpan
  | level (first : Nat)
  deriving DecidableEq, Repr, Inhabited

/-- The text behind so many bytes. -/
def dropBytes : Nat → List Char → Except Fault (List Char)
  | 0, text => .ok text
  | _, [] => .error .torn
  | count, c :: text =>
    if c.utf8Size ≤ count then dropBytes (count - c.utf8Size) text else .error .torn

/-- The first so many bytes of a text. -/
def takeBytes : Nat → List Char → Except Fault (List Char)
  | 0, _ => .ok []
  | _, [] => .error .torn
  | count, c :: text =>
    if c.utf8Size ≤ count then (takeBytes (count - c.utf8Size) text).map (c :: ·)
    else .error .torn

/-- The piece of a text from one place to another, in bytes. -/
def piece (text : List Char) (first stop : Nat) : Except Fault (List Char) := do
  takeBytes (stop - first) (← dropBytes first text)

/-- Whether a character may begin a directive: a letter or digit, a dash, colon or underscore. -/
def isStart (c : Char) : Bool := Text.isAlphanumeric c || "-:_".toList.contains c

/-- Reads a threshold; no text at all means everything. -/
def level (text : List Char) : Except Fault Threshold :=
  if text = [] then .ok (some .trace)
  else match Threshold.read? text with
    | some threshold => .ok threshold
    | none => .error .malformed

/-- Takes a field in. -/
def withField (d : Directive) (text : List Char) : Except Fault Directive :=
  if text = [] then .error .malformed
  else
    let name := text.takeWhile (· ≠ '=')
    .ok { d with field := some ⟨name, name ≠ text⟩ }

/-- Takes the next character in, which stands at a place of the text. -/
def step (text : List Char) (d : Directive) (place : Nat) (c : Char) :
    Stage → Except Fault (Directive × Stage)
  | .start =>
    if c = '[' then .ok (d, .span (place + 1))
    else if isStart c then .ok (d, .name place)
    else .error .malformed
  | .name first =>
    if c = '=' then do pure ({ d with part := some (← piece text first place) }, .level (place + 1))
    else if c = '[' then do
      pure ({ d with part := some (← piece text first place) }, .span (place + 1))
    else .ok (d, .name first)
  | .span first =>
    if c = ']' then do pure ({ d with span := some (← piece text first place) }, .behindSpan)
    else if c = '\x7b' then do
      let name ← piece text first place
      pure ({ d with span := if name = [] then none else some name }, .field (place + 1))
    else .ok (d, .span first)
  | .field first =>
    if c = '\x7d' then do pure (← d.withField (← piece text first place), .behindField)
    else .ok (d, .field first)
  | .behindField => if c = ']' then .ok (d, .behindSpan) else .error .malformed
  | .behindSpan => if c = '=' then .ok (d, .level (place + 1)) else .error .malformed
  | .level first => .ok (d, .level first)

/-- Takes in what ends the directive. -/
def finish (text : List Char) (d : Directive) : Stage → Except Fault Directive
  | .name first => do
    let name ← dropBytes first text
    match Threshold.read? name with
    | some threshold => pure { d with threshold }
    | none => pure { d with part := some name }
  | .level first => do pure { d with threshold := ← level (← dropBytes first text) }
  | .behindSpan => .ok d
  | _ => .error .malformed

/-- Takes characters in, the first of which stands at a place of the text. -/
def readFrom (text : List Char) (d : Directive) (stage : Stage) (place : Nat) :
    List Char → Except Fault Directive
  | [] => finish text d stage
  | c :: rest => do
    let (d, stage) ← step text d place c stage
    readFrom text d stage (place + c.utf8Size) rest

/-- Reads a directive. White space at its ends is passed over when places are counted, but not when
pieces are cut out, so that it shifts them. -/
def read (text : List Char) : Except Fault Directive := readFrom text {} .start 0 (Text.trim text)

/-! ## Meaning -/

/-- The fields of a line that is told. -/
def lineField : List Char := "message".toList

/-- Whether the directive is about lines that a part of the program tells outside of spans. -/
def isAbout (d : Directive) (part : List Char) : Bool :=
  d.span.isNone && d.field.all (fun f => f.name = lineField && !f.hasValue)
    && d.part.all (·.isPrefixOf part)

/-- How specific a directive is: by the length of the names' beginning, then by its field. -/
def weight (d : Directive) : Nat :=
  2 * (match d.part with
    | none => 0
    | some start => start.length + 1) + (if d.field.isSome then 1 else 0)

end Directive

/-- What log lines are written. -/
structure Filter where
  directives : List Directive
  deriving DecidableEq, Repr, Inhabited

namespace Filter

/-- The filter that lets lines of a level and more urgent ones through. -/
def atLeast (level : Level) : Filter := ⟨[{ threshold := some level }]⟩

/-- The pieces of a text between commas. -/
def pieces : List Char → List (List Char)
  | [] => [[]]
  | c :: rest =>
    if c = ',' then [] :: pieces rest
    else match pieces rest with
      | [] => [[c]]
      | piece :: more => (c :: piece) :: more

/-- Reads a filter. No text at all lets errors through; a list without directives lets nothing
through. -/
def read (text : List Char) : Except Directive.Fault Filter :=
  if text = [] then .ok (atLeast .error)
  else (((pieces text).filter (· ≠ [])).mapM Directive.read).map Filter.mk

/-- The filter of the environment: information and more urgent lines if none is set that can be
read. There is none if a directive is torn. -/
def ofEnvironment? (value : Option String) : Option Filter :=
  match value.map fun text => read text.toList with
  | some (.ok filter) => some filter
  | some (.error .torn) => none
  | _ => some (atLeast .info)

/-- The directive that counts for a part: the most specific, the last of several. -/
def directive? (f : Filter) (part : List Char) : Option Directive :=
  (f.directives.filter (·.isAbout part)).foldl (fun best d =>
    match best with
    | none => some d
    | some b => if b.weight ≤ d.weight then some d else some b) none

/-- Whether a line of a part of the program is written. -/
def admits (f : Filter) (part : String) (level : Level) : Bool :=
  (f.directive? part.toList).any (·.threshold.admits level)

end Filter

end StateMetrics.Log
