import StateMetrics.Block.Marker
import StateMetrics.Block.Range
import StateMetrics.Text.Blank

/-!
# Merging blocks into a document

`upsert` puts the block of a key into a document: in place of the block that is there, else at the
end. `remove` takes it out. All other lines stay as they are. The functions of `Block` work on lists
of characters; those of `Document` are the same on strings.
-/

namespace StateMetrics

/-- What an upsert did, with the new text of the document if it changed. -/
inductive Upsert (α : Type) where
  /-- The document already holds the very block. -/
  | unchanged
  /-- The document had no block of the key; it was put at the end. -/
  | appended (document : α)
  /-- The document had another block of the key; the new one took its place. -/
  | replaced (document : α)
  deriving DecidableEq, Repr

namespace Upsert

/-- The outcome with its text changed by `f`. -/
def map {α β : Type} (f : α → β) : Upsert α → Upsert β
  | unchanged => unchanged
  | appended document => appended (f document)
  | replaced document => replaced (f document)

/-- The new text of the document, if it changed. -/
def document? {α : Type} : Upsert α → Option α
  | unchanged => none
  | appended document => some document
  | replaced document => some document

end Upsert

namespace Block

open Text

/-- Whether a document holds nothing yet: blank text, or the two braces that stand for an empty
value. -/
def isPlaceholder (document : List Char) : Bool :=
  let content := trim document
  content = [] || content = ['\x7b', '\x7d']

/-- The document whose lines are `lines`, with `insert` in place of the lines `first` to `last`. A
final newline of the document is kept, unless nothing is left. -/
def splice (document : List Char) (lines : List (List Char)) (first last : Nat)
    (insert : List Char) : List Char :=
  let head := if 0 < first then joinRange lines 0 ((first : Int) - 1) else []
  let tail := if last < lines.length - 1 then joinRange lines ((last : Int) + 1) (-1) else []
  let result := head ++ insert ++ tail
  if endsWithNewline document && result ≠ [] && !endsWithNewline result then result ++ ['\n']
  else result

/-- The document with `block` at its end, on lines of its own. A placeholder gives way to the
header. -/
def append (document block : List Char) : List Char :=
  let base := if isPlaceholder document then header else document
  if base ≠ [] && !endsWithNewline base then base ++ '\n' :: block else base ++ block

/-- Puts the block of `key` with `fragment` into the document. -/
def upsert (document key fragment : List Char) : Upsert (List Char) :=
  let lines := splitLines document
  match find key lines with
  | some (first, last) =>
    if joinLines (slice lines first last) ++ ['\n'] = render key fragment then .unchanged
    else .replaced (splice document lines first last (render key fragment))
  | none => .appended (append document (render key fragment))

/-- Takes the block of `key` out of the document; nothing when there is none. -/
def remove (document key : List Char) : Option (List Char) :=
  let lines := splitLines document
  (find key lines).map fun (first, last) => splice document lines first last []

end Block

/-! ## On strings -/

namespace Document

/-- What a document starts with once it holds blocks. -/
def header : String := String.ofList Block.header

/-- The line in front of the block of `key`. -/
def beginMarker (key : String) : String := String.ofList (Block.beginMarker key.toList)

/-- The line behind the block of `key`. -/
def endMarker (key : String) : String := String.ofList (Block.endMarker key.toList)

/-- The block of `key` that holds `fragment`, with its final newline. -/
def renderBlock (key fragment : String) : String :=
  String.ofList (Block.render key.toList fragment.toList)

/-- The numbers of the first and the last line of the block of `key`. -/
def findBlock (key : String) (lines : List String) : Option (Nat × Nat) :=
  Block.find key.toList (lines.map String.toList)

/-- The lines from `start` to `stop` joined. -/
def joinRange (lines : List String) (start stop : Int) : String :=
  String.ofList (Block.joinRange (lines.map String.toList) start stop)

/-- Whether a document holds nothing yet. -/
def isPlaceholder (document : String) : Bool := Block.isPlaceholder document.toList

/-- Puts the block of `key` with `fragment` into the document. -/
def upsert (document key fragment : String) : Upsert String :=
  (Block.upsert document.toList key.toList fragment.toList).map String.ofList

/-- Takes the block of `key` out of the document; nothing when there is none. -/
def remove (document key : String) : Option String :=
  (Block.remove document.toList key.toList).map String.ofList

end Document

end StateMetrics
