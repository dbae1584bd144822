import StateMetrics.Json.Printer
import StateMetrics.Json.Reader
import StateMetrics.Text.Quoted
import StateMetrics.Time.Reading

/-!
# Decoding objects

A decoder turns what JSON writes into a value of the domain or says what is wrong with it. The
members of an object are decoded in the order of their names, so that of several faults the one
under the first name is reported, and absent members only after all others are found well. What a
decoder passes over may be anything.

Objects of the cluster take the last of the members under one name, though all of them have to be
well formed; records of the program take no name twice.
-/

namespace StateMetrics.Json

/-- What is wrong with a value. -/
inductive DecodeError where
  | wrongType (found : Written) (expected : String)
  | wrongValue (found : Written) (expected : String)
  | wrongLength (length : Nat) (expected : String)
  | missing (name : String)
  | repeated (name : String)
  /-- What is written stands for no value. -/
  | valueless
  | unknownVariant (found : String) (known : List String)
  | malformed (detail : String)
  deriving Repr, Inhabited

/-- What kind of value was found, with its text if it is short. -/
def Written.description : Written → String
  | .null => "null"
  | .bool true => "boolean `true`"
  | .bool false => "boolean `false`"
  | .number (some (.integer value)) => "integer `" ++ Decimal.intText value ++ "`"
  | .number (some (.real value)) =>
    "floating point `" ++ String.ofList (numberLayout.text value) ++ "`"
  | .number none => "number"
  | .text (some value) => "string " ++ Text.quoted value
  | .text none => "string"
  | .arr _ => "sequence"
  | .obj _ => "map"

/-- The words that a text should have been one of. -/
def alternatives : List String → String
  | [] => "there are no variants"
  | [a] => "expected `" ++ a ++ "`"
  | [a, b] => "expected `" ++ a ++ "` or `" ++ b ++ "`"
  | words => "expected one of " ++ String.intercalate ", " (words.map fun w => "`" ++ w ++ "`")

/-- The message of a decode error. -/
def DecodeError.message : DecodeError → String
  | wrongType found expected => "invalid type: " ++ found.description ++ ", expected " ++ expected
  | wrongValue found expected => "invalid value: " ++ found.description ++ ", expected " ++ expected
  | wrongLength length expected =>
    "invalid length " ++ Decimal.natText length ++ ", expected " ++ expected
  | missing name => "missing field `" ++ name ++ "`"
  | repeated name => "duplicate field `" ++ name ++ "`"
  | valueless => "no value"
  | unknownVariant found known => "unknown variant `" ++ found ++ "`, " ++ alternatives known
  | malformed detail => detail

/-- Turns what JSON writes into a value of the domain, or says what is wrong with it. -/
abbrev Decoder (α : Type) := Written → Except DecodeError α

/-- Decodes a JSON value. -/
def Decoder.onValue {α : Type} (decode : Decoder α) (value : Json) : Except DecodeError α :=
  decode value.written

namespace Decode

/-! ## Scalars -/

/-- A string. -/
def text : Decoder String
  | .text (some value) => .ok value
  | .text none => .error .valueless
  | found => .error (.wrongType found "a string")

/-- A truth value. -/
def boolean : Decoder Bool
  | .bool value => .ok value
  | found => .error (.wrongType found "a boolean")

/-- An integer between two bounds, both included, which `kind` names. -/
def integer (kind : String) (low high : Int) : Decoder Int
  | .number (some (.integer value)) =>
    if low ≤ value ∧ value ≤ high then .ok value
    else .error (.wrongValue (.number (some (.integer value))) kind)
  | found => .error (.wrongType found kind)

/-- An integer of 64 bits. -/
def int64 : Decoder Int := integer "i64" (-wordSize 63) (wordSize 63 - 1)

/-- A number of 16 bits. -/
def nat16 : Decoder Nat := fun value => (integer "u16" 0 65535 value).map Int.toNat

/-- A point in time. -/
def timestamp : Decoder Timestamp
  | .text (some value) =>
    match Timestamp.read value with
    | .ok t => .ok t
    | .error fault => .error (.malformed fault.message)
  | found => .error (.wrongType found "an RFC 3339 formatted date and time string")

/-- A value, whatever it is, inside so many lists and objects. -/
def anything (outer : Nat) : Decoder Json := fun value =>
  match value.toJson? (maxDepth - outer) with
  | some value => .ok value
  | none => .error .valueless

/-- A value or null. -/
def nullable {α : Type} (decode : Decoder α) : Decoder (Option α)
  | .null => .ok none
  | value => (decode value).map some

/-- One of some words. An object with one of them as its only name and null as its value counts as
the word. -/
def variant {α : Type} (known : List (String × α)) : Decoder α
  | .text (some word) =>
    match known.lookup word with
    | some value => .ok value
    | none => .error (.unknownVariant word (known.map Prod.fst))
  | .obj [(some word, content)] =>
    match known.lookup word, content with
    | some value, .null => .ok value
    | some _, content => .error (.wrongType content "unit")
    | none, _ => .error (.unknownVariant word (known.map Prod.fst))
  | .obj members => .error (.wrongValue (.obj members) "map with a single key")
  | found => .error (.wrongType found "string or map")

/-! ## Lists and maps -/

/-- A list whose items are decoded one after another. -/
def list {α : Type} (item : Decoder α) : Decoder (List α)
  | .arr items => items.mapM item
  | found => .error (.wrongType found "a sequence")

/-- A member of a map, decoded. -/
def entry {α : Type} (item : Decoder α) : Option String × Written → Except DecodeError (String × α)
  | (some name, value) => (item value).map fun v => (name, v)
  | (none, _) => .error .valueless

/-- A map from names to decoded values. -/
def map {α : Type} (item : Decoder α) : Decoder (NameMap α)
  | .obj members => (members.mapM (entry item)).map NameMap.ofPairs
  | found => .error (.wrongType found "a map")

/-- A map from names to strings. -/
def textMap : Decoder TextMap := map text

/-! ## Objects with known members -/

/-- The members of an object. -/
abbrev Members := List (Option String × Written)

/-- What stands under a name, in the order of the text. -/
def valuesOf (members : Members) (name : String) : List Written :=
  members.filterMap fun (found, value) => if found = some name then some value else none

/-- The value of a member, if it is there; it may not be there twice. -/
def member? {α : Type} (members : Members) (name : String) (decode : Decoder α) :
    Except DecodeError (Option α) :=
  match valuesOf members name with
  | [] => .ok none
  | [value] => (decode value).map some
  | _ => .error (.repeated name)

/-- The value of a member that may not be there twice, if it is there and not null. -/
def nullable? {α : Type} (members : Members) (name : String) (decode : Decoder α) :
    Except DecodeError (Option α) :=
  (member? members name (nullable decode)).map Option.join

/-- The last value under a name, if there is one and it is not null. All of them are decoded. -/
def optional {α : Type} (members : Members) (name : String) (decode : Decoder α) :
    Except DecodeError (Option α) :=
  (valuesOf members name).foldlM (fun _ value => nullable decode value) none

/-- A value that has to be there. -/
def required {α : Type} (name : String) : Option α → Except DecodeError α
  | some value => .ok value
  | none => .error (.missing name)

/-! ## Records, by name or by place -/

/-- How a record of `size` members is named in messages. -/
def recordName (name : String) : String := "struct " ++ name

/-- How a record that lacks items is named in messages. -/
def recordOf (name : String) (size : Nat) : String :=
  recordName name ++ " with " ++ Decimal.natText size ++
    (if size = 1 then " element" else " elements")

/-- The item of a list at a place, if the list is long enough. -/
def item? {α : Type} (items : List Written) (place : Nat) (decode : Decoder α) :
    Except DecodeError (Option α) :=
  match items[place]? with
  | none => .ok none
  | some value => (decode value).map some

/-- The item of a list at a place, in a list that has to be long enough for it. -/
def item {α : Type} (name : String) (size : Nat) (items : List Written) (place : Nat)
    (decode : Decoder α) : Except DecodeError α :=
  match items[place]? with
  | none => .error (.wrongLength place (recordOf name size))
  | some value => decode value

/-- Refuses a list that is longer than a record. -/
def noFurtherItems (size : Nat) (items : List Written) : Except DecodeError Unit :=
  if size < items.length then .error (.wrongLength items.length "fewer elements in array")
  else .ok ()

/-- The members of an object, decoded, if all names are good strings. -/
def named {α : Type} (byName : Members → Except DecodeError α) (members : Members) :
    Except DecodeError α :=
  if members.all (·.1.isSome) then byName members else .error .valueless

/-- A record, as an object or as the list of its members in their order. -/
def record {α : Type} (name : String) (byName : Members → Except DecodeError α)
    (byPlace : List Written → Except DecodeError α) : Decoder α
  | .obj members => named byName members
  | .arr items => byPlace items
  | found => .error (.wrongType found (recordName name))

/-- A record that is written as an object only. -/
def object {α : Type} (name : String) (byName : Members → Except DecodeError α) : Decoder α
  | .obj members => named byName members
  | found => .error (.wrongType found name)

end Decode

end StateMetrics.Json
