import StateMetrics.Object.Base64
import StateMetrics.Object.Meta

/-!
# Config maps

The object that holds shared documents: each of its data keys is one document. `content` and
`setContent` read and write a document; the other data keys stay as they are.
-/

namespace StateMetrics

/-- A config map. -/
structure ConfigMap where
  metadata : ObjectMeta := {}
  /-- The documents by their data keys. -/
  data : Option TextMap := none
  /-- Data that is no text, in base 64. -/
  binaryData : Option TextMap := none
  immutable : Option Bool := none
  deriving Repr, Inhabited

/-- Where an instance writes its block: a config map and one of its data keys. -/
structure Target where
  name : String
  namespaceName : String
  key : String
  deriving DecidableEq, Repr, Inhabited

/-- The name of the target's config map beyond its namespace. -/
def Target.mapKey (t : Target) : String := t.name ++ "@" ++ t.namespaceName

/-- The data key that is used when none is named. -/
def Target.defaultKey : String := "config.yaml"

namespace ConfigMap

/-- The document under a data key; empty when there is none. -/
def content (c : ConfigMap) (key : String) : String := ((c.data.getD []).lookup key).getD ""

/-- The config map with another document under a data key. -/
def setContent (c : ConfigMap) (key content : String) : ConfigMap :=
  { c with data := some (NameMap.insert key content (c.data.getD [])) }

/-- The name of the config map beyond its namespace. -/
def mapKey (c : ConfigMap) : String := c.metadata.key

/-- A config map for a target that holds nothing but one document. -/
def ofContent (target : Target) (content : String) : ConfigMap :=
  setContent { metadata := { name := some target.name, namespaceName? := some target.namespaceName } }
    target.key content

/-! ## Stored form -/

open Json Decode

/-- Reads a certain word. -/
def thisWord (expected : String) : Decoder Unit := fun value => do
  let found ← text value
  if found = expected then pure () else .error (.wrongValue (.text (some found)) expected)

/-- Reads a member that has to hold one certain word wherever it is. -/
def word (members : Members) (name expected : String) : Except DecodeError Unit :=
  (valuesOf members name).forM (thisWord expected)

/-- Reads a text in base 64; null is empty. -/
def base64 : Decoder String
  | .null => .ok ""
  | .text (some value) =>
    match Base64.check value.toUTF8.toList with
    | none => .ok value
    | some fault => .error (.malformed fault.message)
  | found => .error (.wrongType found "a base64-encoded string")

/-- Reads a config map. -/
def decode : Decoder ConfigMap := object "ConfigMap" fun members => do
  word members "apiVersion" "v1"
  let binaryData ← optional members "binaryData" (map base64)
  let data ← optional members "data" textMap
  let immutable ← optional members "immutable" boolean
  word members "kind" "ConfigMap"
  let metadata ← optional members "metadata" ObjectMeta.decode
  pure { metadata := metadata.getD {}, data, binaryData, immutable }

/-- The stored form of a config map. -/
def toJson (c : ConfigMap) : Json :=
  ofSome [("apiVersion", some (.str "v1")), ("binaryData", c.binaryData.map ofTextMap),
    ("data", c.data.map ofTextMap), ("immutable", c.immutable.map .bool),
    ("kind", some (.str "ConfigMap")), ("metadata", some c.metadata.toJson)]

end ConfigMap

end StateMetrics
