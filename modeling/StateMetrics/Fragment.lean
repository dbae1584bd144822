import StateMetrics.Text.Blank
import StateMetrics.Text.Lines
import StateMetrics.Yaml.Printer

/-!
# The text of resources

The resources of an instance are written as a YAML list, indented by four so that it stands under
the `resources` key of the document's header. The list is printed under that key first and the line
of the key then dropped; no resources make no text.
-/

namespace StateMetrics.Fragment

/-- What is put in front of a line. -/
def indentation : List Char := Yaml.spaces 4

/-- Puts the indentation in front of every line that holds more than white space. -/
def nest (text : List Char) : List Char :=
  (Text.splitAfterNewlines text).flatMap fun line =>
    if Text.isBlankText line then line else indentation ++ line

/-- What follows the first newline, if there is one. -/
def afterFirstLine? : List Char → Option (List Char)
  | [] => none
  | c :: text => if c = '\n' then some text else afterFirstLine? text

/-- The YAML document that lists the resources under their key. -/
def listing (resources : List Json) : List Char := Yaml.document [("resources", .arr resources)]

/-- The text of resources inside a block. -/
def encodeChars (resources : List Json) : List Char :=
  let yaml := listing resources
  match afterFirstLine? yaml with
  | none => yaml
  | some rest => nest rest

/-- The text of resources inside a block. -/
def encode (resources : List Json) : String := String.ofList (encodeChars resources)

end StateMetrics.Fragment
