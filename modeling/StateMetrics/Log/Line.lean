import StateMetrics.Json.Printer
import StateMetrics.Log.Filter

/-!
# Log lines

A log line says when, how urgently and from which part of the program something is told. It is
written as text, with or without colours, or as JSON.
-/

namespace StateMetrics.Log

/-- What is told. -/
structure Entry where
  level : Level
  /-- The part of the program that tells it. -/
  part : String
  message : String
  deriving DecidableEq, Repr, Inhabited

/-- How lines are written. -/
inductive Form where
  | plain
  | coloured
  | json
  deriving DecidableEq, Repr, Inhabited

/-- The word for a level, in five columns. -/
def levelColumn (level : Level) : String :=
  String.ofList (List.replicate (5 - level.text.length) ' ') ++ level.text

/-- A text between the codes that switch a display on and off again. -/
def displayed (code text : String) : String := "\x1b[" ++ code ++ "m" ++ text ++ "\x1b[0m"

/-- The code for faint display. -/
def faint : String := "2"

/-- The code for the colour of a level. -/
def colour : Level → String
  | .error => "31"
  | .warn => "33"
  | .info => "32"
  | .debug => "34"
  | .trace => "35"

/-- An entry as a line, under the time that it is told at. -/
def Entry.line (form : Form) (time : String) (e : Entry) : String :=
  match form with
  | .plain => time ++ " " ++ levelColumn e.level ++ " " ++ e.part ++ ": " ++ e.message
  | .coloured =>
    displayed faint time ++ " " ++ displayed (colour e.level) (levelColumn e.level) ++ " "
      ++ displayed faint e.part ++ displayed faint ":" ++ " " ++ e.message
  | .json =>
    (Json.ofMembers [("fields", Json.ofMembers [("message", .str e.message)]),
      ("level", .str e.level.text), ("target", .str e.part), ("timestamp", .str time)]).render

end StateMetrics.Log
