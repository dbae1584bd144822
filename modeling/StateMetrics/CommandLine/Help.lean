import StateMetrics.CommandLine.Arguments
import StateMetrics.Text.Control
import StateMetrics.Text.Lines

/-!
# Help

The text that lists the options, one a line, and the text of the version.
-/

namespace StateMetrics.CommandLine

/-- The name of the program. -/
def programName : String := "operator"

/-- The version of the program. -/
def programVersion : String := "0.1.0"

/-- The line that tells the version. -/
def versionLine : String := programName ++ " " ++ programVersion

/-- An option as the help lists it: its forms, and what it is for. -/
structure Entry where
  forms : String
  about : String
  deriving DecidableEq, Repr

/-- The forms of an option, the names aligned whether there is a letter or not. -/
def Entry.formsOf (letter? : Option Char) (name : String) : String :=
  (match letter? with
    | some letter => String.ofList ['-', letter, ',', ' ']
    | none => "    ") ++ "--" ++ name

/-- The entry of a setting; it shows what the environment holds. -/
def Entry.ofSetting (environment : Environment) (s : Setting) : Entry where
  forms := formsOf s.short? s.long ++ " <" ++ s.valueName ++ ">"
  about := s.about
    ++ " [env: " ++ s.variableName ++ "=" ++ (environment s.variableName).getD "" ++ "]"
    ++ (match s.default? with
      | some value => " [default: " ++ value ++ "]"
      | none => "")
    ++ (match s.choices with
      | [] => ""
      | values => " [possible values: " ++ ", ".intercalate values ++ "]")

/-- All entries. -/
def entries (environment : Environment) : List Entry :=
  Setting.all.map (Entry.ofSetting environment)
    ++ [⟨Entry.formsOf (some 'h') "help", "Print help"⟩,
        ⟨Entry.formsOf (some 'V') "version", "Print version"⟩]

/-- A text whose lines after the first begin behind so many spaces. -/
def indented (width : Nat) (text : List Char) : List Char :=
  text.flatMap fun c => if c = '\n' then '\n' :: List.replicate width ' ' else [c]

/-- An entry as a line, with what it is for behind a column of the given width. Further lines of
what it is for, which only the environment brings in, begin at the same place. -/
def Entry.line (width : Nat) (e : Entry) : String :=
  "  " ++ e.forms ++ String.ofList (List.replicate (width - e.forms.length) ' ') ++ "  "
    ++ String.ofList (indented (width + 4) e.about.toList)

/-- The help as it is printed, an entry behind another. Control sequences that the environment
brings in are left out. -/
def helpLines (environment : Environment) : List String :=
  let all := entries environment
  let width := all.foldl (fun widest e => max widest e.forms.length) 0
  let text := "\n".intercalate
    (["Usage: " ++ programName ++ " [OPTIONS]", "", "Options:"] ++ all.map (Entry.line width))
  (Text.shownLines (Text.withoutControls text.toList)).map String.ofList

end StateMetrics.CommandLine
