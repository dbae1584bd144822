import StateMetrics.CommandLine.Setting

/-!
# Reading arguments

Arguments are read from left to right. An option takes its value from behind an equals sign or from
the next argument; a letter takes it from behind itself as well. The value of an option is looked at
when the next option begins, so an argument that is not known comes before a value that is not
taken. Behind two dashes no option is known any more.
-/

namespace StateMetrics.CommandLine

/-- The values of the settings. -/
abbrev Values := List (Setting × String)

/-- A reading under way. -/
structure Reading where
  /-- The values that were taken. -/
  values : Values := []
  /-- The option read last, if its value was not taken yet, and its value once it is there. -/
  pending : Option (Setting × Option String) := none
  /-- Whether options may still come. -/
  options : Bool := true
  deriving DecidableEq, Repr, Inhabited

namespace Reading

/-- Takes a value for a setting. -/
def accept (r : Reading) (setting : Setting) (value : String) : Except Stop Reading :=
  if (r.values.lookup setting).isSome then .error (.repeated setting)
  else match setting.fault? value with
    | some stop => .error stop
    | none => .ok { r with values := r.values ++ [(setting, value)] }

/-- Takes the value of the option that was read last. -/
def settle (r : Reading) : Except Stop Reading :=
  match r.pending with
  | none => .ok r
  | some (setting, none) => .error (.missingValue setting)
  | some (setting, some value) => { r with pending := none }.accept setting value

/-- Begins an option, with its value if that stands with it. -/
def begin (r : Reading) (setting : Setting) (value? : Option String) : Except Stop Reading := do
  let r ← r.settle
  match value? with
  | some value => r.accept setting value
  | none => pure { r with pending := some (setting, none) }

/-- Stops with what was asked for, once all before it is taken. -/
def stop (r : Reading) (asked : Stop) : Except Stop Reading := do
  let _ ← r.settle
  .error asked

/-- Reads an option by name: what stands behind its two dashes. -/
def long (r : Reading) (text : List Char) : Except Stop Reading :=
  let name := String.ofList (text.takeWhile (· ≠ '='))
  let value? :=
    if text.contains '=' then some (String.ofList (text.drop (name.length + 1))) else none
  match Setting.all.find? (·.long = name) with
  | some setting => r.begin setting value?
  | none =>
    match [("help", Stop.help), ("version", Stop.version)].lookup name with
    | some asked => if value?.isSome then .error (.unexpectedValue name) else r.stop asked
    | none => .error (.unknown ("--" ++ name))

/-- Reads an option by letter: what stands behind its dash. -/
def short (r : Reading) (letter : Char) (rest : List Char) : Except Stop Reading :=
  match Setting.all.find? (·.short? = some letter) with
  | some setting =>
    let value? := match rest with
      | [] => none
      | '=' :: value => some (String.ofList value)
      | value => some (String.ofList value)
    r.begin setting value?
  | none =>
    if letter = 'h' then r.stop .help
    else if letter = 'V' then r.stop .version
    else .error (.unknown (String.ofList ['-', letter]))

/-- Reads an argument that is no option: the value of the option before it, if that has none yet. -/
def plain (r : Reading) (argument : String) : Except Stop Reading :=
  match r.pending with
  | some (setting, none) => .ok { r with pending := some (setting, some argument) }
  | _ => .error (.unknown argument)

/-- Reads one argument. -/
def step (r : Reading) (argument : String) : Except Stop Reading :=
  if r.options then
    match argument.toList with
    | ['-', '-'] => .ok { r with options := false }
    | '-' :: '-' :: text => r.long text
    | '-' :: letter :: rest => r.short letter rest
    | _ => r.plain argument
  else .error (.unknown argument)

end Reading

/-- The values that the arguments give. -/
def Values.ofArguments (arguments : List String) : Except Stop Values := do
  let r ← arguments.foldlM Reading.step {}
  let r ← r.settle
  pure r.values

/-- What a variable of the environment holds, if it is set. -/
abbrev Environment := String → Option String

/-- The value of a setting: of the arguments, else of the environment, else the default. -/
def Values.value? (given : Values) (environment : Environment) (setting : Setting) :
    Option String :=
  ((given.lookup setting).or (environment setting.variableName)).or setting.default?

/-- Refuses the first variable of the environment that counts and holds a value not taken. -/
def Values.checkEnvironment (given : Values) (environment : Environment) : Except Stop Unit :=
  Setting.all.forM fun setting =>
    match given.lookup setting, environment setting.variableName with
    | none, some value =>
      match setting.fault? value with
      | some stop => .error stop
      | none => .ok ()
    | _, _ => .ok ()

/-- How log lines are written. -/
inductive LogFormat where
  | text
  | json
  deriving DecidableEq, Repr, Inhabited

/-- What the program is told. -/
structure Options where
  selector : Option String
  namespaceSelector : Option String
  bind : String
  maxAttempts : UInt32
  logFormat : LogFormat
  deriving DecidableEq, Repr, Inhabited

/-- The options that arguments and environment give. -/
def Options.read (arguments : List String) (environment : Environment) : Except Stop Options := do
  let given ← Values.ofArguments arguments
  given.checkEnvironment environment
  let value? := given.value? environment
  pure { selector := value? .selector
         namespaceSelector := value? .namespaceSelector
         bind := (value? .bind).getD ""
         maxAttempts := ((value? .maxAttempts).bind Setting.attempts?).getD 1
         logFormat := if value? .logFormat = some "json" then .json else .text }

end StateMetrics.CommandLine
