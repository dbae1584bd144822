import StateMetrics.Decimal.Digits
import StateMetrics.Decimal.Word

/-!
# Settings

What the program can be told: five settings, each with an option, a variable of the environment, and
most with a default. Each setting says which values it takes.
-/

namespace StateMetrics.CommandLine

/-- A setting of the program. -/
inductive Setting where
  /-- The selector for the labels of instances. -/
  | selector
  /-- The selector for the labels of their namespaces. -/
  | namespaceSelector
  /-- Where metrics and health are served. -/
  | bind
  /-- How many attempts are made while writes conflict. -/
  | maxAttempts
  /-- How log lines are written. -/
  | logFormat
  deriving DecidableEq, Repr, Inhabited

/-- Why the arguments set nothing up. -/
inductive Stop where
  /-- The help was asked for. -/
  | help
  /-- The version was asked for. -/
  | version
  /-- There is no such option, or an argument that belongs to none. -/
  | unknown (argument : String)
  /-- An option that takes no value has one. -/
  | unexpectedValue (option : String)
  /-- An option stands there twice. -/
  | repeated (setting : Setting)
  /-- An option has no value. -/
  | missingValue (setting : Setting)
  /-- The value is none of those that are listed. -/
  | unlisted (setting : Setting) (value : String)
  /-- The value is not a number, or out of range. -/
  | refused (setting : Setting) (value : String)
  deriving DecidableEq, Repr, Inhabited

namespace Setting

/-- All settings, in the order of the help. -/
def all : List Setting := [selector, namespaceSelector, bind, maxAttempts, logFormat]

/-- The name of the option. -/
def long : Setting → String
  | selector => "selector"
  | namespaceSelector => "namespace-selector"
  | bind => "bind"
  | maxAttempts => "max-attempts"
  | logFormat => "log-format"

/-- The letter of the option, if it has one. -/
def short? : Setting → Option Char
  | bind => some 'b'
  | _ => none

/-- The variable of the environment. -/
def variableName : Setting → String
  | selector => "CRSM_SELECTOR"
  | namespaceSelector => "CRSM_NAMESPACE_SELECTOR"
  | bind => "CRSM_BIND"
  | maxAttempts => "CRSM_MAX_ATTEMPTS"
  | logFormat => "CRSM_LOG_FORMAT"

/-- What the help calls the value. -/
def valueName : Setting → String
  | selector => "SELECTOR"
  | namespaceSelector => "SELECTOR"
  | bind => "ADDRESS"
  | maxAttempts => "COUNT"
  | logFormat => "LOG_FORMAT"

/-- What the setting is for. -/
def about : Setting → String
  | selector => "Label selector (YAML or JSON) an instance must match to be reconciled"
  | namespaceSelector => "Label selector (YAML or JSON) the namespace of an instance must match"
  | bind => "Address of the metrics and health endpoints"
  | maxAttempts => "Attempts of a reconciliation running into write conflicts"
  | logFormat => "Format of the log lines"

/-- The value that counts when none is given. -/
def default? : Setting → Option String
  | bind => some "0.0.0.0:9000"
  | maxAttempts => some "3"
  | logFormat => some "text"
  | _ => none

/-- The values to choose from, if they are listed. -/
def choices : Setting → List String
  | logFormat => ["text", "json"]
  | _ => []

/-- The number of attempts that a text writes: at least one, and no more than 32 bits hold. -/
def attempts? (text : String) : Option UInt32 :=
  match Decimal.ofSigned? text.toList with
  | some n => if 1 ≤ n ∧ n < wordSize 32 then some (UInt32.ofNat n.toNat) else none
  | none => none

/-- Why a value is not taken, if it is not. -/
def fault? (setting : Setting) (value : String) : Option Stop :=
  match setting with
  | maxAttempts => if (attempts? value).isSome then none else some (.refused setting value)
  | logFormat => if (choices setting).contains value then none else some (.unlisted setting value)
  | _ => none

end Setting

end StateMetrics.CommandLine
