import StateMetrics.NameMap

/-!
# Label selectors

A selector is a list of expressions about labels, all of which have to hold. The values of an
expression form a set, kept in order.
-/

namespace StateMetrics

/-- One requirement on labels. -/
inductive Expression where
  /-- The label has this value. -/
  | equal (key value : String)
  /-- The label has one of these values. -/
  | among (key : String) (values : List String)
  /-- The label is absent or has none of these values. -/
  | notAmong (key : String) (values : List String)
  /-- The label is there. -/
  | present (key : String)
  /-- The label is not there. -/
  | absent (key : String)
  deriving DecidableEq, Repr, Inhabited

namespace Expression

/-- Whether labels meet the requirement. -/
def holds (labels : TextMap) : Expression → Bool
  | equal key value => labels.lookup key = some value
  | among key values => (labels.lookup key).any values.contains
  | notAmong key values => (labels.lookup key).all fun v => !values.contains v
  | present key => (labels.lookup key).isSome
  | absent key => (labels.lookup key).isNone

/-- The values between parentheses. -/
def valuesText (values : List String) : String := "(" ++ String.intercalate "," values ++ ")"

/-- The text of a requirement. -/
def text : Expression → String
  | equal key value => key ++ "=" ++ value
  | among key values => key ++ " in " ++ valuesText values
  | notAmong key values => key ++ " notin " ++ valuesText values
  | present key => key
  | absent key => "!" ++ key

end Expression

/-- A label selector. -/
structure Selector where
  expressions : List Expression
  deriving DecidableEq, Repr, Inhabited

namespace Selector

/-- Whether labels meet all requirements. -/
def selects (s : Selector) (labels : TextMap) : Bool := s.expressions.all (·.holds labels)

/-- Whether there is no requirement. -/
def selectsAll (s : Selector) : Bool := s.expressions.isEmpty

/-- The text of a selector. -/
def text (s : Selector) : String := String.intercalate "," (s.expressions.map Expression.text)

end Selector

end StateMetrics
