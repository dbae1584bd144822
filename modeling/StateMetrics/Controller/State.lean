import StateMetrics.Controller.Program

/-!
# Running programs

The controller's own state: the versions it reconciled last, its counters, its clock and the moment
of its last activity. `Program.run` runs a program on it, with the requests answered by any stores.
-/

namespace StateMetrics

/-- The controller's own state. -/
structure ControllerState where
  /-- The versions reconciled last, by the keys of their instances. -/
  seen : NameMap Instance := []
  metrics : Metrics := {}
  /-- When a reconciliation last began. -/
  lastActivity : Option Moment := none
  /-- What moment it is. -/
  clock : Moment := .tick 0

namespace ControllerState

/-- Answers a question and takes in what it tells. -/
def answer (s : ControllerState) : (q : Question) → q.Answer × ControllerState
  | .now => (s.clock, s)
  | .lastSeen key => (s.seen.lookup key, s)
  | .remember version => ((), { s with seen := NameMap.insert version.key version s.seen })
  | .forget key => ((), { s with seen := NameMap.erase key s.seen })
  | .count tally => ((), { s with metrics := s.metrics.count tally })
  | .noteActivity => ((), { s with lastActivity := some s.clock })

end ControllerState

/-- How stores answer requests: the answer and the stores after it. -/
abbrev Handler (σ : Type) := (r : Request) → σ → r.Answer × σ

/-- Runs a program against stores, from a state of the stores and of the controller. -/
def Program.run {α σ : Type} (handle : Handler σ) :
    Program α → σ → ControllerState → α × σ × ControllerState
  | .done value, stores, own => (value, stores, own)
  | .request r next, stores, own =>
    let (answer, stores) := handle r stores
    (next answer).run handle stores own
  | .ask q next, stores, own =>
    let (answer, own) := own.answer q
    (next answer).run handle stores own

end StateMetrics
