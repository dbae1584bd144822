import Mathlib.Logic.Relation
import StateMetrics.Controller.State
import StateMetrics.Proofs.Run.Discipline
import StateMetrics.Proofs.Store.Contract

/-!
# Attempts side by side

A world holds the stores, the controller's own state, the attempts under way and a log of all
answered requests. One step is one answer to one attempt, or something that happens between two of
them: an attempt begins or ends, somebody else writes, time passes. Attempts under different names
take their steps in any order; under one name there is one at a time.

A `Protocol` gives every attempt a note that tells where it stands, ties the note to the stores and
the log, and shows that no step of anybody loosens a tie. `Protocol.holds` is what follows for all
worlds that can be reached.
-/

namespace StateMetrics

/-- A request of an attempt, and the answer to it. -/
structure Occurrence (κ : Type) where
  attempt : κ
  request : Request
  answer : request.Answer

/-- Attempts under way on the same stores. -/
structure World (κ α : Type) where
  stores : Stores
  own : ControllerState
  running : κ → Option (Program α)
  log : List (Occurrence κ)

namespace World

variable {κ α : Type} [DecidableEq κ]

/-- The world in which an attempt is at another point of its program, or no longer under way. -/
def proceed (w : World κ α) (a : κ) (p : Option (Program α)) : World κ α :=
  { w with running := Function.update w.running a p }

@[simp] theorem proceed_running_self (w : World κ α) (a : κ) (p : Option (Program α)) :
    (w.proceed a p).running a = p :=
  Function.update_self ..

theorem proceed_running_of_ne {a b : κ} (other : b ≠ a) (w : World κ α) (p : Option (Program α)) :
    (w.proceed a p).running b = w.running b :=
  Function.update_of_ne other ..

/-- The request that an attempt is at is answered. -/
inductive Answers (w : World κ α) (a : κ) (r : Request) (answer : r.Answer) : World κ α → Prop
  | intro (next : r.Answer → Program α) (stores : Stores) :
    w.running a = some (.request r next) → w.stores.Serves r answer stores →
    Answers w a r answer
      { w.proceed a (some (next answer)) with stores, log := w.log ++ [⟨a, r, answer⟩] }

/-- One step of a world, given the programs that attempts may begin with and what others may do to
the stores. -/
inductive Step (starts : κ → Program α → Prop) (others : Stores → Stores → Prop) :
    World κ α → World κ α → Prop
  | begun {w : World κ α} (a : κ) (p : Program α) :
    w.running a = none → starts a p → Step starts others w (w.proceed a (some p))
  | ended {w : World κ α} (a : κ) (value : α) :
    w.running a = some (.done value) → Step starts others w (w.proceed a none)
  | asked {w : World κ α} (a : κ) (q : Question) (next : q.Answer → Program α) :
    w.running a = some (.ask q next) →
    Step starts others w
      { w.proceed a (some (next (w.own.answer q).1)) with own := (w.own.answer q).2 }
  | answered {w w' : World κ α} (a : κ) (r : Request) (answer : r.Answer) :
    w.Answers a r answer w' → Step starts others w w'
  | interfered {w : World κ α} (stores : Stores) :
    others w.stores stores → Step starts others w { w with stores }
  | elapsed {w : World κ α} (clock : Moment) :
    Step starts others w { w with own := { w.own with clock } }

/-- Any number of steps. -/
abbrev Reaches (starts : κ → Program α → Prop) (others : Stores → Stores → Prop) :
    World κ α → World κ α → Prop :=
  Relation.ReflTransGen (Step starts others)

/-- Nothing is under way and nothing was answered yet. -/
structure Idle (w : World κ α) : Prop where
  running (a : κ) : w.running a = none
  log : w.log = []

end World

/-- Notes for attempts, tied to the stores and the log, so that nobody's step loosens a tie. -/
structure Protocol (κ γ : Type) (others : Stores → Stores → Prop) where
  start : κ → γ
  discipline : κ → Discipline γ
  Safe : Stores → List (Occurrence κ) → Prop
  Tie : κ → γ → Stores → List (Occurrence κ) → Prop
  tie_start {a s log} : Safe s log → Tie a (start a) s log
  interfered {s s' log} : Safe s log → others s s' →
    Safe s' log ∧ ∀ a g, Tie a g s log → Tie a g s' log
  answered {a g s s' log r} {answer : r.Answer} : Safe s log → Tie a g s log →
    (discipline a).permits g r → s.Serves r answer s' →
    Safe s' (log ++ [⟨a, r, answer⟩]) ∧
      Tie a ((discipline a).after g r answer) s' (log ++ [⟨a, r, answer⟩]) ∧
      ∀ b h, b ≠ a → Tie b h s log → Tie b h s' (log ++ [⟨a, r, answer⟩])

namespace Protocol

variable {κ γ α : Type} [DecidableEq κ] {others : Stores → Stores → Prop}
  {starts : κ → Program α → Prop}

/-- All ties hold, and every attempt will go on as its note says. -/
structure Holds (P : Protocol κ γ others) (w : World κ α) : Prop where
  safe : P.Safe w.stores w.log
  note {a p} : w.running a = some p →
    ∃ g, P.Tie a g w.stores w.log ∧ p.Obeys (P.discipline a) (fun _ _ => True) g

variable {P : Protocol κ γ others} {w w' : World κ α}

/-- An attempt goes on alone: the ties of all others stay as they are. -/
theorem Holds.note_proceed {p : Option (Program α)} {a : κ} (holds : P.Holds w)
    (own : ∀ q, p = some q →
      ∃ g, P.Tie a g w.stores w.log ∧ q.Obeys (P.discipline a) (fun _ _ => True) g)
    {b : κ} {q : Program α} (atPoint : (w.proceed a p).running b = some q) :
    ∃ g, P.Tie b g w.stores w.log ∧ q.Obeys (P.discipline b) (fun _ _ => True) g := by
  by_cases same : b = a
  · subst same
    rw [World.proceed_running_self] at atPoint
    exact own q atPoint
  · rw [World.proceed_running_of_ne same] at atPoint
    exact holds.note atPoint

/-- An answer to one attempt keeps the ties of all. -/
theorem Holds.answers (holds : P.Holds w) {a : κ} {r : Request} {answer : r.Answer}
    (answers : w.Answers a r answer w') : P.Holds w' := by
  obtain ⟨next, stores, atRequest, serves⟩ := answers
  obtain ⟨g, tie, permitted, obeys⟩ := holds.note atRequest
  obtain ⟨safe, ownTie, otherTies⟩ := P.answered holds.safe tie permitted serves
  refine ⟨safe, fun {b q} atPoint => ?_⟩
  by_cases same : b = a
  · subst same
    have now : some (next answer) = some q :=
      (World.proceed_running_self w b (some (next answer))).symm.trans atPoint
    cases now
    exact ⟨_, ownTie, obeys answer⟩
  · have before : w.running b = some q := by
      rw [← atPoint]
      exact (Function.update_of_ne same ..).symm
    obtain ⟨h, tie', obeys'⟩ := holds.note before
    exact ⟨h, otherTies b h same tie', obeys'⟩

/-- What anybody does keeps the ties of all. -/
theorem Holds.step (holds : P.Holds w)
    (begins : ∀ a p, starts a p → p.Obeys (P.discipline a) (fun _ _ => True) (P.start a))
    (step : World.Step starts others w w') : P.Holds w' := by
  cases step with
  | begun a p free start =>
    refine ⟨holds.safe, holds.note_proceed fun q now => ?_⟩
    cases now
    exact ⟨P.start a, P.tie_start holds.safe, begins a p start⟩
  | ended a value atEnd =>
    exact ⟨holds.safe, holds.note_proceed fun q now => by cases now⟩
  | asked a q next atQuestion =>
    refine ⟨holds.safe, holds.note_proceed fun q now => ?_⟩
    cases now
    obtain ⟨g, tie, obeys⟩ := holds.note atQuestion
    exact ⟨g, tie, obeys _⟩
  | answered a r answer answers => exact holds.answers answers
  | interfered stores other =>
    obtain ⟨safe, ties⟩ := P.interfered holds.safe other
    refine ⟨safe, fun {b q} atPoint => ?_⟩
    obtain ⟨g, tie, obeys⟩ := holds.note atPoint
    exact ⟨g, ties b g tie, obeys⟩
  | elapsed clock => exact ⟨holds.safe, holds.note⟩

/-- In every world that is reached all ties hold. -/
theorem holds {w₀ : World κ α} (idle : w₀.Idle) (safe : P.Safe w₀.stores [])
    (begins : ∀ a p, starts a p → p.Obeys (P.discipline a) (fun _ _ => True) (P.start a))
    (run : World.Reaches starts others w₀ w) : P.Holds w := by
  induction run with
  | refl =>
    refine ⟨idle.log ▸ safe, fun {a p} atPoint => ?_⟩
    rw [idle.running a] at atPoint
    cases atPoint
  | tail _ step ih => exact ih.step begins step

end Protocol

end StateMetrics
