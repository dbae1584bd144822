import Mathlib.Logic.Relation
import StateMetrics.Proofs.Run.Conduct
import StateMetrics.Proofs.Run.Execution

/-!
# One program on its way

A passage is a program on its way: what is left of it, the stores, and what its requests were answered
so far. Which stores these are is a parameter, and so is what others do to them between two steps of
the program; a question to the controller may be answered anything. What every step keeps of a program
that conforms holds wherever it has come to (`Passage.holds`).
-/

namespace StateMetrics

/-- How stores answer: the stores, a request, the answer to it and the stores after it. -/
abbrev Service := Stores → (r : Request) → r.Answer → Stores → Prop

/-- A program on its way. -/
structure Passage (α : Type) where
  rest : Program α
  stores : Stores
  log : List (Σ r : Request, r.Answer)

namespace Passage

variable {α γ : Type} {service : Service} {others : Stores → Stores → Prop}

/-- One step of the program, or of somebody else. -/
inductive Step (service : Service) (others : Stores → Stores → Prop) : Passage α → Passage α → Prop
  | asked {s : Stores} {log : List (Σ r : Request, r.Answer)} (q : Question)
      (next : q.Answer → Program α) (answer : q.Answer) :
    Step service others ⟨.ask q next, s, log⟩ ⟨next answer, s, log⟩
  | answered {s s' : Stores} {log : List (Σ r : Request, r.Answer)} (r : Request)
      (next : r.Answer → Program α) (answer : r.Answer) :
    service s r answer s' →
    Step service others ⟨.request r next, s, log⟩ ⟨next answer, s', log ++ [⟨r, answer⟩]⟩
  | interfered {p : Program α} {s s' : Stores} {log : List (Σ r : Request, r.Answer)} :
    others s s' → Step service others ⟨p, s, log⟩ ⟨p, s', log⟩

/-- Any number of steps. -/
abbrev Reaches (service : Service) (others : Stores → Stores → Prop) :
    Passage α → Passage α → Prop :=
  Relation.ReflTransGen (Step service others)

/-- What every step keeps is kept on the whole way. -/
theorem holds {C : Conduct γ} {post : γ → α → Prop}
    (Holds : γ → Stores → List (Σ r : Request, r.Answer) → Prop)
    (answered : ∀ {g s log r s'} {answer : r.Answer}, Holds g s log → C.permits g r →
      service s r answer s' → Holds (C.after g r answer) s' (log ++ [⟨r, answer⟩]))
    (asked : ∀ {g s log q} {answer : q.Answer}, Holds g s log → C.allows g q →
      Holds (C.told g q answer) s log)
    (interfered : ∀ {g s log s'}, Holds g s log → others s s' → Holds g s' log)
    {w w' : Passage α} {g : γ} (start : Holds g w.stores w.log)
    (conforms : w.rest.Conforms C post g) (run : Reaches service others w w') :
    ∃ g', Holds g' w'.stores w'.log ∧ w'.rest.Conforms C post g' := by
  induction run with
  | refl => exact ⟨g, start, conforms⟩
  | tail _ step ih =>
    obtain ⟨g, held, conforms⟩ := ih
    cases step with
    | asked q next answer => exact ⟨_, asked held conforms.1, conforms.2 answer⟩
    | answered r next answer serves =>
      exact ⟨_, answered held conforms.1 serves, conforms.2 answer⟩
    | interfered other => exact ⟨g, interfered held other, conforms⟩

/-- A program that runs on the cluster up to some request comes as far, if the cluster's answers are
among those of the stores. -/
theorem reaches_runUntil (others : Stores → Stores → Prop)
    (serves : ∀ {c : Cluster} {s : Stores}, c.Shows s → ∀ r : Request,
      ∃ s', (Cluster.handle r c).2.Shows s' ∧ service s r (Cluster.handle r c).1 s')
    (stop : Request → Bool) (p : Program α) {c : Cluster} {s : Stores} (shows : c.Shows s)
    (own : ControllerState) (log : List (Σ r : Request, r.Answer)) :
    ∃ s', (p.runUntil stop Cluster.handle c own).2.1.Shows s' ∧
      Reaches service others ⟨p, s, log⟩ ⟨(p.runUntil stop Cluster.handle c own).1, s',
        log ++ p.answersUntil stop Cluster.handle c own⟩ := by
  induction p generalizing c s own log with
  | done value =>
    rw [Program.answersUntil, List.append_nil]
    exact ⟨s, shows, .refl⟩
  | request r next ih =>
    rw [Program.runUntil, Program.answersUntil]
    split
    · rw [List.append_nil]
      exact ⟨s, shows, .refl⟩
    · obtain ⟨s', shows', served⟩ := serves shows r
      obtain ⟨s'', shows'', run⟩ := ih _ shows' own (log ++ [⟨r, (Cluster.handle r c).1⟩])
      rw [List.append_assoc] at run
      exact ⟨s'', shows'', .head (.answered r next _ served) run⟩
  | ask q next ih =>
    obtain ⟨s', shows', run⟩ := ih (own.answer q).1 shows (own.answer q).2 log
    exact ⟨s', shows', .head (.asked q next _) run⟩

end Passage

end StateMetrics
