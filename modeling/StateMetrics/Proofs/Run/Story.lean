import StateMetrics.Proofs.Run.Regime

/-!
# What happened in a run

The log of a world has the answered requests only. The story of a run has all that the attempts did:
when they began, what they asked the controller, what their requests were answered and what the
stores held then, and what they ended with. Every world that can be reached has a story
(`World.exists_story`).
-/

namespace StateMetrics

/-- Something that an attempt did. -/
inductive Deed (α : Type) where
  | begun (p : Program α)
  | asked (q : Question) (answer : q.Answer)
  /-- A request was answered, and the stores were these then. -/
  | answered (r : Request) (answer : r.Answer) (stores : Stores)
  | ended (value : α)

namespace World

variable {κ α : Type} [DecidableEq κ]

/-- The run to a world with what the attempts did on the way, the last of it last. What others do
leaves no trace in it. -/
inductive Unfolds (starts : κ → Program α → Prop) (others : Stores → Stores → Prop)
    (w₀ : World κ α) : List (κ × Deed α) → World κ α → Prop
  | outset : Unfolds starts others w₀ [] w₀
  | begun {story : List (κ × Deed α)} {w : World κ α} (a : κ) (p : Program α) :
    Unfolds starts others w₀ story w → w.running a = none → starts a p →
    Unfolds starts others w₀ (story ++ [(a, .begun p)]) (w.proceed a (some p))
  | ended {story : List (κ × Deed α)} {w : World κ α} (a : κ) (value : α) :
    Unfolds starts others w₀ story w → w.running a = some (.done value) →
    Unfolds starts others w₀ (story ++ [(a, .ended value)]) (w.proceed a none)
  | asked {story : List (κ × Deed α)} {w : World κ α} (a : κ) (q : Question)
      (next : q.Answer → Program α) :
    Unfolds starts others w₀ story w → w.running a = some (.ask q next) →
    Unfolds starts others w₀ (story ++ [(a, .asked q (w.own.answer q).1)])
      { w.proceed a (some (next (w.own.answer q).1)) with own := (w.own.answer q).2 }
  | answered {story : List (κ × Deed α)} {w w' : World κ α} (a : κ) (r : Request)
      (answer : r.Answer) :
    Unfolds starts others w₀ story w → w.Answers a r answer w' →
    Unfolds starts others w₀ (story ++ [(a, .answered r answer w'.stores)]) w'
  | interfered {story : List (κ × Deed α)} {w : World κ α} (stores : Stores) :
    Unfolds starts others w₀ story w → others w.stores stores →
    Unfolds starts others w₀ story { w with stores }
  | elapsed {story : List (κ × Deed α)} {w : World κ α} (clock : Moment) :
    Unfolds starts others w₀ story w →
    Unfolds starts others w₀ story { w with own := { w.own with clock } }

/-- Every run has its story. -/
theorem exists_story {starts : κ → Program α → Prop} {others : Stores → Stores → Prop}
    {w₀ w : World κ α} (run : Reaches starts others w₀ w) :
    ∃ story, Unfolds starts others w₀ story w := by
  induction run with
  | refl => exact ⟨[], .outset⟩
  | tail _ step ih =>
    obtain ⟨story, unfolds⟩ := ih
    cases step with
    | begun a p free start => exact ⟨_, .begun a p unfolds free start⟩
    | ended a value atEnd => exact ⟨_, .ended a value unfolds atEnd⟩
    | asked a q next atQuestion => exact ⟨_, .asked a q next unfolds atQuestion⟩
    | answered a r answer answers => exact ⟨_, .answered a r answer unfolds answers⟩
    | interfered stores other => exact ⟨_, .interfered stores unfolds other⟩
    | elapsed clock => exact ⟨_, .elapsed clock unfolds⟩

end World

end StateMetrics
