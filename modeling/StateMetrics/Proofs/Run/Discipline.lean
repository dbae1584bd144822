import StateMetrics.Controller.Program

/-!
# Disciplines of programs

Where a program stands is told by a note that nobody reads. A discipline says which requests may be
made while the note reads so, and what it reads after an answer; a program obeys it whatever it is
answered. Small programs are shown to obey, and `Obeys.bind` puts them together.
-/

namespace StateMetrics

/-- Which requests may be made where a program stands, and where it stands after an answer. -/
structure Discipline (γ : Type) where
  permits : γ → Request → Prop
  after : γ → (r : Request) → r.Answer → γ

namespace Program

variable {γ δ α β : Type} {D : Discipline γ}

/-- From a note on, the program makes permitted requests only, whatever it is answered; the note and
its value at the end are as `post` says. -/
def Obeys (D : Discipline γ) (post : γ → α → Prop) : Program α → γ → Prop
  | done value, g => post g value
  | request r next, g => D.permits g r ∧ ∀ answer, (next answer).Obeys D post (D.after g r answer)
  | ask _ next, g => ∀ answer, (next answer).Obeys D post g

namespace Obeys

variable {post : γ → α → Prop} {p : Program α} {g : γ}

/-- A program goes on to obey if what comes next does, from any note and with any value that it may
end with. -/
theorem bind {final : γ → β → Prop} {next : α → Program β} (obeys : p.Obeys D post g)
    (rest : ∀ g value, post g value → (next value).Obeys D final g) :
    (p >>= next).Obeys D final g := by
  induction p generalizing g with
  | done value => exact rest g value obeys
  | request r more ih => exact ⟨obeys.1, fun answer => ih answer (obeys.2 answer)⟩
  | ask q more ih => exact fun answer => ih answer (obeys answer)

end Obeys

end Program

end StateMetrics
