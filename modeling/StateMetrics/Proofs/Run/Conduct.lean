import StateMetrics.Proofs.Run.Discipline

/-!
# The conduct of a program

A discipline looks at the requests of a program only. Its conduct is also what it asks the controller
and what it ends with: the counts that it keeps, the versions that it has remembered, the result that
it hands back. A program that conforms, whatever it is answered, obeys every discipline that sees
less (`Conforms.obeys`).
-/

namespace StateMetrics

/-- A discipline for requests and questions. -/
structure Conduct (γ : Type) extends Discipline γ where
  allows : γ → Question → Prop
  told : γ → (q : Question) → q.Answer → γ

/-- Two conducts kept at once, each with a note of its own. -/
def Conduct.both {γ δ : Type} (C : Conduct γ) (D : Conduct δ) : Conduct (γ × δ) where
  permits g r := C.permits g.1 r ∧ D.permits g.2 r
  after g r answer := (C.after g.1 r answer, D.after g.2 r answer)
  allows g q := C.allows g.1 q ∧ D.allows g.2 q
  told g q answer := (C.told g.1 q answer, D.told g.2 q answer)

namespace Program

variable {γ δ α β : Type} {C : Conduct γ}

/-- From a note on, the program makes permitted requests and asks allowed questions only, whatever it
is answered; the note and its value at the end are as `post` says. -/
def Conforms (C : Conduct γ) (post : γ → α → Prop) : Program α → γ → Prop
  | done value, g => post g value
  | request r next, g => C.permits g r ∧ ∀ answer, (next answer).Conforms C post (C.after g r answer)
  | ask q next, g => C.allows g q ∧ ∀ answer, (next answer).Conforms C post (C.told g q answer)

namespace Conforms

variable {post : γ → α → Prop} {p : Program α} {g : γ}

/-- A program goes on to conform if what comes next does, from any note and with any value that it
may end with. -/
theorem bind {final : γ → β → Prop} {next : α → Program β} (conforms : p.Conforms C post g)
    (rest : ∀ g value, post g value → (next value).Conforms C final g) :
    (p >>= next).Conforms C final g := by
  induction p generalizing g with
  | done value => exact rest g value conforms
  | request r more ih => exact ⟨conforms.1, fun answer => ih answer (conforms.2 answer)⟩
  | ask q more ih => exact ⟨conforms.1, fun answer => ih answer (conforms.2 answer)⟩

theorem mono {final : γ → α → Prop} (conforms : p.Conforms C post g)
    (weaker : ∀ g value, post g value → final g value) : p.Conforms C final g := by
  induction p generalizing g with
  | done value => exact weaker g value conforms
  | request r more ih => exact ⟨conforms.1, fun answer => ih answer (conforms.2 answer)⟩
  | ask q more ih => exact ⟨conforms.1, fun answer => ih answer (conforms.2 answer)⟩

theorem send {r : Request} {post : γ → r.Answer → Prop} (permitted : C.permits g r)
    (answered : ∀ answer, post (C.after g r answer) answer) : (Program.send r).Conforms C post g :=
  ⟨permitted, answered⟩

theorem inquire {q : Question} {post : γ → q.Answer → Prop} (allowed : C.allows g q)
    (answered : ∀ answer, post (C.told g q answer) answer) :
    (Program.inquire q).Conforms C post g :=
  ⟨allowed, answered⟩

/-- A program that keeps to two conducts keeps to them at once. -/
theorem both {D : Conduct δ} {h : δ} {post' : δ → α → Prop} (conforms : p.Conforms C post g)
    (conforms' : p.Conforms D post' h) :
    p.Conforms (C.both D) (fun g value => post g.1 value ∧ post' g.2 value) (g, h) := by
  induction p generalizing g h with
  | done value => exact ⟨conforms, conforms'⟩
  | request r more ih =>
    exact ⟨⟨conforms.1, conforms'.1⟩,
      fun answer => ih answer (conforms.2 answer) (conforms'.2 answer)⟩
  | ask q more ih =>
    exact ⟨⟨conforms.1, conforms'.1⟩,
      fun answer => ih answer (conforms.2 answer) (conforms'.2 answer)⟩

/-- A conduct that is kept with one kind of note is kept with another that goes along with it. -/
theorem along {E : Conduct δ} {final : δ → α → Prop} (R : γ → δ → Prop)
    (permits : ∀ {g h r}, R g h → C.permits g r → E.permits h r)
    (after : ∀ {g h r answer}, R g h → C.permits g r → R (C.after g r answer) (E.after h r answer))
    (allows : ∀ {g h q}, R g h → C.allows g q → E.allows h q)
    (told : ∀ {g h q answer}, R g h → C.allows g q → R (C.told g q answer) (E.told h q answer))
    (ends : ∀ {g h value}, R g h → post g value → final h value)
    (conforms : p.Conforms C post g) {h : δ} (start : R g h) : p.Conforms E final h := by
  induction p generalizing g h with
  | done value => exact ends start conforms
  | request r next ih =>
    exact ⟨permits start conforms.1,
      fun answer => ih answer (conforms.2 answer) (after start conforms.1)⟩
  | ask q next ih =>
    exact ⟨allows start conforms.1,
      fun answer => ih answer (conforms.2 answer) (told start conforms.1)⟩

/-- A conduct that is kept with one kind of note is kept with another that stands for it. -/
theorem lift {E : Conduct δ} {final : δ → α → Prop} (f : γ → δ)
    (permits : ∀ g r, C.permits g r → E.permits (f g) r)
    (after : ∀ g r answer, C.permits g r → E.after (f g) r answer = f (C.after g r answer))
    (allows : ∀ g q, C.allows g q → E.allows (f g) q)
    (told : ∀ g q answer, C.allows g q → E.told (f g) q answer = f (C.told g q answer))
    (ends : ∀ g value, post g value → final (f g) value) (conforms : p.Conforms C post g) :
    p.Conforms E final (f g) := by
  refine along (fun g h => h = f g) ?_ ?_ ?_ ?_ ?_ conforms rfl
  · rintro g _ r rfl
    exact permits g r
  · rintro g _ r answer rfl
    exact after g r answer
  · rintro g _ q rfl
    exact allows g q
  · rintro g _ q answer rfl
    exact told g q answer
  · rintro g _ value rfl
    exact ends g value

/-- Who conforms obeys a discipline whose notes leave out what was asked. -/
theorem obeys {D : Discipline δ} {final : δ → α → Prop} (f : γ → δ)
    (permits : ∀ g r, C.permits g r → D.permits (f g) r)
    (after : ∀ g r answer, C.permits g r → D.after (f g) r answer = f (C.after g r answer))
    (told : ∀ g q answer, C.allows g q → f (C.told g q answer) = f g)
    (ends : ∀ g value, post g value → final (f g) value) (conforms : p.Conforms C post g) :
    p.Obeys D final (f g) := by
  induction p generalizing g with
  | done value => exact ends g value conforms
  | request r next ih =>
    refine ⟨permits g r conforms.1, fun answer => ?_⟩
    rw [after g r answer conforms.1]
    exact ih answer (conforms.2 answer)
  | ask q next ih =>
    intro answer
    rw [← told g q answer conforms.1]
    exact ih answer (conforms.2 answer)

end Conforms

end Program

end StateMetrics
