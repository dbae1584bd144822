import StateMetrics.Proofs.Run.Conduct
import StateMetrics.Proofs.Run.Execution

/-!
# Programs that run alone

A program that runs against stores of any kind, with nobody else about: its answers are the requests
that it made, each with what it was answered. What one answer and one question keep, the run of a
program keeps that conforms (`Conforms.run`); at its end the note stands for the answers.
-/

namespace StateMetrics

namespace Program

variable {α β γ σ : Type} {handle : Handler σ}

/-- The requests of a program, with the answers to them. -/
def answers (handle : Handler σ) (p : Program α) (s : σ) (own : ControllerState) :
    List (Σ r : Request, r.Answer) :=
  p.answersUntil (fun _ => false) handle s own

@[simp] theorem answers_done (value : α) (s : σ) (own : ControllerState) :
    (done value).answers handle s own = [] := rfl

@[simp] theorem answers_request (r : Request) (next : r.Answer → Program α) (s : σ)
    (own : ControllerState) : (request r next).answers handle s own =
      ⟨r, (handle r s).1⟩ :: (next (handle r s).1).answers handle (handle r s).2 own := rfl

@[simp] theorem answers_ask (q : Question) (next : q.Answer → Program α) (s : σ)
    (own : ControllerState) : (ask q next).answers handle s own =
      (next (own.answer q).1).answers handle s (own.answer q).2 := rfl

@[simp] theorem run_done (value : α) (s : σ) (own : ControllerState) :
    (done value).run handle s own = (value, s, own) := rfl

@[simp] theorem run_request (r : Request) (next : r.Answer → Program α) (s : σ)
    (own : ControllerState) : (request r next).run handle s own =
      (next (handle r s).1).run handle (handle r s).2 own := rfl

@[simp] theorem run_ask (q : Question) (next : q.Answer → Program α) (s : σ)
    (own : ControllerState) : (ask q next).run handle s own =
      (next (own.answer q).1).run handle s (own.answer q).2 := rfl

/-- The second program runs on what the first leaves. -/
theorem run_bind (p : Program α) (next : α → Program β) (s : σ) (own : ControllerState) :
    (p >>= next).run handle s own =
      (next (p.run handle s own).1).run handle (p.run handle s own).2.1
        (p.run handle s own).2.2 := by
  induction p generalizing s own with
  | done value => rfl
  | request r rest ih => exact ih _ _ _
  | ask q rest ih => exact ih _ _ _

/-- The answers to two programs in turn are those to the first and then those to the second. -/
theorem answers_bind (p : Program α) (next : α → Program β) (s : σ) (own : ControllerState) :
    (p >>= next).answers handle s own =
      p.answers handle s own ++
        (next (p.run handle s own).1).answers handle (p.run handle s own).2.1
          (p.run handle s own).2.2 := by
  induction p generalizing s own with
  | done value => rfl
  | request r rest ih => exact congrArg (List.cons _) (ih _ _ _)
  | ask q rest ih => exact ih _ _ _

/-- What every answer and every question keeps holds at the end of the run, with the note there. -/
theorem Conforms.run {C : Conduct γ} {post : γ → α → Prop} {p : Program α} {g : γ} {s : σ}
    {own : ControllerState}
    (Holds : List (Σ r : Request, r.Answer) → γ → σ → ControllerState → Prop)
    (answered : ∀ {log g s own r}, Holds log g s own → C.permits g r →
      Holds (log ++ [⟨r, (handle r s).1⟩]) (C.after g r (handle r s).1) (handle r s).2 own)
    (asked : ∀ {log g s own q}, Holds log g s own → C.allows g q →
      Holds log (C.told g q (own.answer q).1) s (own.answer q).2)
    (conforms : p.Conforms C post g) (log : List (Σ r : Request, r.Answer))
    (holds : Holds log g s own) :
    ∃ g', Holds (log ++ p.answers handle s own) g' (p.run handle s own).2.1
        (p.run handle s own).2.2 ∧ post g' (p.run handle s own).1 := by
  induction p generalizing log g s own with
  | done value =>
    rw [answers_done, List.append_nil]
    exact ⟨g, holds, conforms⟩
  | request r next ih =>
    obtain ⟨g', holds', ends⟩ := ih _ (conforms.2 _) _ (answered holds conforms.1)
    rw [List.append_assoc] at holds'
    exact ⟨g', holds', ends⟩
  | ask q next ih => exact ih _ (conforms.2 _) _ (asked holds conforms.1)

end Program

end StateMetrics
