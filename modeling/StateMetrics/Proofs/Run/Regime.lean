import StateMetrics.Proofs.Run.Conduct
import StateMetrics.Proofs.Run.World

/-!
# Regimes

A protocol ties the attempts to the stores one by one. A regime is about the notes of all attempts at
once, about the controller's own state, and about what attempts end with. It says what holds of all
these and what every kind of step does to it; `Regime.governs` is the run of it. A protocol whose
attempts ask as they should is a regime (`Protocol.regime`).
-/

namespace StateMetrics

namespace World

variable {κ γ α : Type}

/-- Every attempt under way will go on as its note says. The note of an attempt that is not under way
is the one that it begins with. -/
structure Follows (conduct : κ → Conduct γ) (Ends : κ → γ → α → Prop) (start : κ → γ) (notes : κ → γ)
    (w : World κ α) : Prop where
  idle {a} : w.running a = none → notes a = start a
  conforms {a p} : w.running a = some p → p.Conforms (conduct a) (Ends a) (notes a)

/-- One attempt goes on under another note, all others stay where they are. -/
theorem Follows.proceed [DecidableEq κ] {conduct : κ → Conduct γ} {Ends : κ → γ → α → Prop}
    {start notes : κ → γ} {w w' : World κ α} (follows : w.Follows conduct Ends start notes) {a : κ}
    {p : Option (Program α)} {g : γ} (moved : w'.running = (w.proceed a p).running)
    (idle : p = none → g = start a)
    (conforms : ∀ q, p = some q → q.Conforms (conduct a) (Ends a) g) :
    w'.Follows conduct Ends start (Function.update notes a g) := by
  have note : ∀ b, b ≠ a → Function.update notes a g b = notes b := fun b other =>
    Function.update_of_ne other ..
  have point : ∀ b, b ≠ a → w'.running b = w.running b := fun b other =>
    moved ▸ World.proceed_running_of_ne other w p
  refine ⟨fun {b} atRest => ?_, fun {b q} atPoint => ?_⟩
  · by_cases same : b = a
    · subst same
      rw [moved, World.proceed_running_self] at atRest
      rw [Function.update_self]
      exact idle atRest
    · rw [note b same]
      exact follows.idle (point b same ▸ atRest)
  · by_cases same : b = a
    · subst same
      rw [moved, World.proceed_running_self] at atPoint
      rw [Function.update_self]
      exact conforms q atPoint
    · rw [note b same]
      exact follows.conforms (point b same ▸ atPoint)

end World

/-- What holds of the notes of all attempts, and why no step breaks it. The note of an attempt that is
not under way is the one that it begins with. -/
structure Regime (κ γ α : Type) [DecidableEq κ] (others : Stores → Stores → Prop) where
  start : κ → γ
  conduct : κ → Conduct γ
  Ends : κ → γ → α → Prop
  Holds : (κ → γ) → Stores → ControllerState → List (Occurrence κ) → Prop
  ended {notes s own log a value} : Holds notes s own log → Ends a (notes a) value →
    Holds (Function.update notes a (start a)) s own log
  asked {notes s own log a q} : Holds notes s own log → (conduct a).allows (notes a) q →
    Holds (Function.update notes a ((conduct a).told (notes a) q (own.answer q).1)) s
      (own.answer q).2 log
  answered {notes s s' own log a r} {answer : r.Answer} : Holds notes s own log →
    (conduct a).permits (notes a) r → s.Serves r answer s' →
    Holds (Function.update notes a ((conduct a).after (notes a) r answer)) s' own
      (log ++ [⟨a, r, answer⟩])
  interfered {notes s s' own log} : Holds notes s own log → others s s' → Holds notes s' own log
  elapsed {notes s own log} (clock : Moment) : Holds notes s own log →
    Holds notes s { own with clock } log

namespace Regime

variable {κ γ α : Type} [DecidableEq κ] {others : Stores → Stores → Prop}
  {starts : κ → Program α → Prop}

/-- The notes are those of the attempts under way. -/
structure Governs (R : Regime κ γ α others) (notes : κ → γ) (w : World κ α) : Prop where
  holds : R.Holds notes w.stores w.own w.log
  idle {a} : w.running a = none → notes a = R.start a
  conforms {a p} : w.running a = some p → p.Conforms (R.conduct a) (R.Ends a) (notes a)

variable {R : Regime κ γ α others} {notes : κ → γ} {w w' : World κ α}

/-- One attempt goes on under another note, all others stay where they are. -/
theorem Governs.proceed (governs : R.Governs notes w) {a : κ} {p : Option (Program α)} {g : γ}
    (moved : w'.running = (w.proceed a p).running)
    (holds : R.Holds (Function.update notes a g) w'.stores w'.own w'.log)
    (idle : p = none → g = R.start a)
    (conforms : ∀ q, p = some q → q.Conforms (R.conduct a) (R.Ends a) g) :
    R.Governs (Function.update notes a g) w' := by
  have follows : w.Follows R.conduct R.Ends R.start notes := ⟨governs.idle, governs.conforms⟩
  have follows := follows.proceed moved idle conforms
  exact ⟨holds, follows.idle, follows.conforms⟩

/-- Whatever happens next, there are notes for the attempts then under way. -/
theorem Governs.step (governs : R.Governs notes w)
    (begins : ∀ a p, starts a p → p.Conforms (R.conduct a) (R.Ends a) (R.start a))
    (step : World.Step starts others w w') : ∃ notes', R.Governs notes' w' := by
  cases step with
  | begun a p free start =>
    refine ⟨_, governs.proceed (a := a) (g := notes a) rfl ?_ (fun never => nomatch never) ?_⟩
    · rw [Function.update_eq_self]
      exact governs.holds
    · intro q now
      cases now
      rw [governs.idle free]
      exact begins a p start
  | ended a value atEnd =>
    have ends : R.Ends a (notes a) value := governs.conforms atEnd
    exact ⟨_, governs.proceed rfl (R.ended governs.holds ends) (fun _ => rfl) fun q now => nomatch now⟩
  | asked a q next atQuestion =>
    obtain ⟨allowed, rest⟩ := governs.conforms atQuestion
    refine ⟨_, governs.proceed rfl (R.asked governs.holds allowed) (fun never => nomatch never) ?_⟩
    intro p now
    cases now
    exact rest _
  | answered a r answer answers =>
    obtain ⟨next, stores, atRequest, serves⟩ := answers
    obtain ⟨permitted, rest⟩ := governs.conforms atRequest
    refine ⟨_, governs.proceed rfl (R.answered governs.holds permitted serves)
      (fun never => nomatch never) ?_⟩
    intro p now
    cases now
    exact rest answer
  | interfered stores other =>
    exact ⟨notes, R.interfered governs.holds other, governs.idle, governs.conforms⟩
  | elapsed clock => exact ⟨notes, R.elapsed clock governs.holds, governs.idle, governs.conforms⟩

/-- Every world that is reached has its notes. -/
theorem governs {w₀ : World κ α} (idle : w₀.Idle) (holds : R.Holds R.start w₀.stores w₀.own [])
    (begins : ∀ a p, starts a p → p.Conforms (R.conduct a) (R.Ends a) (R.start a))
    (run : World.Reaches starts others w₀ w) : ∃ notes, R.Governs notes w := by
  induction run with
  | refl =>
    refine ⟨R.start, idle.log ▸ holds, fun _ => rfl, fun {a p} atPoint => ?_⟩
    rw [idle.running a] at atPoint
    cases atPoint
  | tail _ step ih =>
    obtain ⟨notes, governs⟩ := ih
    exact governs.step begins step

end Regime

/-- A protocol with attempts that ask only what does not loosen their ties. -/
def Protocol.regime {κ γ α : Type} [DecidableEq κ] {others : Stores → Stores → Prop}
    (P : Protocol κ γ others) (conduct : κ → Conduct γ) (Ends : κ → γ → α → Prop)
    (same : ∀ a, (conduct a).toDiscipline = P.discipline a)
    (told : ∀ {a g q answer s log}, P.Tie a g s log → (conduct a).allows g q →
      P.Tie a ((conduct a).told g q answer) s log) : Regime κ γ α others where
  start := P.start
  conduct := conduct
  Ends := Ends
  Holds notes s _ log := P.Safe s log ∧ ∀ a, P.Tie a (notes a) s log
  ended := by
    rintro notes s own log a value ⟨safe, ties⟩ -
    refine ⟨safe, (Function.forall_update_iff notes fun b g => P.Tie b g s log).2 ?_⟩
    exact ⟨P.tie_start safe, fun b _ => ties b⟩
  asked := by
    rintro notes s own log a q ⟨safe, ties⟩ allowed
    refine ⟨safe, (Function.forall_update_iff notes fun b g => P.Tie b g s log).2 ?_⟩
    exact ⟨told (ties a) allowed, fun b _ => ties b⟩
  answered := by
    rintro notes s s' own log a r answer ⟨safe, ties⟩ permitted serves
    rw [same a] at permitted ⊢
    obtain ⟨safe', own', others'⟩ := P.answered safe (ties a) permitted serves
    refine ⟨safe', (Function.forall_update_iff notes fun b g => P.Tie b g s' _).2 ?_⟩
    exact ⟨own', fun b other => others' b (notes b) other (ties b)⟩
  interfered := by
    rintro notes s s' own log ⟨safe, ties⟩ other
    obtain ⟨safe', ties'⟩ := P.interfered safe other
    exact ⟨safe', fun a => ties' a (notes a) (ties a)⟩
  elapsed _ holds := holds

end StateMetrics
