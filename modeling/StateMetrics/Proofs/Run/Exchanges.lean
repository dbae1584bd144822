import StateMetrics.Controller.State
import StateMetrics.Proofs.Run.Conduct

/-!
# All exchanges of a program

What a program did is told by its exchanges: every request and every question of it, in order, each
with the answer to it. `ComesTo` says how far given answers take a program, whoever gives them and
whatever happens in between; such runs are put together where programs are (`ComesTo.bind`) and come
apart there (`comesTo_done_bind_iff`). What can be required of an exchange in view of those before it is
required by a conduct whose note is the record of them all (`onRecord`).
-/

namespace StateMetrics

/-- A request or a question of a program, with the answer to it. -/
inductive Exchange where
  | answered (r : Request) (answer : r.Answer)
  | told (q : Question) (answer : q.Answer)

/-- All that is around a program: how it answers requests and questions, and what becomes of it. -/
structure Surroundings (σ : Type) where
  reply : Handler σ
  tell : (q : Question) → σ → q.Answer × σ

/-- Nobody but the program is about: stores of some kind answer its requests, and its own state the
questions. -/
def Surroundings.alone {σ : Type} (handle : Handler σ) : Surroundings (σ × ControllerState) where
  reply r s :=
    let (answer, stores) := handle r s.1
    (answer, stores, s.2)
  tell q s :=
    let (answer, own) := s.2.answer q
    (answer, s.1, own)

namespace Program

variable {α β σ : Type}

/-- The answers in these exchanges take the program as far as to the rest of it. -/
inductive ComesTo : Program α → List Exchange → Program α → Prop
  | here (p : Program α) : ComesTo p [] p
  | answered (r : Request) (next : r.Answer → Program α) (answer : r.Answer)
      {exchanges : List Exchange} {q : Program α} :
    ComesTo (next answer) exchanges q →
    ComesTo (.request r next) (.answered r answer :: exchanges) q
  | told (question : Question) (next : question.Answer → Program α) (answer : question.Answer)
      {exchanges : List Exchange} {q : Program α} :
    ComesTo (next answer) exchanges q →
    ComesTo (.ask question next) (.told question answer :: exchanges) q

/-- Runs a program amid its surroundings: its exchanges, the value that it ends with, and what has
become of the surroundings. -/
def amid (around : Surroundings σ) : Program α → σ → List Exchange × α × σ
  | .done value, s => ([], value, s)
  | .request r next, s =>
    let (answer, s) := around.reply r s
    let (exchanges, ended) := (next answer).amid around s
    (.answered r answer :: exchanges, ended)
  | .ask q next, s =>
    let (answer, s) := around.tell q s
    let (exchanges, ended) := (next answer).amid around s
    (.told q answer :: exchanges, ended)

/-- Amid any surroundings a program comes to its end. -/
theorem comesTo_amid (around : Surroundings σ) (p : Program α) (s : σ) :
    p.ComesTo (p.amid around s).1 (.done (p.amid around s).2.1) := by
  induction p generalizing s with
  | done value => exact .here _
  | request r next ih => exact .answered r next _ (ih _ _)
  | ask q next ih => exact .told q next _ (ih _ _)

namespace ComesTo

variable {p q : Program α} {first rest : List Exchange} {value : α}

/-- From the end of a program there is nowhere to go. -/
theorem of_done (comes : (done value).ComesTo rest q) : rest = [] ∧ q = done value := by
  cases comes
  exact ⟨rfl, rfl⟩

/-- A program that begins with a request ends behind the answer to it. -/
theorem head?_of_request {r : Request} {next : r.Answer → Program α}
    (comes : (request r next).ComesTo first (.done value)) :
    ∃ answer, first.head? = some (.answered r answer) := by
  cases comes with
  | answered _ _ answer => exact ⟨answer, rfl⟩

/-- The exchanges of two programs in turn are those of the first and then those of the second. -/
theorem bind {next : α → Program β} {b : Program β} (comes : p.ComesTo first (.done value))
    (goes : (next value).ComesTo rest b) : (p >>= next).ComesTo (first ++ rest) b := by
  induction p generalizing first with
  | done start =>
    obtain ⟨rfl, same⟩ := of_done comes
    cases same
    exact goes
  | request r more ih =>
    cases comes with
    | answered _ _ answer comes => exact .answered r _ answer (ih answer comes)
  | ask question more ih =>
    cases comes with
    | told _ _ answer comes => exact .told question _ answer (ih answer comes)

/-- A run to the end goes through the end of the first part. -/
theorem exists_of_bind {next : α → Program β} {exchanges : List Exchange} {result : β}
    (comes : (p >>= next).ComesTo exchanges (.done result)) :
    ∃ first value rest, exchanges = first ++ rest ∧ p.ComesTo first (.done value) ∧
      (next value).ComesTo rest (.done result) := by
  induction p generalizing exchanges with
  | done value => exact ⟨[], value, exchanges, rfl, .here _, comes⟩
  | request r more ih =>
    cases comes with
    | answered _ _ answer comes =>
      obtain ⟨first, value, rest, rfl, comes, goes⟩ := ih answer comes
      exact ⟨_ :: first, value, rest, rfl, .answered r more answer comes, goes⟩
  | ask question more ih =>
    cases comes with
    | told _ _ answer comes =>
      obtain ⟨first, value, rest, rfl, comes, goes⟩ := ih answer comes
      exact ⟨_ :: first, value, rest, rfl, .told question more answer comes, goes⟩

end ComesTo

/-- The runs of two programs, one behind the other, to the end. -/
theorem comesTo_done_bind_iff {p : Program α} {next : α → Program β} {exchanges : List Exchange}
    {result : β} :
    (p >>= next).ComesTo exchanges (.done result) ↔
      ∃ first value rest, exchanges = first ++ rest ∧ p.ComesTo first (.done value) ∧
        (next value).ComesTo rest (.done result) := by
  refine ⟨ComesTo.exists_of_bind, ?_⟩
  rintro ⟨first, value, rest, rfl, comes, goes⟩
  exact comes.bind goes

/-- A program that is answered the same comes to one end only, and at one point. -/
theorem ComesTo.done_unique {p : Program α} {first first' rest rest' : List Exchange}
    {value value' : α} (comes : p.ComesTo first (.done value))
    (comes' : p.ComesTo first' (.done value')) (same : first ++ rest = first' ++ rest') :
    first = first' ∧ value = value' ∧ rest = rest' := by
  induction p generalizing first first' with
  | done start =>
    obtain ⟨rfl, ended⟩ := of_done comes
    obtain ⟨rfl, ended'⟩ := of_done comes'
    cases ended
    cases ended'
    exact ⟨rfl, rfl, same⟩
  | request r next ih =>
    cases comes with
    | answered _ _ answer comes =>
      cases comes' with
      | answered _ _ answer' comes' =>
        obtain ⟨answered, behind⟩ := List.cons.inj same
        cases answered
        obtain ⟨rfl, rest⟩ := ih answer comes comes' behind
        exact ⟨rfl, rest⟩
  | ask question next ih =>
    cases comes with
    | told _ _ answer comes =>
      cases comes' with
      | told _ _ answer' comes' =>
        obtain ⟨told, behind⟩ := List.cons.inj same
        cases told
        obtain ⟨rfl, rest⟩ := ih answer comes comes' behind
        exact ⟨rfl, rest⟩

end Program

/-! ## Conducts that go by the record -/

/-- Every exchange is kept as those before it require, whatever the answer is. -/
def Conduct.onRecord (Keeps : List Exchange → Exchange → Prop) : Conduct (List Exchange) where
  permits before r := ∀ answer, Keeps before (.answered r answer)
  after before r answer := before ++ [.answered r answer]
  allows before q := ∀ answer, Keeps before (.told q answer)
  told before q answer := before ++ [.told q answer]

namespace Program.Conforms

variable {α : Type} {Keeps : List Exchange → Exchange → Prop} {post : List Exchange → α → Prop}
  {p q : Program α} {before : List Exchange}

/-- The record only grows. -/
theorem grown (conforms : p.Conforms (.onRecord Keeps) post before) :
    p.Conforms (.onRecord Keeps) (fun record value => before <+: record ∧ post record value)
      before := by
  induction p generalizing before with
  | done value => exact ⟨List.prefix_rfl, conforms⟩
  | request r next ih =>
    exact ⟨conforms.1, fun answer => (ih answer (conforms.2 answer)).mono fun _ _ held =>
      ⟨(List.prefix_append ..).trans held.1, held.2⟩⟩
  | ask question next ih =>
    exact ⟨conforms.1, fun answer => (ih answer (conforms.2 answer)).mono fun _ _ held =>
      ⟨(List.prefix_append ..).trans held.1, held.2⟩⟩

/-- Wherever a program has come to, each of its exchanges was as those before it required. -/
theorem keeps (conforms : p.Conforms (.onRecord Keeps) post before) {exchanges : List Exchange}
    (comes : p.ComesTo exchanges q) {front back : List Exchange} {e : Exchange}
    (split : exchanges = front ++ e :: back) : Keeps (before ++ front) e := by
  induction comes generalizing before front with
  | here => simp at split
  | answered r next answer comes ih =>
    rcases List.cons_eq_append_iff.1 split with ⟨rfl, same⟩ | ⟨front, rfl, rest⟩
    · cases same
      rw [List.append_nil]
      exact conforms.1 answer
    · rw [List.append_cons]
      exact ih (conforms.2 answer) rest
  | told question next answer comes ih =>
    rcases List.cons_eq_append_iff.1 split with ⟨rfl, same⟩ | ⟨front, rfl, rest⟩
    · cases same
      rw [List.append_nil]
      exact conforms.1 answer
    · rw [List.append_cons]
      exact ih (conforms.2 answer) rest

end Program.Conforms

end StateMetrics
