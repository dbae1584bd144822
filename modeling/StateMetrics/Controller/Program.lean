import StateMetrics.Controller.Metrics
import StateMetrics.Error
import StateMetrics.Instance.Basic

/-!
# Programs of the controller

What the controller does is written as a program: a value, or a request with a continuation for each
answer to it. Requests go to the cluster, questions to the controller's own state. A program says
nothing about who answers, so one and the same program runs against any stores, one request at a
time, with anything else happening in between.
-/

namespace StateMetrics

/-- How urgent an event is. -/
inductive EventKind where
  | normal
  | warning
  deriving DecidableEq, Repr, Inhabited

/-- The word for the kind of an event. -/
def EventKind.text : EventKind → String
  | normal => "Normal"
  | warning => "Warning"

/-- A message about an instance. -/
structure Event where
  kind : EventKind
  reason : String
  message : String
  deriving DecidableEq, Repr, Inhabited

/-- A request to the cluster. -/
inductive Request where
  | getInstance (namespaceName name : String)
  /-- Writes the finalizers of an instance. -/
  | updateInstance (given : Instance)
  /-- Writes the status of an instance. -/
  | updateStatus (given : Instance)
  | getDocument (target : Target)
  | createDocument (given : ConfigMap)
  | updateDocument (given : ConfigMap)
  /-- Asks for the labels of a namespace. -/
  | namespaceLabels (name : String)
  /-- Tells an event about an instance; nobody waits for it. -/
  | record (about : Instance) (event : Event)

/-- What a request is answered with. -/
def Request.Answer : Request → Type
  | getInstance .. => Result (Option Instance)
  | updateInstance _ => Result Instance
  | updateStatus _ => Result Instance
  | getDocument _ => Result (Option ConfigMap)
  | createDocument _ => Result ConfigMap
  | updateDocument _ => Result ConfigMap
  | namespaceLabels _ => Result (Option TextMap)
  | record .. => Unit

/-- A question to the controller's own state. -/
inductive Question where
  /-- What moment it is. -/
  | now
  /-- Which version of the instance of this key was reconciled last. -/
  | lastSeen (key : String)
  /-- This version of an instance was reconciled. -/
  | remember (version : Instance)
  /-- No version of the instance of this key was reconciled. -/
  | forget (key : String)
  | count (tally : Tally)
  /-- A reconciliation begins. -/
  | noteActivity

/-- What a question is answered with. -/
def Question.Answer : Question → Type
  | now => Moment
  | lastSeen _ => Option Instance
  | remember _ => Unit
  | forget _ => Unit
  | count _ => Unit
  | noteActivity => Unit

/-- A program that ends with a value. -/
inductive Program (α : Type) where
  | done (value : α)
  | request (r : Request) (next : r.Answer → Program α)
  | ask (q : Question) (next : q.Answer → Program α)

namespace Program

/-- Runs a program and then the one that its value gives. -/
def bind {α β : Type} : Program α → (α → Program β) → Program β
  | done value, next => next value
  | request r continue?, next => request r fun answer => (continue? answer).bind next
  | ask q continue?, next => ask q fun answer => (continue? answer).bind next

instance : Monad Program where
  pure := done
  bind := bind

/-- The program that makes one request. -/
def send (r : Request) : Program r.Answer := request r done

/-- The program that asks one question. -/
def inquire (q : Question) : Program q.Answer := ask q done

/-! ## Laws -/

@[simp] theorem pure_eq_done {α : Type} (value : α) : (pure value : Program α) = done value := rfl

@[simp] theorem done_bind {α β : Type} (value : α) (next : α → Program β) :
    (done value >>= next) = next value := rfl

@[simp] theorem request_bind {α β : Type} (r : Request) (rest : r.Answer → Program α)
    (next : α → Program β) :
    (request r rest >>= next) = request r fun answer => rest answer >>= next := rfl

@[simp] theorem ask_bind {α β : Type} (q : Question) (rest : q.Answer → Program α)
    (next : α → Program β) : (ask q rest >>= next) = ask q fun answer => rest answer >>= next := rfl

end Program

end StateMetrics
