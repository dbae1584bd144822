import StateMetrics.Proofs.Reconcile.Course

/-!
# What an attempt accounts for

The account of an attempt is what failed in it, whom it warned about and which version it holds. The
conduct forbids nothing but to read an instance and to ask what is asked around attempts; what counts
is the end. An attempt that succeeds had no failure, and its instance says so; an attempt that hands an
error back either could not write a status, or it told of a failure of its document or its finalizer
and hands back that one, unless telling of it failed as well (`Account.Blames`).
-/

namespace StateMetrics

namespace Request

/-- Why a request for the document failed, or the write of the finalizer. -/
def cause? : (r : Request) → r.Answer → Option Error
  | .getDocument _, .error e => some e
  | .createDocument _, .error e => some e
  | .updateDocument _, .error e => some e
  | .updateInstance _, .error e => some e
  | _, _ => none

/-- Why a write of the status failed. -/
def unreported? : (r : Request) → r.Answer → Option Error
  | .updateStatus _, .error e => some e
  | _, _ => none

/-- The instance that a request warns about, by its key. -/
def warned? : Request → Option String
  | .record about event => if event.kind = .warning then some about.key else none
  | _ => none

/-- The version that a request has stored. -/
def saved? : (r : Request) → r.Answer → Option Instance
  | .updateStatus _, .ok saved => some saved
  | .updateInstance _, .ok saved => some saved
  | _, _ => none

/-- A status that was written is that of the instance of the given name. -/
def keepsName : (r : Request) → r.Answer → Bool
  | .updateStatus given, .ok saved => saved.key = given.key
  | _, _ => true

/-- A version that was written has the status that it was given. -/
def keepsStatus : (r : Request) → r.Answer → Bool
  | .updateStatus given, .ok saved => saved.status = given.status
  | .updateInstance given, .ok saved => saved.status = given.status
  | _, _ => true

end Request

/-- The question is asked around attempts and not by them: it is about the versions reconciled
before, or it tells that a run begins. -/
def Question.frames : Question → Bool
  | lastSeen _ => true
  | remember _ => true
  | forget _ => true
  | count .runStarted => true
  | _ => false

/-- What the condition `Ready` of the instance says, and why. -/
def Instance.readiness (i : Instance) : Option (Bool × Reason) :=
  i.ready?.map fun c => (c.status, c.reason)

/-- The account of an attempt. -/
structure Account where
  /-- The version last found or written. -/
  hand : Instance
  /-- The failures of requests for the document and of the finalizer's write. -/
  causes : List Error := []
  /-- The failures of writes of the status. -/
  unreported : List Error := []
  /-- The keys of the instances that were warned about. -/
  warned : List String := []
  /-- Every status was written under the name that it was given under. -/
  named : Bool := true
  /-- Every version that was written has the status that it was given. -/
  kept : Bool := true

namespace Account

/-- The account after one more answer. -/
def after (a : Account) (r : Request) (answer : r.Answer) : Account where
  hand := (r.saved? answer).getD a.hand
  causes := a.causes ++ (r.cause? answer).toList
  unreported := a.unreported ++ (r.unreported? answer).toList
  warned := a.warned ++ r.warned?.toList
  named := a.named && r.keepsName answer
  kept := a.kept && r.keepsStatus answer

/-- Why an attempt at an instance hands an error back. -/
inductive Blames (i : Instance) (a : Account) (handed : Error) : Prop
  /-- A status could not be written that was to tell of no failure. -/
  | status : a.causes = [] → a.unreported = [handed] → a.warned = [] → Blames i a handed
  /-- The document or the finalizer failed. The cause is what is handed back, or why the status that
  was to tell of it could not be written. -/
  | cause (cause : Error) : a.causes = [cause] →
    a.unreported = [] ∧ handed = cause ∨ a.unreported = [handed] →
    (a.named = true → i.key ∈ a.warned) → Blames i a handed

/-- What an attempt at an instance ends with: a success only if nothing failed, and then the instance
in hand says what was done. -/
def Ends {α : Type} (i : Instance) (ready : Bool × Reason) (a : Account) : Result α → Prop
  | .ok _ => a.causes = [] ∧ a.unreported = [] ∧ (a.kept = true → a.hand.readiness = some ready)
  | .error handed => a.Blames i handed

end Account

/-- An attempt at an instance reads no instance and asks nothing that is asked around attempts. -/
def accountConduct : Conduct Account where
  permits
    | _, .getInstance .. => False
    | _, _ => True
  after := Account.after
  allows _ q := q.frames = false
  told a _ _ := a

/-! ## The condition that is set -/

namespace Instance

/-- There is only one kind of condition, so the condition that is put is the first. -/
theorem find?_putCondition (condition : Condition) (conditions : List Condition) :
    (putCondition condition conditions).find? (·.kind = .ready) = some condition := by
  have sort : ∀ kind : ConditionKind, kind = .ready := fun kind => by cases kind; rfl
  cases conditions with
  | nil => simp [putCondition]
  | cons c rest => simp [putCondition, sort c.kind, sort condition.kind]

theorem ready?_eq_find? (i : Instance) :
    i.ready? = (i.status.getD {}).conditions.find? (·.kind = .ready) := by
  rw [ready?]
  cases i.status <;> rfl

/-- The condition about readiness states this, of the generation that the instance has now. -/
def States (i : Instance) (status : Bool) (reason : Reason) (message : String) : Prop :=
  ∃ condition, i.ready? = some condition ∧
    ∀ moment, condition.sameState (i.readyCondition moment status reason message) = true

section States

variable {i j : Instance} {status : Bool} {reason : Reason} {message : String}

/-- What the condition states is its readiness. -/
theorem States.readiness_eq (states : i.States status reason message) :
    i.readiness = some (status, reason) := by
  obtain ⟨condition, ready, same⟩ := states
  have speaks : condition.status = status ∧ condition.reason = reason := by
    have same := same default
    simp only [Condition.sameState, Bool.and_eq_true] at same
    exact ⟨of_decide_eq_true same.1.1.1.2, of_decide_eq_true same.1.1.2⟩
  rw [readiness, ready, ← speaks.1, ← speaks.2]
  rfl

theorem States.congr (states : i.States status reason message) (same : j.status = i.status)
    (generation : j.metadata.generation = i.metadata.generation) :
    j.States status reason message := by
  obtain ⟨condition, ready, alike⟩ := states
  refine ⟨condition, ?_, fun moment => ?_⟩
  · rw [ready?, same]
    exact ready
  · rw [readyCondition, generation]
    exact alike moment

/-- A condition that is put states what it says. -/
theorem states_putCondition {condition : Condition} (conditions : List Condition)
    (alike : ∀ moment,
      condition.sameState (i.readyCondition moment status reason message) = true) :
    States { i with status := some ⟨putCondition condition conditions⟩ } status reason message :=
  ⟨condition, find?_putCondition condition conditions, alike⟩

/-- The condition that is set, or was set already, says what it is to say. -/
theorem states_setReady (i : Instance) (moment : Moment) (status : Bool) (reason : Reason)
    (message : String) : (i.setReady moment status reason message).1.States status reason message := by
  have alike (last : Option Moment) (moment' : Moment) :
      ({ i.readyCondition moment status reason message with lastTransition := last }).sameState
        (i.readyCondition moment' status reason message) = true := by
    simp [Condition.sameState, readyCondition]
  have ready := i.ready?_eq_find?
  rw [setReady]
  cases current : (i.status.getD {}).conditions.find? (·.kind = .ready) with
  | none => exact states_putCondition _ (alike _)
  | some c =>
    by_cases same : c.sameState (i.readyCondition moment status reason message) = true
    · simp only [same, if_true]
      exact ⟨c, ready.trans current, fun _ => same⟩
    · simp only [same]
      refine states_putCondition _ ?_
      split
      · exact alike _
      · exact alike _

/-- What is stated already is not set again. -/
theorem States.setReady_eq (states : i.States status reason message) (moment : Moment) :
    i.setReady moment status reason message = (i, false) := by
  obtain ⟨condition, ready, same⟩ := states
  rw [ready?_eq_find?] at ready
  rw [setReady, ready]
  exact if_pos (same moment)

end States

/-- The condition that is set, or was set already, has the status and the reason that it is to have. -/
theorem setReady_readiness (i : Instance) (moment : Moment) (status : Bool) (reason : Reason)
    (message : String) :
    (i.setReady moment status reason message).1.readiness = some (status, reason) :=
  (i.states_setReady moment status reason message).readiness_eq

/-- A condition that says nothing new is not set. -/
theorem eq_of_setReady {i given : Instance} {moment : Moment} {status : Bool} {reason : Reason}
    {message : String} (set : i.setReady moment status reason message = (given, false)) :
    given = i := by
  rw [setReady] at set
  split at set
  · dsimp only at set
    split at set <;> cases set
    rfl
  · cases set

theorem setReady_metadata (i : Instance) (moment : Moment) (status : Bool) (reason : Reason)
    (message : String) : (i.setReady moment status reason message).1.metadata = i.metadata := by
  rw [setReady]
  split
  · dsimp only
    split <;> rfl
  · rfl

theorem setReady_key (i : Instance) (moment : Moment) (status : Bool) (reason : Reason)
    (message : String) : (i.setReady moment status reason message).1.key = i.key := by
  rw [key, key, setReady_metadata]

end Instance

/-! ## The account of an attempt -/

namespace Account

open Program

variable {a a' : Account} {i j : Instance} {ready : Bool × Reason}

/-- Nothing failed so far. -/
structure Clean (i : Instance) (a : Account) : Prop where
  causes : a.causes = []
  unreported : a.unreported = []
  warned : a.warned = []
  named : a.named = true → a.hand.key = i.key

/-- The document or the finalizer failed with this instance in hand, and nobody was told so far. -/
structure Failed (i hand : Instance) (a : Account) (cause : Error) : Prop where
  causes : a.causes = [cause]
  unreported : a.unreported = []
  named : a.named = true → hand.key = i.key

theorem clean_initial (i : Instance) : Clean i { hand := i } := ⟨rfl, rfl, rfl, fun _ => rfl⟩

theorem after_eq_self {r : Request} {answer : r.Answer} (saved : r.saved? answer = none)
    (cause : r.cause? answer = none) (unreported : r.unreported? answer = none)
    (warned : r.warned? = none) (name : r.keepsName answer = true)
    (status : r.keepsStatus answer = true) : a.after r answer = a := by
  simp [after, saved, cause, unreported, warned, name, status]

theorem tell_conforms (reason : Reason) (message : String) :
    (j.tell reason message).Conforms accountConduct (fun a' _ => a' = a) a :=
  Conforms.send trivial fun _ => after_eq_self rfl rfl rfl rfl rfl rfl

theorem warn_conforms (reason : Reason) (message : String) :
    (j.warn reason message).Conforms accountConduct
      (fun a' _ => a' = { a with warned := a.warned ++ [j.key] }) a :=
  Conforms.send trivial fun _ => by
    simp [accountConduct, after, Request.saved?, Request.cause?, Request.unreported?,
      Request.warned?, Request.keepsName, Request.keepsStatus]

theorem inquire_conforms {q : Question} (quiet : q.frames = false) :
    (Program.inquire q).Conforms accountConduct (fun a' _ => a' = a) a :=
  Conforms.inquire quiet fun _ => rfl

/-- The account after the status was written, if it had to be. -/
structure Written (a : Account) (j : Instance) (ready : Bool × Reason) (saved : Instance)
    (a' : Account) : Prop where
  causes : a'.causes = a.causes
  unreported : a'.unreported = a.unreported
  warned : a'.warned = a.warned
  hand : j = a.hand → a'.hand = saved
  named : a'.named = true → a.named = true ∧ saved.key = j.key
  kept : a'.kept = true → saved.readiness = some ready

/-- A write of the condition fails, which goes into the account, or leaves in hand what says so. -/
theorem writeReady_conforms (status : Bool) (reason : Reason) (message : String) :
    (j.writeReady status reason message).Conforms accountConduct
      (fun a' result =>
        (∃ e, result = .error e ∧ a' = { a with unreported := a.unreported ++ [e] }) ∨
        ∃ saved, result = .ok saved ∧ a.Written j (status, reason) saved a') a := by
  refine (inquire_conforms rfl).bind ?_
  rintro a (moment : Moment) rfl
  have speaks := j.setReady_readiness moment status reason message
  have name := j.setReady_key moment status reason message
  generalize set : j.setReady moment status reason message = given at speaks name ⊢
  rcases given with ⟨given, _ | _⟩
  · obtain rfl := Instance.eq_of_setReady set
    exact .inr ⟨given, rfl, rfl, rfl, rfl, fun here => here.symm, fun named => ⟨named, rfl⟩,
      fun _ => speaks⟩
  · refine ⟨trivial, fun answer => ?_⟩
    rcases answer with e | saved
    · refine .inl ⟨e, rfl, ?_⟩
      simp [accountConduct, after, Request.saved?, Request.cause?, Request.unreported?,
        Request.warned?, Request.keepsName, Request.keepsStatus]
    · refine .inr ⟨saved, rfl, List.append_nil _, List.append_nil _, List.append_nil _,
        fun _ => rfl, fun named => ?_, fun kept => ?_⟩
      · obtain ⟨named, same⟩ := Bool.and_eq_true_iff.1 named
        exact ⟨named, (of_decide_eq_true same).trans name⟩
      · have same : saved.status = given.status :=
          of_decide_eq_true (Bool.and_eq_true_iff.1 kept).2
        rw [Instance.readiness, Instance.ready?, same]
        exact speaks

/-- Telling of a failure, whatever comes of it. -/
theorem fail_conforms {hand : Instance} {cause : Error} (failed : a.Failed i hand cause)
    (name : j.key = hand.key)
    (reason : Reason) (what : String) :
    (j.fail reason what cause).Conforms accountConduct (fun a' handed => a'.Blames i handed) a := by
  have warned : ∀ {keys}, a.named = true → i.key ∈ a.warned ++ [j.key] ++ keys := fun named => by
    simp [name, failed.named named]
  refine (warn_conforms reason _).bind ?_
  rintro a' _ rfl
  refine (writeReady_conforms false reason _).bind ?_
  rintro a' result (⟨e, rfl, rfl⟩ | ⟨saved, rfl, written⟩)
  · refine (warn_conforms reason _).bind ?_
    rintro a' _ rfl
    refine .cause cause failed.causes (.inr ?_) warned
    simp [failed.unreported]
  · refine .cause cause (written.causes.trans failed.causes) (.inl ⟨?_, rfl⟩) fun named => ?_
    · exact written.unreported.trans failed.unreported
    · rw [written.warned, ← List.append_nil (a.warned ++ _)]
      exact warned (written.named named).1

/-- A failure that is told of is what the attempt ends with. -/
theorem failWith_conforms {α : Type} {hand : Instance} {cause : Error}
    (failed : a.Failed i hand cause) (name : j.key = hand.key) (reason : Reason) (what : String) :
    (j.failWith reason what cause : Program (Result α)).Conforms accountConduct (Ends i ready) a :=
  (fail_conforms failed name reason what).bind fun _ _ blames => blames

/-- The status of an instance in hand is written with nothing to tell of. -/
theorem Clean.writeReady_conforms (clean : a.Clean i) (status : Bool) (reason : Reason)
    (message : String) :
    (a.hand.writeReady status reason message).Conforms accountConduct
      (fun a' result =>
        (∃ e, result = .error e ∧ a'.Blames i e) ∨
        ∃ saved, result = .ok saved ∧ a'.hand = saved ∧ a'.Clean i ∧
          (a'.kept = true → saved.readiness = some (status, reason))) a := by
  refine (Account.writeReady_conforms status reason message).mono ?_
  rintro a' result (⟨e, rfl, rfl⟩ | ⟨saved, rfl, written⟩)
  · exact .inl ⟨e, rfl, .status clean.causes (by simp [clean.unreported]) clean.warned⟩
  · have hand := written.hand rfl
    refine .inr ⟨saved, rfl, hand, ⟨written.causes.trans clean.causes,
      written.unreported.trans clean.unreported, written.warned.trans clean.warned,
      fun named => ?_⟩, written.kept⟩
    obtain ⟨before, same⟩ := written.named named
    rw [hand, same, clean.named before]

/-- A request that fails with a cause of the attempt's failure changes nothing else. -/
theorem after_of_cause (r : Request) (answer : r.Answer) {e : Error}
    (cause : r.cause? answer = some e) :
    accountConduct.after a r answer = { a with causes := a.causes ++ [e] } := by
  cases r <;> rcases answer with _ | _ <;> cases cause <;>
    simp [accountConduct, after, Request.saved?, Request.cause?, Request.unreported?,
      Request.warned?, Request.keepsName, Request.keepsStatus]

/-- The first failure is all that has failed. -/
theorem Clean.failed (clean : a.Clean i) (r : Request) (answer : r.Answer) {e : Error}
    (cause : r.cause? answer = some e) : (accountConduct.after a r answer).Failed i a.hand e := by
  rw [after_of_cause r answer cause]
  exact ⟨by simp [clean.causes], clean.unreported, clean.named⟩

/-- Requests for the document failed, or they left the account as it was. -/
def Errs {α : Type} (i : Instance) (a a' : Account) : Result α → Prop
  | .error e => a'.Failed i a.hand e
  | .ok _ => a' = a

/-- A request for the document fails as the first, or leaves the account clean. -/
theorem Clean.getDocument_conforms (clean : a.Clean i) (target : Target) :
    (Program.send (.getDocument target)).Conforms accountConduct (Errs i a) a := by
  refine Conforms.send trivial fun answer => ?_
  rcases answer with e | found
  · exact clean.failed (.getDocument target) (.error e) rfl
  · exact after_eq_self rfl rfl rfl rfl rfl rfl

theorem Clean.createDocument_conforms (clean : a.Clean i) (given : ConfigMap) :
    (Program.send (.createDocument given)).Conforms accountConduct (Errs i a) a := by
  refine Conforms.send trivial fun answer => ?_
  rcases answer with e | saved
  · exact clean.failed (.createDocument given) (.error e) rfl
  · exact after_eq_self rfl rfl rfl rfl rfl rfl

theorem Clean.updateDocument_conforms (clean : a.Clean i) (given : ConfigMap) :
    (Program.send (.updateDocument given)).Conforms accountConduct (Errs i a) a := by
  refine Conforms.send trivial fun answer => ?_
  rcases answer with e | saved
  · exact clean.failed (.updateDocument given) (.error e) rfl
  · exact after_eq_self rfl rfl rfl rfl rfl rfl

/-- Putting the block fails as the first, or leaves the account clean. -/
theorem Clean.addToDocument_conforms (clean : a.Clean i) :
    j.addToDocument.Conforms accountConduct (Errs i a) a := by
  refine (clean.getDocument_conforms j.target).bind fun a' found errs => ?_
  rcases found with e | _ | document
  · exact errs
  · obtain rfl := errs
    refine (clean.createDocument_conforms j.freshDocument).bind fun a'' saved errs => ?_
    rcases saved with e | _ <;> exact errs
  · obtain rfl := errs
    dsimp only
    split
    · exact rfl
    · refine (clean.updateDocument_conforms _).bind fun a'' saved errs => ?_
      rcases saved with e | _ <;> exact errs

/-- Taking the block out fails as the first, or leaves the account clean. -/
theorem Clean.removeFromDocument_conforms (clean : a.Clean i) :
    j.removeFromDocument.Conforms accountConduct (Errs i a) a := by
  refine (clean.getDocument_conforms j.target).bind fun a' found errs => ?_
  rcases found with e | _ | document
  · exact errs
  · exact errs
  · obtain rfl := errs
    dsimp only
    split
    · exact rfl
    · refine (clean.updateDocument_conforms _).bind fun a'' saved errs => ?_
      rcases saved with e | _ <;> exact errs

/-- Writing the finalizer of the instance in hand, whose status says what was done. -/
theorem Clean.updateInstance_conforms (clean : a.Clean i) (puts : Bool)
    (speaks : a.kept = true → a.hand.readiness = some ready) :
    (Program.send (.updateInstance (a.hand.finalized puts))).Conforms accountConduct
      (fun a' result => match result with
        | .error e => a'.Failed i a.hand e
        | .ok _ => a'.Ends i ready (.ok () : Result Unit)) a := by
  refine Conforms.send trivial fun answer => ?_
  rcases answer with e | saved
  · exact clean.failed (.updateInstance (a.hand.finalized puts)) (.error e) rfl
  · refine ⟨(List.append_nil _).trans clean.causes, (List.append_nil _).trans clean.unreported,
      fun kept => ?_⟩
    have given : (a.hand.finalized puts).status = a.hand.status := by
      obtain ⟨finalizers, alike⟩ := a.hand.finalized_butFinalizers puts
      rw [alike]
    obtain ⟨before, same⟩ := Bool.and_eq_true_iff.1 kept
    have same : saved.status = a.hand.status := (of_decide_eq_true same).trans given
    show saved.readiness = some ready
    rw [← speaks before, Instance.readiness, Instance.readiness, Instance.ready?, Instance.ready?,
      same]

/-- The first attempt at an instance accounts for what it ends with. -/
theorem create_conforms (clean : a.Clean i) :
    a.hand.create.Conforms accountConduct (Ends i (true, .adding)) a := by
  refine (tell_conforms _ _).bind ?_
  rintro a _ rfl
  refine (clean.writeReady_conforms false .adding _).bind ?_
  rintro a result (⟨e, rfl, blames⟩ | ⟨saved, rfl, rfl, clean, -⟩)
  · exact blames
  refine clean.addToDocument_conforms.bind fun a result errs => ?_
  rcases result with e | outcome
  · exact failWith_conforms errs rfl _ _
  obtain rfl := errs
  refine (tell_conforms _ _).bind ?_
  rintro a _ rfl
  refine (clean.writeReady_conforms true .adding _).bind ?_
  rintro a result (⟨e, rfl, blames⟩ | ⟨saved, rfl, rfl, clean, speaks⟩)
  · exact blames
  refine (clean.updateInstance_conforms true speaks).bind fun a' result ends => ?_
  rcases result with e | saved
  · exact failWith_conforms ends (a.hand.addFinalizer_sameVersion).1 _ _
  · refine (inquire_conforms rfl).bind ?_
    rintro a _ rfl
    exact ends

/-- A later attempt at an instance accounts for what it ends with. -/
theorem update_conforms (clean : a.Clean i) :
    a.hand.update.Conforms accountConduct (Ends i (true, .adding)) a := by
  refine (tell_conforms _ _).bind ?_
  rintro a _ rfl
  refine clean.addToDocument_conforms.bind fun a result errs => ?_
  rcases result with e | outcome
  · exact failWith_conforms errs rfl _ _
  obtain rfl := errs
  refine (tell_conforms _ _).bind ?_
  rintro a _ rfl
  refine (clean.writeReady_conforms true .adding _).bind ?_
  rintro a result (⟨e, rfl, blames⟩ | ⟨saved, rfl, rfl, clean, speaks⟩)
  · exact blames
  · exact ⟨clean.causes, clean.unreported, speaks⟩

/-- An attempt at an instance that is to stay accounts for what it ends with. -/
theorem apply_conforms (i : Instance) :
    i.apply.Conforms accountConduct (Ends i (true, .adding)) { hand := i } := by
  refine (inquire_conforms rfl).bind ?_
  rintro a _ rfl
  have handed : ∀ {p : Program (Result Unit)},
      p.Conforms accountConduct (Ends i (true, .adding)) { hand := i } →
      (p >>= fun result => pure (result.map fun _ => Action.awaitChange)).Conforms accountConduct
        (Ends i (true, .adding)) { hand := i } := by
    intro p conforms
    refine conforms.bind fun a result ends => ?_
    rcases result with e | _ <;> exact ends
  dsimp only
  split
  · exact handed (create_conforms (clean_initial i))
  · exact handed (update_conforms (clean_initial i))

/-- An attempt at an instance that is to go accounts for what it ends with. -/
theorem cleanup_conforms (i : Instance) :
    i.cleanup.Conforms accountConduct (Ends i (false, .removing)) { hand := i } := by
  refine (inquire_conforms rfl).bind ?_
  rintro a _ rfl
  refine (tell_conforms _ _).bind ?_
  rintro a _ rfl
  refine (clean_initial i).removeFromDocument_conforms.bind fun a result errs => ?_
  rcases result with e | outcome
  · exact failWith_conforms errs rfl _ _
  obtain rfl := errs
  refine (tell_conforms _ _).bind ?_
  rintro a _ rfl
  refine ((clean_initial i).writeReady_conforms false .removing _).bind ?_
  rintro a result (⟨e, rfl, blames⟩ | ⟨saved, rfl, rfl, clean, speaks⟩)
  · exact blames
  dsimp only
  split
  · refine (clean.updateInstance_conforms false speaks).bind fun a' result ends => ?_
    rcases result with e | saved
    · exact failWith_conforms ends (a.hand.removeFinalizer_sameVersion).1 _ _
    · refine (inquire_conforms rfl).bind ?_
      rintro a _ rfl
      exact ends
  · exact ⟨clean.causes, clean.unreported, speaks⟩

end Account

end StateMetrics
