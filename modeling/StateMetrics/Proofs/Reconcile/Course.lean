import StateMetrics.Proofs.Reconcile.Hand
import StateMetrics.Proofs.Store.Latitude

/-!
# The course of an attempt

All that an attempt has found, written and counted so far. The conduct says which request or question
may follow: the condition `Ready` turns true and the finalizer is written only once the errand at the
document is done, the finalizer is written at most once, and the gauge is counted right behind it and
at no other time. Each function of an attempt is shown to keep to it, its callers by way of it; the
same conduct, with reads at any time, is kept by repeated attempts and by what the controller runs. The
functions of an attempt keep to a stricter one, which also says what a write of the status leaves as it
is (`strictConduct`).
-/

namespace StateMetrics

/-- How far an attempt has come with the finalizer of its instance. -/
inductive FinalizerStage where
  | untouched
  /-- Written, and still to be counted. -/
  | written
  | counted
  deriving DecidableEq

/-- An attempt at an instance that it found. -/
structure Course where
  found : Instance
  /-- The version last found or written. -/
  hand : Instance
  stage : Errand.Stage
  finalizer : FinalizerStage

/-- Where an attempt stands. -/
inductive Standing where
  /-- Nothing was found out yet. -/
  | outset
  /-- There is no instance of the name. -/
  | missing
  | under (c : Course)

/-- How much a program does: one attempt, or any number of them. -/
inductive Extent where
  | attempt
  | run

/-- The tally of the gauge that a question is, if it is one. -/
def Question.gauge? : Question → Option Tally
  | .count .instanceGained => some .instanceGained
  | .count .instanceLost => some .instanceLost
  | .count (.instancesFound number) => some (.instancesFound number)
  | _ => none

namespace Instance

def conditions (i : Instance) : List Condition := (i.status.getD {}).conditions

/-- The given instance is to replace the one read, with a condition about readiness that observes its
generation. -/
def Reports (given i : Instance) (status : Bool) : Prop :=
  given.SameVersion i ∧ ∃ condition, given.status = some ⟨putCondition condition i.conditions⟩ ∧
    condition.status = status ∧ condition.observedGeneration = i.metadata.generation

/-- The two differ in their finalizers at most. -/
def ButFinalizers (j i : Instance) : Prop :=
  ∃ finalizers, j = { i with metadata.finalizers := finalizers }

theorem ButFinalizers.refl (i : Instance) : i.ButFinalizers i := ⟨i.metadata.finalizers, rfl⟩

/-- Putting the finalizer on or taking it off changes the finalizers only. -/
theorem finalized_butFinalizers (puts : Bool) (i : Instance) :
    (i.finalized puts).ButFinalizers i := by
  cases puts with
  | true =>
    show i.addFinalizer.ButFinalizers i
    rw [addFinalizer]
    split
    · exact .refl i
    · exact ⟨_, rfl⟩
  | false => exact ⟨_, rfl⟩

/-- A report is about an instance whatever its finalizers. -/
theorem Reports.of_butFinalizers {given j i : Instance} {status : Bool}
    (reports : given.Reports j status) (alike : j.ButFinalizers i) : given.Reports i status := by
  obtain ⟨finalizers, rfl⟩ := alike
  exact reports

/-- Setting the condition, where it says anything new, is a report. -/
theorem setReady_reports {i given : Instance} {moment : Moment} {status : Bool} {reason : Reason}
    {message : String} (set : i.setReady moment status reason message = (given, true)) :
    given.Reports i status := by
  rw [setReady] at set
  split at set
  · dsimp only at set
    split at set
    · cases set
    · cases set
      split <;> exact ⟨⟨rfl, rfl⟩, _, rfl, rfl, rfl⟩
  · cases set
    exact ⟨⟨rfl, rfl⟩, _, rfl, rfl, rfl⟩

/-- The instance is given in place of another version: it differs in nothing but its status, and in
whether it carries the finalizer. -/
structure Retouches (given i : Instance) : Prop where
  body : given.body = i.body
  version : given.metadata.resourceVersion = i.metadata.resourceVersion
  others : given.otherFinalizers = i.otherFinalizers

section Retouches

variable {i j k : Instance}

theorem Retouches.refl (i : Instance) : i.Retouches i := ⟨rfl, rfl, rfl⟩

theorem Retouches.trans (second : k.Retouches j) (first : j.Retouches i) : k.Retouches i where
  body := second.body.trans first.body
  version := second.version.trans first.version
  others := second.others.trans first.others

theorem retouches_setReady (i : Instance) (moment : Moment) (status : Bool) (reason : Reason)
    (message : String) : (i.setReady moment status reason message).1.Retouches i := by
  rw [setReady]
  split
  · dsimp only
    split <;> exact ⟨rfl, rfl, rfl⟩
  · exact ⟨rfl, rfl, rfl⟩

/-- Putting the finalizer on or taking it off leaves those of others alone. -/
theorem retouches_finalized (puts : Bool) (i : Instance) : (i.finalized puts).Retouches i := by
  cases puts with
  | true =>
    show i.addFinalizer.Retouches i
    rw [addFinalizer]
    split
    · exact .refl i
    · refine ⟨rfl, rfl, ?_⟩
      simp [otherFinalizers, ObjectMeta.finalizerList]
  | false =>
    show i.removeFinalizer.Retouches i
    refine ⟨rfl, rfl, ?_⟩
    simp [otherFinalizers, removeFinalizer, ObjectMeta.finalizerList]

end Retouches

/-- The first is the second, or that with its finalizer as it is to be. -/
def AtMostFinalized (j i : Instance) : Prop := j = i ∨ ∃ puts, j = i.finalized puts

section AtMostFinalized

variable {i j : Instance}

theorem AtMostFinalized.refl (i : Instance) : i.AtMostFinalized i := .inl rfl

theorem atMostFinalized_finalized (puts : Bool) (i : Instance) :
    (i.finalized puts).AtMostFinalized i :=
  .inr ⟨puts, rfl⟩

/-- An instance and the same with its finalizer as it is to be differ in that only. -/
theorem AtMostFinalized.butFinalizers (alike : j.AtMostFinalized i) : j.ButFinalizers i := by
  rcases alike with rfl | ⟨puts, rfl⟩
  · exact .refl j
  · exact i.finalized_butFinalizers puts

theorem AtMostFinalized.retouches (alike : j.AtMostFinalized i) : j.Retouches i := by
  rcases alike with rfl | ⟨puts, rfl⟩
  · exact .refl j
  · exact i.retouches_finalized puts

end AtMostFinalized

end Instance

namespace Course

/-- The block is to be put into the document. -/
def puts (c : Course) : Bool := c.found.phase ≠ .deleting

def errand (c : Course) : Errand := c.hand.errand c.puts

/-- The finalizer is to be written, once the errand is done. -/
def marks (c : Course) : Bool :=
  c.found.phase = .creating || c.found.phase = .deleting && c.hand.hasFinalizer

/-- What is to be counted next, if anything. -/
def due? (c : Course) : Option Tally :=
  if c.finalizer = .written then some (if c.puts then .instanceGained else .instanceLost) else none

/-- The requests that may follow, while the finalizer is as it was found. -/
def Permits (c : Course) : Request → Prop
  | .record .. => True
  | .updateStatus given =>
    ∃ status, given.Reports c.hand status ∧ (status = true → c.puts = true ∧ c.stage = .settled)
  | .updateInstance given =>
    c.stage = .settled ∧ c.marks = true ∧ given = c.hand.finalized c.puts
  | r => c.errand.discipline.permits c.stage r

/-- The course after one more answer: a saved instance is in hand from then on. -/
def after (c : Course) : (r : Request) → r.Answer → Course
  | .record .., _ => c
  | .updateStatus _, .ok saved => { c with hand := saved }
  | .updateStatus _, .error _ => c
  | .updateInstance _, .ok saved => { c with hand := saved, finalizer := .written }
  | .updateInstance _, .error _ => c
  | r, answer => { c with stage := c.errand.discipline.after c.stage r answer }

def told (c : Course) : Course :=
  if c.finalizer = .written then { c with finalizer := .counted } else c

/-- All is done that there was to do. -/
structure Done (c : Course) : Prop where
  stage : c.stage = .settled
  finalizer : c.finalizer = .counted ∨ c.finalizer = .untouched ∧ c.marks = false

end Course

namespace Standing

def due? : Standing → Option Tally
  | under c => c.due?
  | _ => none

/-- Where an attempt stands once it has read. -/
def ofFound : Option Instance → Standing
  | none => missing
  | some i => under ⟨i, i, .unread, .untouched⟩

def Done : Standing → Prop
  | outset => False
  | missing => True
  | under c => c.Done

/-- An attempt may end here with the result: nothing is left to be counted, and with a success
nothing is left to be done. -/
def Ends {α : Type} (g : Standing) (result : Result α) : Prop :=
  g.due? = none ∧ ∀ value, result = .ok value → g.Done

/-- The requests that may follow: the instance is read first, and again only in a run of attempts. -/
def Permits (extent : Extent) (n : InstanceName) (g : Standing) : Request → Prop
  | .getInstance namespaceName name =>
    (extent = .run ∨ g = outset) ∧ n = ⟨namespaceName, name⟩
  | .namespaceLabels _ => extent = .run
  | r => match g with
    | under c => c.finalizer = .untouched ∧ c.Permits r
    | _ => False

end Standing

/-- How attempts at the instance of a name are made. -/
def courseConduct (extent : Extent) (n : InstanceName) : Conduct Standing where
  permits g r := g.due? = none ∧ g.Permits extent n r
  after
    | _, .getInstance .., .ok found => .ofFound found
    | _, .getInstance .., .error _ => .outset
    | g, .namespaceLabels _, _ => g
    | .under c, r, answer => .under (c.after r answer)
    | g, _, _ => g
  allows g q := q.gauge? = g.due?
  told
    | .under c, _, _ => .under c.told
    | g, _, _ => g

/-- A status is written with the rest of the version in hand as it is, the finalizer apart. -/
def Standing.Retouches : Standing → Request → Prop
  | under c, .updateStatus given => given.Retouches c.hand
  | _, _ => True

/-- How attempts are made, and what they leave as it is. -/
def strictConduct (extent : Extent) (n : InstanceName) : Conduct Standing :=
  { courseConduct extent n with
    permits g r := (courseConduct extent n).permits g r ∧ g.Retouches r }

/-- Who keeps to the stricter conduct keeps to the other. -/
theorem Program.Conforms.course {α : Type} {extent : Extent} {n : InstanceName} {p : Program α}
    {post : Standing → α → Prop} {g : Standing}
    (conforms : p.Conforms (strictConduct extent n) post g) :
    p.Conforms (courseConduct extent n) post g :=
  Conforms.lift (C := strictConduct extent n) id (fun _ _ permitted => permitted.1)
    (fun _ _ _ _ => rfl) (fun _ _ => id) (fun _ _ _ _ => rfl) (fun _ _ => id) conforms

namespace Course

open Program

variable {extent : Extent} {n : InstanceName} {found i j : Instance} {stage : Errand.Stage}

/-- An errand is run with the rest of the course as it is. -/
theorem errand_conforms {α : Type} {p : Program α} {post : Errand.Stage → α → Prop} {e : Errand}
    (same : (Course.mk found i stage .untouched).errand = e)
    (conforms : p.Conforms e.conduct post stage) :
    p.Conforms (strictConduct extent n)
      (fun g value => ∃ stage, g = .under ⟨found, i, stage, .untouched⟩ ∧ post stage value)
      (.under ⟨found, i, stage, .untouched⟩) := by
  subst same
  refine Conforms.lift (C := (Course.mk found i stage .untouched).errand.conduct)
    (fun stage => Standing.under ⟨found, i, stage, .untouched⟩)
    (fun stage r permitted => ?_) (fun stage r answer permitted => ?_)
    (fun _ _ allowed => allowed.elim) (fun _ _ _ allowed => allowed.elim)
    (fun stage value ends => ⟨stage, rfl, ends⟩) conforms
  · rcases Errand.permits_cases permitted with ⟨target, rfl⟩ | ⟨d, rfl⟩ | ⟨d, rfl⟩ <;>
      exact ⟨⟨rfl, rfl, permitted⟩, trivial⟩
  · rcases Errand.permits_cases permitted with ⟨target, rfl⟩ | ⟨d, rfl⟩ | ⟨d, rfl⟩ <;> rfl

/-- Events may be told at any time. -/
theorem tell_conforms (reason : Reason) (message : String) :
    (j.tell reason message).Conforms (strictConduct extent n)
      (fun g _ => g = .under ⟨found, i, stage, .untouched⟩)
      (.under ⟨found, i, stage, .untouched⟩) :=
  Conforms.send ⟨⟨rfl, rfl, trivial⟩, trivial⟩ fun _ => rfl

theorem warn_conforms (reason : Reason) (message : String) :
    (j.warn reason message).Conforms (strictConduct extent n)
      (fun g _ => g = .under ⟨found, i, stage, .untouched⟩)
      (.under ⟨found, i, stage, .untouched⟩) :=
  Conforms.send ⟨⟨rfl, rfl, trivial⟩, trivial⟩ fun _ => rfl

/-- Writing the condition about readiness takes the version then stored in hand. -/
theorem writeReady_conforms (alike : j.AtMostFinalized i) (status : Bool) (reason : Reason)
    (message : String)
    (may : status = true → found.phase ≠ .deleting ∧ stage = .settled) :
    (j.writeReady status reason message).Conforms (strictConduct extent n)
      (fun g result => ∃ i', g = .under ⟨found, i', stage, .untouched⟩ ∧
        (j = i → ∀ saved, result = .ok saved → saved = i'))
      (.under ⟨found, i, stage, .untouched⟩) := by
  have asked : (Program.inquire .now).Conforms (strictConduct extent n)
      (fun g _ => g = .under ⟨found, i, stage, .untouched⟩)
      (.under ⟨found, i, stage, .untouched⟩) :=
    Conforms.inquire rfl fun _ => rfl
  refine asked.bind ?_
  rintro g (moment : Moment) rfl
  have reports : ∀ given, j.setReady moment status reason message = (given, true) →
      given.Reports i status :=
    fun given set => (Instance.setReady_reports set).of_butFinalizers alike.butFinalizers
  have retouches := (j.retouches_setReady moment status reason message).trans alike.retouches
  generalize j.setReady moment status reason message = set at reports retouches ⊢
  rcases set with ⟨given, _ | _⟩
  · exact ⟨i, rfl, fun here saved done => (Except.ok.inj done).symm.trans here⟩
  · refine ⟨⟨⟨rfl, rfl, status, reports given rfl, fun on => ?_⟩, retouches⟩, fun answer => ?_⟩
    · obtain ⟨stays, settled⟩ := may on
      exact ⟨decide_eq_true stays, settled⟩
    rcases answer with error | saved
    · exact ⟨i, rfl, fun _ saved done => nomatch done⟩
    · exact ⟨saved, rfl, fun _ saved' done => (Except.ok.inj done).symm⟩

/-- Reporting an error, whatever comes of it. -/
theorem fail_conforms (alike : j.AtMostFinalized i) (reason : Reason) (what : String)
    (error : Error) :
    (j.fail reason what error).Conforms (strictConduct extent n) (fun g _ => g.due? = none)
      (.under ⟨found, i, stage, .untouched⟩) := by
  refine (warn_conforms reason _).bind ?_
  rintro g _ rfl
  refine (writeReady_conforms alike false reason _ fun on => nomatch on).bind ?_
  rintro g result ⟨i', rfl, -⟩
  rcases result with e | saved
  · refine (warn_conforms reason _).bind ?_
    rintro g _ rfl
    exact rfl
  · exact rfl

theorem ends_error {α : Type} {g : Standing} {error : Error} (counted : g.due? = none) :
    g.Ends (.error error : Result α) :=
  ⟨counted, fun _ success => nomatch success⟩

/-- A failure may be told of at any time, and the attempt ends with it. -/
theorem failWith_conforms {α : Type} (alike : j.AtMostFinalized i) (reason : Reason) (what : String)
    (error : Error) :
    (j.failWith reason what error : Program (Result α)).Conforms (strictConduct extent n)
      Standing.Ends (.under ⟨found, i, stage, .untouched⟩) :=
  (fail_conforms alike reason what error).bind fun _ _ counted => ends_error counted

/-- Putting the block is in the course of an attempt at an instance that is to stay. -/
theorem addToDocument_conforms (stays : found.phase ≠ .deleting) :
    i.addToDocument.Conforms (strictConduct extent n)
      (fun g result => ∃ stage, g = .under ⟨found, i, stage, .untouched⟩ ∧
        Errand.Settles stage result)
      (.under ⟨found, i, .unread, .untouched⟩) := by
  have puts : (Course.mk found i .unread .untouched).errand = i.putting := by
    simp [Course.errand, Course.puts, Instance.errand, stays]
  exact errand_conforms puts (Errand.addToDocument_conforms i)

/-- Taking the block out is in the course of an attempt at an instance that is to go. -/
theorem removeFromDocument_conforms (goes : found.phase = .deleting) :
    i.removeFromDocument.Conforms (strictConduct extent n)
      (fun g result => ∃ stage, g = .under ⟨found, i, stage, .untouched⟩ ∧
        Errand.Settles stage result)
      (.under ⟨found, i, .unread, .untouched⟩) := by
  have removes : (Course.mk found i .unread .untouched).errand = i.removing := by
    simp [Course.errand, Course.puts, Instance.errand, goes]
  exact errand_conforms removes (Errand.removeFromDocument_conforms i)

/-- Writing the finalizer, with the document as it should be. -/
theorem updateFinalizer_conforms {puts : Bool}
    (sets : (Course.mk found i .settled .untouched).puts = puts)
    (marks : (Course.mk found i .settled .untouched).marks = true) :
    (Program.send (.updateInstance (i.finalized puts))).Conforms (strictConduct extent n)
      (fun g result =>
        (∃ error, result = .error error ∧ g = .under ⟨found, i, .settled, .untouched⟩) ∨
        ∃ saved, result = .ok saved ∧ g = .under ⟨found, saved, .settled, .written⟩)
      (.under ⟨found, i, .settled, .untouched⟩) := by
  subst sets
  refine Conforms.send ⟨⟨rfl, rfl, rfl, marks, rfl⟩, trivial⟩ fun answer => ?_
  rcases answer with error | saved
  · exact .inl ⟨error, rfl, rfl⟩
  · exact .inr ⟨saved, rfl, rfl⟩

/-- Counting the finalizer that was just written. -/
theorem count_conforms {tally : Tally}
    (due : (Course.mk found i stage .written).due? = some tally)
    (gauges : (Question.count tally).gauge? = some tally) :
    (Program.inquire (.count tally)).Conforms (strictConduct extent n)
      (fun g _ => g = .under ⟨found, i, stage, .counted⟩) (.under ⟨found, i, stage, .written⟩) :=
  Conforms.inquire (gauges.trans due.symm) fun _ => rfl

/-- The first attempt at an instance keeps to its course. -/
theorem create_conforms (new : i.phase = .creating) :
    i.create.Conforms (strictConduct extent n) Standing.Ends
      (.under ⟨i, i, .unread, .untouched⟩) := by
  have stays : i.phase ≠ .deleting := by simp [new]
  refine (tell_conforms _ _).bind ?_
  rintro g _ rfl
  refine (writeReady_conforms (.refl i) false _ _ fun on => nomatch on).bind ?_
  rintro g result ⟨i', rfl, here⟩
  rcases result with error | begun
  · exact ends_error rfl
  obtain rfl := here rfl begun rfl
  refine (addToDocument_conforms stays).bind ?_
  rintro g result ⟨stage, rfl, settles⟩
  rcases result with error | outcome
  · exact failWith_conforms (.refl begun) _ _ error
  obtain rfl := settles outcome rfl
  refine (tell_conforms _ _).bind ?_
  rintro g _ rfl
  refine (writeReady_conforms (.refl begun) true _ _ fun _ => ⟨stays, rfl⟩).bind ?_
  rintro g result ⟨i', rfl, here⟩
  rcases result with error | ready
  · exact ends_error rfl
  obtain rfl := here rfl ready rfl
  refine (updateFinalizer_conforms (decide_eq_true stays) (by simp [Course.marks, new])).bind ?_
  rintro g result (⟨error, rfl, rfl⟩ | ⟨saved, rfl, rfl⟩)
  · exact failWith_conforms (ready.atMostFinalized_finalized true) _ _ error
  · have due : (Course.mk i saved .settled .written).due? = some .instanceGained := by
      simp [Course.due?, Course.puts, stays]
    refine (count_conforms due rfl).bind ?_
    rintro g _ rfl
    exact ⟨rfl, fun _ _ => ⟨rfl, .inl rfl⟩⟩

/-- A later attempt at an instance keeps to its course. -/
theorem update_conforms (known : i.phase = .updating) :
    i.update.Conforms (strictConduct extent n) Standing.Ends
      (.under ⟨i, i, .unread, .untouched⟩) := by
  have stays : i.phase ≠ .deleting := by simp [known]
  refine (tell_conforms _ _).bind ?_
  rintro g _ rfl
  refine (addToDocument_conforms stays).bind ?_
  rintro g result ⟨stage, rfl, settles⟩
  rcases result with error | outcome
  · exact failWith_conforms (.refl i) _ _ error
  obtain rfl := settles outcome rfl
  refine (tell_conforms _ _).bind ?_
  rintro g _ rfl
  refine (writeReady_conforms (.refl i) true _ _ fun _ => ⟨stays, rfl⟩).bind ?_
  rintro g result ⟨i', rfl, -⟩
  rcases result with error | _
  · exact ends_error rfl
  · have unmarked : (Course.mk i i' .settled .untouched).marks = false := by
      simp [Course.marks, known]
    exact ⟨rfl, fun _ _ => ⟨rfl, .inr ⟨rfl, unmarked⟩⟩⟩

/-- An attempt at an instance that is to stay keeps to its course. -/
theorem apply_conforms (stays : i.phase ≠ .deleting) :
    i.apply.Conforms (strictConduct extent n) Standing.Ends
      (.under ⟨i, i, .unread, .untouched⟩) := by
  refine ⟨rfl, fun _ => ?_⟩
  have handed : ∀ {p : Program (Result Unit)},
      p.Conforms (strictConduct extent n) Standing.Ends (.under ⟨i, i, .unread, .untouched⟩) →
      (p >>= fun result => pure (result.map fun _ => Action.awaitChange)).Conforms
        (strictConduct extent n) Standing.Ends (.under ⟨i, i, .unread, .untouched⟩) := by
    intro p conforms
    refine conforms.bind fun g result ends => ?_
    rcases result with error | _
    · exact ends_error ends.1
    · exact ⟨ends.1, fun _ _ => ends.2 _ rfl⟩
  by_cases new : i.phase = .creating
  · simp only [if_pos new]
    exact handed (create_conforms new)
  · have known : i.phase = .updating := by
      cases phase : i.phase with
      | deleting => exact absurd phase stays
      | creating => exact absurd phase new
      | updating => rfl
    simp only [if_neg new]
    exact handed (update_conforms known)

/-- An attempt at an instance that is to go keeps to its course. -/
theorem cleanup_conforms (goes : i.phase = .deleting) :
    i.cleanup.Conforms (strictConduct extent n) Standing.Ends
      (.under ⟨i, i, .unread, .untouched⟩) := by
  refine ⟨rfl, fun _ => ?_⟩
  refine (tell_conforms _ _).bind ?_
  rintro g _ rfl
  refine (removeFromDocument_conforms goes).bind ?_
  rintro g result ⟨stage, rfl, settles⟩
  rcases result with error | outcome
  · exact failWith_conforms (.refl i) _ _ error
  obtain rfl := settles outcome rfl
  refine (tell_conforms _ _).bind ?_
  rintro g _ rfl
  refine (writeReady_conforms (.refl i) false _ _ fun on => nomatch on).bind ?_
  rintro g result ⟨i', rfl, here⟩
  rcases result with error | ready
  · exact ends_error rfl
  obtain rfl := here rfl ready rfl
  dsimp only
  split
  · next carries =>
    have removes : ∀ f, (Course.mk i ready .settled f).puts = false := by simp [Course.puts, goes]
    refine (updateFinalizer_conforms (removes _) (by simp [Course.marks, goes, carries])).bind ?_
    rintro g result (⟨error, rfl, rfl⟩ | ⟨saved, rfl, rfl⟩)
    · exact failWith_conforms (ready.atMostFinalized_finalized false) _ _ error
    · have due : (Course.mk i saved .settled .written).due? = some .instanceLost := by
        simp [Course.due?, Course.puts, goes]
      refine (count_conforms due rfl).bind ?_
      rintro g _ rfl
      exact ⟨rfl, fun _ _ => ⟨rfl, .inl rfl⟩⟩
  · next lacks =>
    have unmarked : (Course.mk i ready .settled .untouched).marks = false := by
      simp [Course.marks, goes, lacks]
    exact ⟨rfl, fun _ _ => ⟨rfl, .inr ⟨rfl, unmarked⟩⟩⟩

end Course

/-! ## Attempts one after another -/

/-- The writes of an attempt conflicted with somebody else's. -/
def conflicts (result : Result Action) : Bool :=
  match result with
  | .ok _ => false
  | .error e => e.isConflict

/-- The number of an attempt behind which another is left can be counted on from. -/
theorem toNat_next {maxAttempts attempt : UInt32} (left : attempt < maxAttempts) :
    (attempt + 1).toNat = attempt.toNat + 1 := by
  have bound : attempt.toNat < maxAttempts.toNat := UInt32.lt_iff_toNat_lt.mp left
  have limit := maxAttempts.toNat_lt
  rw [UInt32.toNat_add, UInt32.toNat_one]
  exact Nat.mod_eq_of_lt (by omega)

/-- Behind an attempt that conflicts comes the next one, if one is left. -/
theorem retryFrom_eq (maxAttempts attempt : UInt32) (namespaceName name : String) :
    retryFrom maxAttempts attempt namespaceName name =
      reconcileKey namespaceName name >>= fun result =>
        if attempt < maxAttempts ∧ conflicts result = true then
          retryFrom maxAttempts (attempt + 1) namespaceName name
        else pure result := by
  rw [retryFrom]
  refine congrArg (reconcileKey namespaceName name >>= ·) (funext fun result => ?_)
  rcases result with e | action
  · by_cases left : attempt < maxAttempts
    · simp only [left, dite_true, true_and, conflicts]
    · simp only [left, dite_false, false_and, if_false]
  · simp only [conflicts, Bool.false_eq_true, and_false, if_false]

namespace Program.Conforms

variable {γ : Type} {C : Conduct γ}

/-- Attempts are repeated as each of them is made, if an error leaves what the next may begin with. -/
theorem retryFrom {namespaceName name : String} {maxAttempts attempt : UInt32} {Begins : γ → Prop}
    {post : γ → Result Action → Prop} {g : γ}
    (conforms : ∀ g, Begins g → (reconcileKey namespaceName name).Conforms C post g)
    (again : ∀ g error, post g (.error error) → Begins g) (begins : Begins g) :
    (StateMetrics.retryFrom maxAttempts attempt namespaceName name).Conforms C post g := by
  induction left : maxAttempts.toNat - attempt.toNat using Nat.strongRecOn
    generalizing attempt g with
  | ind left ih =>
    rw [retryFrom_eq]
    refine (conforms g begins).bind fun g result ends => ?_
    split
    · next more =>
      rcases result with error | action
      · have bound : attempt.toNat < maxAttempts.toNat := UInt32.lt_iff_toNat_lt.mp more.1
        have next := toNat_next more.1
        exact ih _ (by omega) (again g error ends) rfl
      · cases more.2
    · exact ends

/-- Admission asks what was reconciled last, looks the namespace up and forgets, none of which moves
the note. -/
theorem admitInstance {g : γ} (scope : Scope) (version : Instance)
    (recalled : C.allows g (.lastSeen version.key) ∧
      ∀ last, C.told g (.lastSeen version.key) last = g)
    (looked : ∀ name, C.permits g (.namespaceLabels name) ∧
      ∀ labels, C.after g (.namespaceLabels name) labels = g)
    (forgot : C.allows g (.forget version.key) ∧
      ∀ answer, C.told g (.forget version.key) answer = g) :
    (scope.admitInstance version).Conforms C (fun g' _ => g' = g) g := by
  have asked : ∀ q, (C.allows g q ∧ ∀ answer, C.told g q answer = g) →
      (Program.inquire q).Conforms C (fun g' _ => g' = g) g :=
    fun q quiet => inquire quiet.1 quiet.2
  have included : (scope.includes version.metadata).Conforms C (fun g' _ => g' = g) g := by
    rw [Scope.includes]
    split
    · cases scope.namespaceSelector with
      | none => exact rfl
      | some selector =>
        refine ⟨(looked _).1, fun answer => ?_⟩
        rw [(looked _).2 answer]
        rcases answer with error | _ | labels <;> exact rfl
    · exact rfl
  refine (asked _ recalled).bind ?_
  rintro g' last rfl
  dsimp only
  split
  · refine included.bind ?_
    rintro g admitted rfl
    split
    · refine (asked _ forgot).bind ?_
      rintro g _ rfl
      exact rfl
    · exact rfl
  · exact rfl

end Program.Conforms

namespace Standing

open Program

variable {extent : Extent} {n : InstanceName} {g : Standing}

/-- With nothing to be counted a question leaves the attempt where it stands. -/
theorem told_of_counted (counted : g.due? = none) (q : Question) (answer : q.Answer) :
    (courseConduct extent n).told g q answer = g := by
  cases g with
  | outset | missing => rfl
  | under c =>
    have untold : c.finalizer ≠ .written := fun written => by
      rw [due?, Course.due?, if_pos written] at counted
      cases counted
    exact congrArg under (if_neg untold)

/-- Questions that are no tally of the gauge may be asked whenever nothing is to be counted. -/
theorem inquire_conforms {q : Question} (other : q.gauge? = none) (counted : g.due? = none) :
    (Program.inquire q).Conforms (courseConduct extent n) (fun g' _ => g' = g) g :=
  Conforms.inquire (other.trans counted.symm) (told_of_counted counted q)

/-- An attempt keeps to its course, and a run of attempts may go on with one more. -/
theorem reconcileKey_conforms (may : extent = .run ∨ g = .outset) (counted : g.due? = none) :
    (reconcileKey n.namespaceName n.name).Conforms (courseConduct extent n) Ends g := by
  refine ⟨⟨counted, may, rfl⟩, fun answer => ?_⟩
  rcases answer with error | _ | stored
  · exact Course.ends_error rfl
  · refine (inquire_conforms rfl rfl).bind ?_
    rintro g _ rfl
    exact ⟨rfl, fun _ _ => trivial⟩
  · have rest : ∀ (g : Standing) (result : Result Action), g.Ends result →
        Program.Conforms (courseConduct extent n) Ends
          (do
            if result.isOk && !stored.isDeleting then Program.inquire (.remember stored)
            else Program.inquire (.forget (Instance.keyOf n.name n.namespaceName))
            pure result) g := by
      intro g result ends
      split
      all_goals
        refine (inquire_conforms rfl ends.1).bind ?_
        rintro g' _ rfl
        exact ends
    show Conforms _ _ (if stored.phase = .deleting then stored.cleanup >>= _ else stored.apply >>= _) _
    by_cases goes : stored.phase = .deleting
    · rw [if_pos goes]
      exact (Course.cleanup_conforms goes).course.bind rest
    · rw [if_neg goes]
      exact (Course.apply_conforms goes).course.bind rest

/-- Attempts that are repeated keep to the course of a run. -/
theorem retryFrom_conforms {maxAttempts attempt : UInt32} (counted : g.due? = none) :
    (retryFrom maxAttempts attempt n.namespaceName n.name).Conforms (courseConduct .run n) Ends g :=
  Conforms.retryFrom (fun _ counted => reconcileKey_conforms (.inl rfl) counted)
    (fun _ _ ends => ends.1) counted

theorem admitInstance_conforms (scope : Scope) (version : Instance) (counted : g.due? = none) :
    (scope.admitInstance version).Conforms (courseConduct .run n) (fun g' _ => g' = g) g :=
  Conforms.admitInstance scope version ⟨counted.symm, told_of_counted counted _⟩
    (fun _ => ⟨⟨counted, rfl⟩, fun _ => by cases g <;> rfl⟩)
    ⟨counted.symm, told_of_counted counted _⟩

/-- What the controller runs for an instance keeps to the course of a run. -/
theorem reconcile_conforms (settings : Settings) {told : Instance}
    (about : n = ⟨told.metadata.namespaceName, told.metadata.anyName⟩) (counted : g.due? = none) :
    (reconcile settings told).Conforms (courseConduct .run n) (fun g _ => g.due? = none) g := by
  refine (admitInstance_conforms settings.scope told counted).bind ?_
  rintro g admitted rfl
  cases admitted with
  | false => exact counted
  | true =>
    refine (inquire_conforms (q := .count .runStarted) rfl counted).bind ?_
    rintro g _ rfl
    subst about
    refine (retryFrom_conforms counted).bind fun g result ends => ?_
    have rest : Program.Conforms
        (courseConduct .run ⟨told.metadata.namespaceName, told.metadata.anyName⟩)
        (fun g _ => g.due? = none)
        (do
          Program.inquire (.count .runFinished)
          pure result) g := by
      refine (inquire_conforms rfl ends.1).bind ?_
      rintro g _ rfl
      exact ends.1
    dsimp only
    split
    · refine (inquire_conforms rfl ends.1).bind ?_
      rintro g _ rfl
      exact rest
    · exact rest

end Standing

/-! ## What the hand shows of it -/

/-- What an attempt holds where it stands. -/
def Standing.toHand : Standing → Hand
  | outset => .empty
  | missing => .empty
  | under c => .holding c.puts c.hand c.stage

/-- An attempt writes an instance only in place of the version that it has in hand. -/
theorem Hand.reconcileKey_obeys {namespaceName name : String} :
    (reconcileKey namespaceName name).Obeys (handDiscipline namespaceName name) (fun _ _ => True)
      .empty := by
  have conforms : (reconcileKey namespaceName name).Conforms
      (courseConduct .attempt ⟨namespaceName, name⟩) Standing.Ends .outset :=
    Standing.reconcileKey_conforms (.inr rfl) rfl
  refine conforms.obeys Standing.toHand (fun g r permitted => ?_) (fun g r answer permitted => ?_)
    (fun g q answer _ => ?_) fun _ _ _ => trivial
  · obtain ⟨-, permitted⟩ := permitted
    cases r with
    | getInstance namespaceName name =>
      obtain ⟨never | rfl, same⟩ := permitted
      · cases never
      · cases same
        rfl
    | namespaceLabels name => cases permitted
    | updateStatus given =>
      cases g with
      | outset | missing => exact permitted.elim
      | under c =>
        obtain ⟨-, status, reports, -⟩ := permitted
        exact reports.1
    | updateInstance given =>
      cases g with
      | outset | missing => exact permitted.elim
      | under c => exact ⟨permitted.2.1, permitted.2.2.2⟩
    | record | getDocument | createDocument | updateDocument =>
      cases g with
      | outset | missing => exact permitted.elim
      | under c => exact permitted.2
  · obtain ⟨-, permitted⟩ := permitted
    cases r with
    | getInstance namespaceName name =>
      obtain ⟨never | rfl, -⟩ := permitted
      · cases never
      · rcases answer with error | _ | found <;> rfl
    | namespaceLabels name => cases permitted
    | updateStatus | updateInstance =>
      cases g with
      | outset | missing => exact permitted.elim
      | under c => cases answer <;> rfl
    | record | getDocument | createDocument | updateDocument =>
      cases g with
      | outset | missing => exact permitted.elim
      | under c => rfl
  · cases g with
    | outset | missing => rfl
    | under c =>
      show Standing.toHand (.under c.told) = _
      rw [Course.told]
      split <;> rfl

end StateMetrics
