import StateMetrics.Proofs.Reconcile.Account
import StateMetrics.Proofs.Reconcile.Advance
import StateMetrics.Proofs.Run.Answers
import StateMetrics.Proofs.Store.Faults

/-!
# Failures of attempts

Any request of an attempt may fail, several of them too. What was warned about and what is handed
back then depends on two things only: whether the document or the finalizer failed, and whether the
status could be written. A failure of the document or of the finalizer is always warned about, and a
failure of a status that was to tell of no failure never is (`warned_iff_cause`). The former is what
is handed back, unless the status that was to tell of it could not be written (`cause_handed_back`).
-/

namespace StateMetrics

/-- The programs that are one attempt: at an instance at hand, or at the one that is stored. -/
inductive IsAttempt : Program (Result Action) → Prop
  | apply (i : Instance) : IsAttempt i.apply
  | cleanup (i : Instance) : IsAttempt i.cleanup
  | stored (namespaceName name : String) : IsAttempt (reconcileKey namespaceName name)

/-- What comes behind an attempt at a stored version: it is remembered, or none is. -/
def Instance.conclude (i : Instance) (key : String) (result : Result Action) :
    Program (Result Action) := do
  if result.isOk && !i.isDeleting then Program.inquire (.remember i)
  else Program.inquire (.forget key)
  pure result

/-- An attempt at a key is a read, an attempt at what was read, and its conclusion. -/
theorem reconcileKey_eq (namespaceName name : String) :
    reconcileKey namespaceName name = .request (.getInstance namespaceName name) fun
      | .error e => .done (.error e)
      | .ok none =>
        .ask (.forget (Instance.keyOf name namespaceName)) fun _ => .done (.ok .awaitChange)
      | .ok (some i) =>
        (if i.phase = .deleting then i.cleanup else i.apply) >>=
          i.conclude (Instance.keyOf name namespaceName) := by
  rw [reconcileKey]
  refine congrArg (Program.request _) (funext fun answer => ?_)
  rcases answer with e | _ | i
  · rfl
  · rfl
  · show (if i.phase = .deleting then i.cleanup >>= i.conclude _ else i.apply >>= i.conclude _) =
      (if i.phase = .deleting then i.cleanup else i.apply) >>= i.conclude _
    split <;> rfl

/-! ## What the answers tell -/

/-- Why requests for documents failed, and writes of finalizers. -/
def causes (log : List (Σ r : Request, r.Answer)) : List Error :=
  log.filterMap fun o => o.1.cause? o.2

/-- Why writes of a status failed. -/
def unreported (log : List (Σ r : Request, r.Answer)) : List Error :=
  log.filterMap fun o => o.1.unreported? o.2

/-- The instances that were warned about, by their keys. -/
def warned (log : List (Σ r : Request, r.Answer)) : List String :=
  log.filterMap fun o => o.1.warned?

/-- Every status was written under the name that it was given under. -/
def keepNames (log : List (Σ r : Request, r.Answer)) : Bool :=
  log.all fun o => o.1.keepsName o.2

/-- The account is what the answers tell. -/
structure Account.Matches (log : List (Σ r : Request, r.Answer)) (a : Account) : Prop where
  causes : a.causes = StateMetrics.causes log
  unreported : a.unreported = StateMetrics.unreported log
  warned : a.warned = StateMetrics.warned log
  named : a.named = keepNames log

/-- An account that is kept from request to request tells what the answers tell. -/
theorem Account.Matches.after {a : Account} {log : List (Σ r : Request, r.Answer)}
    (matched : a.Matches log) (r : Request) (answer : r.Answer) :
    (a.after r answer).Matches (log ++ [⟨r, answer⟩]) where
  causes := by
    cases cause : r.cause? answer <;>
      simp [Account.after, StateMetrics.causes, matched.causes, cause]
  unreported := by
    cases unreported : r.unreported? answer <;>
      simp [Account.after, StateMetrics.unreported, matched.unreported, unreported]
  warned := by
    cases warned : r.warned? <;>
      simp [Account.after, StateMetrics.warned, matched.warned, warned]
  named := by simp [Account.after, keepNames, matched.named]

section Run

variable {σ : Type} {handle : Handler σ} {i : Instance} {p : Program (Result Action)}
  {ready : Bool × Reason} {s : σ} {own : ControllerState}

/-- What an attempt at an instance at hand ends with, and what its answers tell. -/
theorem exists_account_of_conforms
    (conforms : p.Conforms accountConduct (Account.Ends i ready) { hand := i })
    (s : σ) (own : ControllerState) :
    ∃ a : Account, a.Matches (p.answers handle s own) ∧ a.Ends i ready (p.run handle s own).1 :=
  have initial : ({ hand := i } : Account).Matches [] := ⟨rfl, rfl, rfl, rfl⟩
  Program.Conforms.run (fun log a _ _ => a.Matches log)
    (fun matched _ => matched.after _ _) (fun matched _ => matched) conforms [] initial

/-- The conclusion requests nothing. -/
theorem conclude_answers (p : Program (Result Action)) (key : String) :
    (p >>= i.conclude key).answers handle s own = p.answers handle s own := by
  rw [Program.answers_bind, Instance.conclude]
  split <;> exact List.append_nil _

/-- The conclusion hands on the result of the attempt. -/
theorem conclude_run (p : Program (Result Action)) (key : String) :
    ((p >>= i.conclude key).run handle s own).1 = (p.run handle s own).1 := by
  rw [Program.run_bind, Instance.conclude]
  split <;> rfl

/-- What comes behind an attempt changes what is remembered and nothing else. -/
theorem conclude_run_stores (p : Program (Result Action)) (key : String) :
    ((p >>= i.conclude key).run handle s own).2.1 = (p.run handle s own).2.1 := by
  rw [Program.run_bind, Instance.conclude]
  split <;> rfl

theorem conclude_run_metrics (p : Program (Result Action)) (key : String) :
    ((p >>= i.conclude key).run handle s own).2.2.metrics =
      (p.run handle s own).2.2.metrics := by
  rw [Program.run_bind, Instance.conclude]
  split <;> rfl

/-- Either attempt at an instance at hand ends as its account allows. -/
theorem exists_account (attempt : p = i.apply ∨ p = i.cleanup) (s : σ) (own : ControllerState) :
    ∃ (ready : Bool × Reason) (a : Account), a.Matches (p.answers handle s own) ∧
      a.Ends i ready (p.run handle s own).1 := by
  rcases attempt with rfl | rfl
  · exact ⟨_, exists_account_of_conforms (Account.apply_conforms i) s own⟩
  · exact ⟨_, exists_account_of_conforms (Account.cleanup_conforms i) s own⟩

/-- An attempt at the stored version of an instance fails as the attempt at that version does. -/
theorem exists_attempt {namespaceName name : String} {cause : Error}
    (failed : cause ∈ causes ((reconcileKey namespaceName name).answers handle s own)) :
    ∃ (i : Instance) (p : Program (Result Action)) (s' : σ), (p = i.apply ∨ p = i.cleanup) ∧
      (reconcileKey namespaceName name).answers handle s own =
        ⟨.getInstance namespaceName name, .ok (some i)⟩ :: p.answers handle s' own ∧
      ((reconcileKey namespaceName name).run handle s own).1 = (p.run handle s' own).1 := by
  rw [reconcileKey_eq, Program.answers_request] at failed ⊢
  rw [Program.run_request]
  generalize handle (.getInstance namespaceName name) s = answered at failed ⊢
  obtain ⟨answer, s'⟩ := answered
  rcases answer with e | _ | i
  · cases failed
  · cases failed
  · refine ⟨i, if i.phase = .deleting then i.cleanup else i.apply, s', ?_, ?_, ?_⟩
    · split
      · exact .inr rfl
      · exact .inl rfl
    · rw [conclude_answers]
    · rw [conclude_run]

/-- An attempt with a failure of its document or finalizer hands it back, or why it could not be
told of. -/
theorem IsAttempt.handed_back (attempt : IsAttempt p) {cause : Error}
    (failed : cause ∈ causes (p.answers handle s own)) :
    ∃ handed, (p.run handle s own).1 = .error handed ∧
      (unreported (p.answers handle s own) = [] ∧ handed = cause ∨
        unreported (p.answers handle s own) = [handed]) := by
  have atHand : ∀ {i : Instance} {p : Program (Result Action)} {s : σ}, p = i.apply ∨ p = i.cleanup →
      cause ∈ causes (p.answers handle s own) → ∃ handed, (p.run handle s own).1 = .error handed ∧
        (unreported (p.answers handle s own) = [] ∧ handed = cause ∨
          unreported (p.answers handle s own) = [handed]) := by
    intro i p s attempt failed
    obtain ⟨ready, a, matched, ends⟩ := exists_account attempt s own
    rw [← matched.causes] at failed
    rw [← matched.unreported]
    cases result : (p.run handle s own).1 with
    | ok action =>
      rw [result] at ends
      simp [ends.1] at failed
    | error handed =>
      rw [result] at ends
      refine ⟨handed, rfl, ?_⟩
      cases ends with
      | status empty => simp [empty] at failed
      | cause found only reported =>
        rw [only, List.mem_singleton] at failed
        exact failed ▸ reported
  cases attempt with
  | apply i => exact atHand (.inl rfl) failed
  | cleanup i => exact atHand (.inr rfl) failed
  | stored namespaceName name =>
    obtain ⟨i, p, s', attempt, answers, run⟩ := exists_attempt failed
    rw [answers] at failed ⊢
    rw [run]
    exact atHand attempt failed

/-- A retry goes by the error that the attempt hands back. -/
theorem run_retryFrom (maxAttempts number : UInt32) (namespaceName name : String) {s' : σ}
    {own' : ControllerState} {handed : Error}
    (failed : (reconcileKey namespaceName name).run handle s own = (.error handed, s', own')) :
    (retryFrom maxAttempts number namespaceName name).run handle s own =
      if number < maxAttempts ∧ handed.isConflict = true then
        (retryFrom maxAttempts (number + 1) namespaceName name).run handle s' own'
      else (.error handed, s', own') := by
  rw [retryFrom_eq, Program.run_bind, failed]
  exact apply_ite (fun p : Program (Result Action) => p.run handle s' own') _ _ _

end Run

/-! ## Reports -/

/-- An attempt that hands an error back has warned about its instance, or else the only failure was
that of a status that was to tell of none. -/
theorem warned_iff_cause {σ : Type} {handle : Handler σ} {i : Instance}
    {p : Program (Result Action)} (attempt : p = i.apply ∨ p = i.cleanup) (s : σ)
    (own : ControllerState) (named : keepNames (p.answers handle s own) = true) {handed : Error}
    (failed : (p.run handle s own).1 = .error handed) :
    i.key ∈ warned (p.answers handle s own) ↔ causes (p.answers handle s own) ≠ [] := by
  obtain ⟨ready, a, matched, ends⟩ := exists_account attempt s own
  rw [failed] at ends
  rw [← matched.warned, ← matched.causes]
  cases ends with
  | status empty _ silent => simp [empty, silent]
  | cause cause only _ told => simp [only, told (matched.named.trans named)]

/-- A first attempt that cannot read the document warns about its instance. -/
theorem warned_iff_cause_of_unread :
    ∃ (t : Trial) (i : Instance) (handed : Error),
      t.cluster.instances.lookup "foo@bar" = some i ∧
      keepNames (i.apply.answers Trial.handle t {}) = true ∧
      (i.apply.run Trial.handle t {}).1 = .error handed ∧
      i.key ∈ warned (i.apply.answers Trial.handle t {}) := by
  let t : Trial := .failing (.created "a") fun
    | .getDocument => [some (.other "refused")]
    | _ => []
  let i : Instance := (Instance.newborn "foo" "a").numbered 1
  have named : keepNames (i.apply.answers Trial.handle t {}) = true := by decide +kernel
  have failed : (i.apply.run Trial.handle t {}).1 = .error (.other "refused") := by decide +kernel
  exact ⟨t, i, .other "refused", rfl, named, failed,
    (warned_iff_cause (.inl rfl) t {} named failed).2 (by decide +kernel)⟩

/-- A first attempt whose first status cannot be written fails without any warning. -/
theorem failure_without_warning :
    ∃ (t : Trial) (i : Instance) (handed : Error),
      t.cluster.instances.lookup "foo@bar" = some i ∧
      (i.apply.run Trial.handle t {}).1 = .error handed ∧
      warned (i.apply.answers Trial.handle t {}) = [] := by
  let t : Trial := .failing (.created "a") fun
    | .updateStatus => [some (.other "refused")]
    | _ => []
  let i : Instance := (Instance.newborn "foo" "a").numbered 1
  exact ⟨t, i, .other "refused", rfl, by decide +kernel, by decide +kernel⟩

/-! ## Causes -/

/-- What an attempt hands back is the failure of its document or finalizer exactly if no status
failed otherwise that was to tell of it, and what is handed back decides whether it is retried and
what is done about the instance. -/
theorem cause_handed_back {σ : Type} {handle : Handler σ} {p : Program (Result Action)}
    (attempt : IsAttempt p) (s : σ) (own : ControllerState) {cause : Error}
    (failed : cause ∈ causes (p.answers handle s own)) :
    ∃ handed s' own', p.run handle s own = (.error handed, s', own') ∧
      (handed = cause ↔ ∀ e ∈ unreported (p.answers handle s own), e = cause) ∧
      (handed ≠ cause → unreported (p.answers handle s own) = [handed]) ∧
      (∀ maxAttempts number namespaceName name, p = reconcileKey namespaceName name →
        (retryFrom maxAttempts number namespaceName name).run handle s own =
          if number < maxAttempts ∧ handed.isConflict = true then
            (retryFrom maxAttempts (number + 1) namespaceName name).run handle s' own'
          else (.error handed, s', own')) ∧
      ∀ told, (errorPolicy told handed).run handle s' own' =
        (handed.action, s', (own'.answer (.count (.failed told.key handed.label))).2) := by
  obtain ⟨handed, ended, why⟩ := attempt.handed_back failed
  generalize ran : p.run handle s own = after at ended
  obtain ⟨result, s', own'⟩ := after
  obtain rfl : result = .error handed := ended
  refine ⟨handed, s', own', rfl, ?_, ?_, ?_, fun told => rfl⟩
  · rcases why with ⟨empty, rfl⟩ | only
    · simp [empty]
    · simp [only]
  · rcases why with ⟨empty, rfl⟩ | only
    · exact fun other => absurd rfl other
    · exact fun _ => only
  · rintro maxAttempts number namespaceName name rfl
    exact run_retryFrom maxAttempts number namespaceName name ran

/-- An attempt that loses a race for its document is made again. -/
theorem cause_handed_back_of_race :
    ∃ (t t' : Trial) (own : ControllerState) (cause : Error), cause.isConflict = true ∧
      (reconcileKey "bar" "foo").run Trial.handle t {} = (.error cause, t', own) ∧
      (reconcileWithRetry {} "bar" "foo").run Trial.handle t {} =
        (retryFrom 3 2 "bar" "foo").run Trial.handle t' own := by
  let t : Trial := .failing (.created "a") fun
    | .createDocument => [some (.alreadyExists "ksm@bar")]
    | _ => []
  have failed : .alreadyExists "ksm@bar" ∈
      causes ((reconcileKey "bar" "foo").answers Trial.handle t {}) := by decide +kernel
  have reported : unreported ((reconcileKey "bar" "foo").answers Trial.handle t {}) = [] := by
    decide +kernel
  obtain ⟨handed, t', own, ran, same, -, again, -⟩ :=
    cause_handed_back (.stored "bar" "foo") t {} failed
  obtain rfl : handed = .alreadyExists "ksm@bar" := same.2 (by simp [reported])
  exact ⟨t, t', own, _, rfl, ran, again 3 1 "bar" "foo" rfl⟩

/-- If the status that was to tell of a lost race cannot be written, the attempt is not made again,
and the instance is left for longer. -/
theorem race_lost_for_good :
    ∃ (t : Trial) (cause handed : Error),
      cause ∈ causes ((reconcileKey "bar" "foo").answers Trial.handle t {}) ∧
      cause.isConflict = true ∧
      ((reconcileKey "bar" "foo").run Trial.handle t {}).1 = .error handed ∧ handed ≠ cause ∧
      (reconcileWithRetry {} "bar" "foo").run Trial.handle t {} =
        (reconcileKey "bar" "foo").run Trial.handle t {} ∧
      handed.action ≠ cause.action := by
  let t : Trial := .failing (.created "a") fun
    | .createDocument => [some (.alreadyExists "ksm@bar")]
    | .updateStatus => [none, some (.other "refused")]
    | _ => []
  have failed : ((reconcileKey "bar" "foo").run Trial.handle t {}).1 = .error (.other "refused") := by
    decide +kernel
  refine ⟨t, .alreadyExists "ksm@bar", .other "refused", by decide +kernel, rfl, failed, by decide,
    ?_, by decide⟩
  generalize ran : (reconcileKey "bar" "foo").run Trial.handle t {} = after at failed
  obtain ⟨result, t', own⟩ := after
  obtain rfl : result = .error (.other "refused") := failed
  exact (run_retryFrom 3 1 "bar" "foo" ran).trans (if_neg (by decide))

end StateMetrics
