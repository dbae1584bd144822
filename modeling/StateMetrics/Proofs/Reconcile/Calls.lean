import StateMetrics.Proofs.Reconcile.Failure
import StateMetrics.Proofs.Run.Story

/-!
# Calls of the controller

The controller calls `reconcile` for every version of an instance that it is told of. A call is weighed
first: it may be dropped, or it is admitted and makes attempts, the last of which decides what is
remembered of it. The conduct says what may be asked and requested in between, and when a version may
be remembered: the very version that the attempt has read, and only if all was done that there was to
do about it (`Watch.reconcile_conforms`).
-/

namespace StateMetrics

/-! ## What a story tells of a call -/

/-- What is told of a call that was admitted. -/
structure Call where
  /-- The version that its last attempt has read, if it has found one. -/
  read : Option Instance := none
  /-- The stores when its last attempt was last answered about its document. -/
  document : Option Stores := none
  result : Option (Result Action) := none

/-- The call after one more answer, with the stores after it. -/
def Call.after (c : Call) : (r : Request) → r.Answer → Stores → Call
  | .getInstance .., .ok found, _ => { c with read := found, document := none }
  | .getInstance .., .error _, _ => { c with read := none, document := none }
  | .getDocument _, _, stores => { c with document := some stores }
  | .createDocument _, _, stores => { c with document := some stores }
  | .updateDocument _, _, stores => { c with document := some stores }
  | _, _, _ => c

/-- The call that was last admitted, after one more deed. It is admitted where it is counted as begun,
and what its attempt ends with first is its result: later calls that are dropped end as well. -/
def Deed.note (last : Option Call) : Deed (Result Action) → Option Call
  | .begun _ => last
  | .asked (.count .runStarted) _ => some {}
  | .asked _ _ => last
  | .answered r answer stores => last.map (·.after r answer stores)
  | .ended result => last.map fun c => { c with result := c.result.or (some result) }

section LastCall

variable {κ : Type} [DecidableEq κ] {a b : κ}

/-- The call that was last admitted for an instance. -/
def lastCall (a : κ) (story : List (κ × Deed (Result Action))) : Option Call :=
  (story.filter (·.1 = a)).foldl (fun last d => d.2.note last) none

theorem lastCall_concat_self (story : List (κ × Deed (Result Action))) (d : Deed (Result Action)) :
    lastCall a (story ++ [(a, d)]) = d.note (lastCall a story) := by
  simp [lastCall, List.filter_append]

theorem lastCall_concat_of_ne (other : b ≠ a) (story : List (κ × Deed (Result Action)))
    (d : Deed (Result Action)) : lastCall b (story ++ [(a, d)]) = lastCall b story := by
  simp [lastCall, List.filter_append, other.symm]

end LastCall

/-! ## The conduct of a call -/

/-- Where a call stands. -/
inductive Watch where
  /-- It was not admitted so far, or it is over. -/
  | weighing
  /-- Its attempt has read this, and stands here. -/
  | attempting (read : Option Instance) (g : Standing)
  /-- What its attempt has come to: this version is remembered, or none. -/
  | decided (kept : Option Instance)

namespace Watch

/-- Another attempt may begin. -/
def Begins : Watch → Prop
  | attempting read g => read = none ∧ g = .outset
  | decided kept => kept = none
  | weighing => False

/-- An attempt may end here with the result. -/
def Concludes (w : Watch) (result : Result Action) : Prop :=
  (∃ kept, w = decided kept ∧ (kept.isSome = true → result.isOk = true)) ∨
    w = attempting none .outset ∧ result.isOk = false

/-- A call may end here with the result. -/
def Ends (w : Watch) (result : Result Action) : Prop :=
  match w with
  | weighing => True
  | attempting .. => False
  | decided kept => kept.isSome = true → result.isOk = true

end Watch

/-- How calls for the instance of a name are made. -/
def watchConduct (n : InstanceName) : Conduct Watch where
  permits
    | .weighing, r => ∃ name, r = .namespaceLabels name
    | .attempting _ g, r => (courseConduct .run n).permits g r
    | .decided kept, r => kept = none ∧ r = .getInstance n.namespaceName n.name
  after
    | .weighing, _, _ => .weighing
    | _, .getInstance .., .ok found => .attempting found (.ofFound found)
    | _, .getInstance .., .error _ => .attempting none .outset
    | .attempting read g, r, answer => .attempting read ((courseConduct .run n).after g r answer)
    | .decided kept, _, _ => .decided kept
  allows
    | .weighing, q => q = .lastSeen n.key ∨ q = .forget n.key ∨ q = .count .runStarted
    | .attempting read g, .remember version =>
      read = some version ∧ version.isDeleting = false ∧ g.Done
    | .attempting .., q => q = .forget n.key ∨ q.frames = false
    | .decided kept, q => q = .count .runFinished ∨ kept = none ∧ q = .forget n.key
  told
    | .weighing, .count .runStarted, _ => .attempting none .outset
    | .attempting .., .remember version, _ => .decided (some version)
    | .attempting .., .forget _, _ => .decided none
    | .attempting read g, q, answer => .attempting read ((courseConduct .run n).told g q answer)
    | w, _, _ => w

namespace Watch

open Program

variable {n : InstanceName} {i : Instance} {w : Watch}

/-- A call forgets nothing but what is remembered of its own instance. -/
theorem key_of_forget {key : String} (allowed : (watchConduct n).allows w (.forget key)) :
    key = n.key := by
  cases w with
  | weighing =>
    rcases allowed with never | same | never
    · cases never
    · exact Question.forget.inj same
    · cases never
  | attempting =>
    rcases allowed with same | never
    · exact Question.forget.inj same
    · cases never
  | decided =>
    rcases allowed with never | ⟨-, same⟩
    · cases never
    · exact Question.forget.inj same

/-- What is done about a version that was read, from what is known of its course and of what it
asks. -/
theorem lift_conforms {p : Program (Result Action)} {ready : Bool × Reason}
    (course : p.Conforms (courseConduct .run n) Standing.Ends (.under ⟨i, i, .unread, .untouched⟩))
    (account : p.Conforms accountConduct (Account.Ends i ready) { hand := i }) :
    p.Conforms (watchConduct n)
      (fun w result => ∃ g, w = attempting (some i) g ∧ g.Ends result)
      (attempting (some i) (.under ⟨i, i, .unread, .untouched⟩)) := by
  refine Conforms.lift (C := (courseConduct .run n).both accountConduct)
    (fun g : Standing × Account => attempting (some i) g.1)
    (fun g r permitted => permitted.1) (fun g r answer permitted => ?_)
    (fun g q allowed => ?_) (fun g q answer allowed => ?_)
    (fun g result ends => ⟨g.1, rfl, ends.1⟩) (course.both account)
  · obtain ⟨-, reads⟩ := permitted
    cases r with
    | getInstance => exact reads.elim
    | _ => rfl
  · obtain ⟨-, quiet⟩ := allowed
    cases q with
    | remember => cases quiet
    | _ => exact .inr quiet
  · obtain ⟨-, quiet⟩ := allowed
    cases q with
    | remember | forget => cases quiet
    | _ => rfl

/-- An attempt at a version that was read does all that there is to do, or fails. -/
theorem attempt_conforms (i : Instance) :
    (if i.phase = .deleting then i.cleanup else i.apply).Conforms (watchConduct n)
      (fun w result => ∃ g, w = attempting (some i) g ∧ g.Ends result)
      (attempting (some i) (.under ⟨i, i, .unread, .untouched⟩)) := by
  split
  · next goes => exact lift_conforms (Course.cleanup_conforms goes).course (Account.cleanup_conforms i)
  · next stays => exact lift_conforms (Course.apply_conforms stays).course (Account.apply_conforms i)

/-- Where an attempt may begin it may read, and from then on it is about what it has read. -/
theorem Begins.read (begins : w.Begins) :
    (watchConduct n).permits w (.getInstance n.namespaceName n.name) ∧
      (∀ error, (watchConduct n).after w (.getInstance n.namespaceName n.name) (.error error) =
        attempting none .outset) ∧
      ∀ found, (watchConduct n).after w (.getInstance n.namespaceName n.name) (.ok found) =
        attempting found (.ofFound found) := by
  cases w with
  | weighing => exact begins.elim
  | attempting read g =>
    obtain ⟨rfl, rfl⟩ := begins
    exact ⟨⟨rfl, .inl rfl, rfl⟩, fun _ => rfl, fun _ => rfl⟩
  | decided kept => exact ⟨⟨begins, rfl⟩, fun _ => rfl, fun _ => rfl⟩

/-- An attempt that may begin reads its instance, keeps to the course of attempts, and remembers
only what it has succeeded with. -/
theorem reconcileKey_conforms (begins : w.Begins) :
    (reconcileKey n.namespaceName n.name).Conforms (watchConduct n) Concludes w := by
  obtain ⟨permitted, failed, found⟩ := begins.read (n := n)
  rw [reconcileKey_eq]
  refine ⟨permitted, fun answer => ?_⟩
  rcases answer with error | _ | i
  · rw [failed]
    exact .inr ⟨rfl, rfl⟩
  · rw [found]
    exact ⟨.inl rfl, fun _ => .inl ⟨none, rfl, fun never => nomatch never⟩⟩
  · rw [found]
    refine (attempt_conforms i).bind ?_
    rintro _ result ⟨g, rfl, ends⟩
    rw [Instance.conclude]
    split
    · next kept =>
      -- The attempt succeeded at a version that is to stay.
      rw [Bool.and_eq_true, Bool.not_eq_true'] at kept
      obtain ⟨action, rfl⟩ : ∃ action, result = .ok action := by
        rcases result with error | action
        · cases kept.1
        · exact ⟨action, rfl⟩
      exact ⟨⟨rfl, kept.2, ends.2 action rfl⟩, fun _ => .inl ⟨some i, rfl, fun _ => rfl⟩⟩
    · exact ⟨.inl rfl, fun _ => .inl ⟨none, rfl, fun never => nomatch never⟩⟩

theorem Concludes.begins {error : Error} (concludes : w.Concludes (.error error)) : w.Begins := by
  rcases concludes with ⟨kept, rfl, remembered⟩ | ⟨rfl, -⟩
  · cases kept with
    | none => exact rfl
    | some version => cases remembered rfl
  · exact ⟨rfl, rfl⟩

/-- Attempts one after another conclude like a single one: each that conflicts leaves the call where
the next may begin. -/
theorem retryFrom_conforms {maxAttempts attempt : UInt32} (begins : w.Begins) :
    (retryFrom maxAttempts attempt n.namespaceName n.name).Conforms (watchConduct n) Concludes w :=
  Conforms.retryFrom (fun _ begins => reconcileKey_conforms begins)
    (fun _ _ concludes => concludes.begins) begins

/-- A call is weighed, and if it is admitted its attempts decide what is remembered. -/
theorem reconcile_conforms (settings : Settings) {told : Instance}
    (about : n = ⟨told.metadata.namespaceName, told.metadata.anyName⟩) :
    (reconcile settings told).Conforms (watchConduct n) Ends weighing := by
  subst about
  have admission := Conforms.admitInstance
    (C := watchConduct ⟨told.metadata.namespaceName, told.metadata.anyName⟩) (g := weighing)
    settings.scope told ⟨.inl rfl, fun _ => rfl⟩ (fun name => ⟨⟨name, rfl⟩, fun _ => rfl⟩)
    ⟨.inr (.inl rfl), fun _ => rfl⟩
  refine admission.bind ?_
  rintro _ admitted rfl
  cases admitted with
  | false => exact trivial
  | true =>
    have begins : (attempting none .outset).Begins := ⟨rfl, rfl⟩
    refine ⟨.inr (.inr rfl), fun _ => ?_⟩
    refine (retryFrom_conforms begins).bind fun w result concludes => ?_
    dsimp only
    rcases result with error | action
    · have begins := concludes.begins
      cases w with
      | weighing => exact begins.elim
      | attempting read g =>
        exact ⟨.inl rfl, fun _ => ⟨.inl rfl, fun _ never => nomatch never⟩⟩
      | decided kept =>
        obtain rfl : kept = none := begins
        exact ⟨.inr ⟨rfl, rfl⟩, fun _ => ⟨.inl rfl, fun _ never => nomatch never⟩⟩
    · rcases concludes with ⟨kept, rfl, remembered⟩ | ⟨-, never⟩
      · exact ⟨.inl rfl, fun _ => remembered⟩
      · cases never

end Watch

/-- The controller calls for the instance of a name, with any version of it. -/
def Calls (settings : Settings) (n : InstanceName) (p : Program (Result Action)) : Prop :=
  ∃ told : Instance, n = ⟨told.metadata.namespaceName, told.metadata.anyName⟩ ∧
    p = reconcile settings told

theorem Calls.conforms {settings : Settings} {n : InstanceName} {p : Program (Result Action)}
    (calls : Calls settings n p) : p.Conforms (watchConduct n) Watch.Ends .weighing := by
  obtain ⟨told, about, rfl⟩ := calls
  exact Watch.reconcile_conforms settings about

end StateMetrics
