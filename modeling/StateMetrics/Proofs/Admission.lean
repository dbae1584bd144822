import Mathlib.Data.List.Basic
import Mathlib.Data.List.Induction
import StateMetrics.Admission.Scope
import StateMetrics.Proofs.Run.Answers

/-!
# What admission remembers

Admission is asked about versions of instances, and told which of them were reconciled and which
instances to forget. Between two such calls the labels of namespaces may change and lookups may
begin to fail. One call changes what is remembered of one key at most (`lookup_seen_call`); so the
version that is remembered is the argument of the last call that told one, unless a later call of
the key had it forgotten (`lookup_seen_iff`), and an answer depends on that version and on the
labels at the moment of the call only (`admits_iff_of_history`).
-/

namespace StateMetrics

variable {σ : Type} {handle : Handler σ} {scope : Scope} {s : σ} {own : ControllerState}

/-! ## One call -/

/-- What a reconciliation looks at is not the same in two versions of an instance. -/
def Instance.DiffersFrom (last version : Instance) : Prop :=
  last.metadata.generation ≠ version.metadata.generation ∨
    last.metadata.labelMap ≠ version.metadata.labelMap ∨
    last.metadata.finalizerList ≠ version.metadata.finalizerList

namespace Scope

/-- The labels of an instance match the selector, if there is one. Those of its namespace match the
other, if there is one: the lookup succeeds and finds the namespace. -/
def Covers (scope : Scope) (handle : Handler σ) (s : σ) (version : Instance) : Prop :=
  (∀ selector, scope.selector = some selector →
    selector.selects version.metadata.labelMap = true) ∧
  ∀ selector, scope.namespaceSelector = some selector →
    ∃ labels, (handle (.namespaceLabels version.metadata.namespaceName) s).1 = .ok (some labels) ∧
      selector.selects labels = true

/-- A version tells of a change if the instance is being deleted, or was not known, or differs from
what was known in anything that a reconciliation looks at. -/
theorem changed_notification_iff (last : Option Instance) (version : Instance) :
    (notification last version).changed = true ↔
      version.isDeleting = true ∨ last = none ∨ ∃ v, last = some v ∧ v.DiffersFrom version := by
  cases deleting : version.isDeleting with
  | true => simp [notification, deleting, Notification.changed, Notification.generationChanged]
  | false =>
    cases last with
    | none => simp [notification, deleting, Notification.changed, Notification.generationChanged]
    | some v =>
      simp [notification, deleting, Notification.changed, Notification.generationChanged,
        Notification.labelsChanged, Notification.finalizersChanged, Instance.DiffersFrom, or_assoc]

/-- Whether an instance is in scope is a matter of its labels and of one lookup. -/
theorem run_includes (scope : Scope) (handle : Handler σ) (s : σ) (own : ControllerState)
    (version : Instance) :
    (((scope.includes version.metadata).run handle s own).1 = true ↔
      scope.Covers handle s version) ∧
    ((scope.includes version.metadata).run handle s own).2.2 = own := by
  have own_eq : selectorMatches scope.selector version.metadata.labelMap = true ↔
      ∀ selector, scope.selector = some selector →
        selector.selects version.metadata.labelMap = true := by
    rw [selectorMatches, Option.all_eq_true]
  rw [includes, Covers, ← own_eq]
  cases selectorMatches scope.selector version.metadata.labelMap with
  | false => simp
  | true =>
    rw [if_pos rfl]
    cases scope.namespaceSelector with
    | none => simp [namespaceMatches]
    | some selector =>
      simp only [namespaceMatches, Program.send, Program.request_bind, Program.done_bind,
        Program.run_request, true_and, Option.some.injEq, forall_eq']
      generalize (handle (.namespaceLabels version.metadata.namespaceName) s).1 = answer
      rcases answer with error | _ | labels
      · refine ⟨⟨fun never => absurd never Bool.false_ne_true, ?_⟩, rfl⟩
        rintro ⟨_, never, _⟩
        cases never
      · refine ⟨⟨fun never => absurd never Bool.false_ne_true, ?_⟩, rfl⟩
        rintro ⟨_, never, _⟩
        cases never
      · refine ⟨⟨fun selects => ⟨labels, rfl, selects⟩, ?_⟩, rfl⟩
        rintro ⟨_, same, selects⟩
        cases same
        exact selects

/-- A version is admitted if it tells of a change and is in scope. It is forgotten if it tells of a
change and is not. -/
theorem run_admitInstance (scope : Scope) (handle : Handler σ) (s : σ) (own : ControllerState)
    (version : Instance) :
    let run := (scope.admitInstance version).run handle s own
    (run.1 = true ↔ scope.Covers handle s version ∧
      (notification (own.seen.lookup version.key) version).changed = true) ∧
    (run.2.2 = own ∧ ((notification (own.seen.lookup version.key) version).changed = true →
        scope.Covers handle s version) ∨
      run.2.2 = (own.answer (.forget version.key)).2 ∧
        (notification (own.seen.lookup version.key) version).changed = true ∧
        ¬ scope.Covers handle s version) := by
  intro run
  obtain ⟨covers, same⟩ := scope.run_includes handle s own version
  have recalled : run = ((if (notification (own.seen.lookup version.key) version).changed then do
      let admitted ← scope.includes version.metadata
      if !admitted then Program.inquire (.forget version.key)
      pure admitted
    else pure false : Program Bool).run handle s own) := rfl
  by_cases changed : (notification (own.seen.lookup version.key) version).changed = true
  · rw [if_pos changed, Program.run_bind, same] at recalled
    cases included : ((scope.includes version.metadata).run handle s own).1 with
    | false =>
      rw [included] at covers recalled
      have outside : ¬ scope.Covers handle s version := fun inside => nomatch covers.2 inside
      rw [recalled]
      exact ⟨⟨fun never => absurd never Bool.false_ne_true, fun both => absurd both.1 outside⟩,
        .inr ⟨rfl, changed, outside⟩⟩
    | true =>
      rw [included] at covers recalled
      have inside := covers.1 rfl
      rw [recalled]
      exact ⟨⟨fun _ => ⟨inside, changed⟩, fun _ => rfl⟩, .inl ⟨rfl, fun _ => inside⟩⟩
  · rw [if_neg changed] at recalled
    rw [recalled]
    exact ⟨⟨fun never => absurd never Bool.false_ne_true, fun both => absurd both.2 changed⟩,
      .inl ⟨rfl, fun yes => absurd yes changed⟩⟩

end Scope

/-! ## Many calls -/

/-- A call to admission. -/
inductive AdmissionCall where
  /-- Asks whether the version deserves a reconciliation. -/
  | ask (version : Instance)
  /-- Tells that the version was reconciled. -/
  | remember (version : Instance)
  /-- Tells that no version of the instance of the key was reconciled. -/
  | forget (key : String)

namespace AdmissionCall

/-- What the controller runs for a call. -/
def program (scope : Scope) : AdmissionCall → Program Unit
  | ask version => do
    let _ ← scope.admitInstance version
  | remember version => Program.inquire (.remember version)
  | forget key => Program.inquire (.forget key)

/-- The call, made while the stores are as given, leaves this version remembered: it tells no other
version of the instance, does not have it forgotten, and does not find that the instance has changed
and is out of scope. -/
def Keeps (scope : Scope) (handle : Handler σ) (s : σ) (last : Instance) : AdmissionCall → Prop
  | ask version => version.key = last.key →
    version.isDeleting = true ∨ last.DiffersFrom version → scope.Covers handle s version
  | remember version => version.key ≠ last.key
  | forget key => key ≠ last.key

end AdmissionCall

/-- Calls to admission in turn, each with the state of the stores at its moment. -/
abbrev AdmissionHistory (σ : Type) := List (AdmissionCall × σ)

namespace AdmissionHistory

/-- The controller's own state after the calls. -/
def after (scope : Scope) (handle : Handler σ) (own : ControllerState)
    (history : AdmissionHistory σ) : ControllerState :=
  history.foldl (fun own call => ((call.1.program scope).run handle call.2 own).2.2) own

/-- The version was told of the instance of the key, and all calls since then left it remembered. -/
def Remembers (scope : Scope) (handle : Handler σ) (history : AdmissionHistory σ) (key : String)
    (last : Instance) : Prop :=
  ∃ before s since, history = before ++ (.remember last, s) :: since ∧ last.key = key ∧
    ∀ call ∈ since, call.1.Keeps scope handle call.2 last

variable {history : AdmissionHistory σ} {call : AdmissionCall} {key : String} {last : Instance}

theorem after_concat : after scope handle own (history ++ [(call, s)]) =
    ((call.program scope).run handle s (after scope handle own history)).2.2 := by
  rw [after, List.foldl_append]
  rfl

theorem key_of_remembers (remembers : history.Remembers scope handle key last) :
    last.key = key :=
  have ⟨_, _, _, _, same, _⟩ := remembers
  same

/-- What is remembered after one more call was told by it, or was remembered before and kept. -/
theorem remembers_concat_iff : Remembers scope handle (history ++ [(call, s)]) key last ↔
    call = .remember last ∧ last.key = key ∨
      history.Remembers scope handle key last ∧ call.Keeps scope handle s last := by
  constructor
  · rintro ⟨before, s', since, whole, same, kept⟩
    rcases List.eq_nil_or_concat' since with rfl | ⟨since, final, rfl⟩
    · have lasts := (List.append_inj' whole rfl).2
      simp only [List.cons.injEq, Prod.mk.injEq, and_true] at lasts
      exact .inl ⟨lasts.1, same⟩
    · rw [← List.cons_append, ← List.append_assoc] at whole
      obtain ⟨rfl, lasts⟩ := List.append_inj' whole rfl
      obtain rfl : (call, s) = final := List.singleton_inj.1 lasts
      exact .inr ⟨⟨before, s', since, rfl, same, fun c mem => kept c (by simp [mem])⟩,
        kept (call, s) (by simp)⟩
  · rintro (⟨rfl, same⟩ | ⟨⟨before, s', since, rfl, same, kept⟩, keeps⟩)
    · exact ⟨history, s, [], rfl, same, fun _ never => nomatch never⟩
    · refine ⟨before, s', since ++ [(call, s)], by simp, same, fun c mem => ?_⟩
      rcases List.mem_append.1 mem with earlier | now
      · exact kept c earlier
      · rw [List.mem_singleton.1 now]
        exact keeps

section Keyed

variable (keyed : ∀ key v, own.seen.lookup key = some v → v.key = key)

include keyed

/-- After a version is told, it is remembered for its own key, and the others are as before. -/
theorem lookup_told_iff {version : Instance} :
    (own.answer (.remember version)).2.seen.lookup key = some last ↔
      version = last ∧ last.key = key ∨ own.seen.lookup key = some last ∧ version.key ≠ last.key := by
  show (NameMap.insert version.key version own.seen).lookup key = some last ↔ _
  by_cases same : key = version.key
  · subst same
    rw [NameMap.lookup_insert_self, Option.some_inj]
    constructor
    · rintro rfl
      exact .inl ⟨rfl, rfl⟩
    · rintro (⟨told, -⟩ | ⟨before, other⟩)
      · exact told
      · exact absurd (keyed _ _ before).symm other
  · rw [NameMap.lookup_insert_of_ne same]
    constructor
    · intro before
      exact .inr ⟨before, fun own => same ((keyed _ _ before).symm.trans own.symm)⟩
    · rintro (⟨rfl, isKey⟩ | ⟨before, -⟩)
      · exact absurd isKey.symm same
      · exact before

/-- After a key is forgotten, the others are as before. -/
theorem lookup_forgotten_iff {forgotten : String} :
    (own.answer (.forget forgotten)).2.seen.lookup key = some last ↔
      own.seen.lookup key = some last ∧ forgotten ≠ last.key := by
  show (NameMap.erase forgotten own.seen).lookup key = some last ↔ _
  by_cases same : key = forgotten
  · subst same
    rw [NameMap.lookup_erase_self]
    constructor
    · intro never
      cases never
    · rintro ⟨before, other⟩
      exact absurd (keyed _ _ before).symm other
  · rw [NameMap.lookup_erase_of_ne same]
    constructor
    · intro before
      exact ⟨before, fun own => same ((keyed _ _ before).symm.trans own.symm)⟩
    · exact And.left

/-- A question leaves remembered what it keeps, and nothing new. -/
theorem lookup_asked_iff {version : Instance} :
    ((scope.admitInstance version).run handle s own).2.2.seen.lookup key = some last ↔
      own.seen.lookup key = some last ∧ (AdmissionCall.ask version).Keeps scope handle s last := by
  obtain ⟨-, ⟨same, covered⟩ | ⟨forgotten, changed, outside⟩⟩ :=
    scope.run_admitInstance handle s own version
  · rw [same]
    constructor
    · intro before
      refine ⟨before, fun own differs => covered ((Scope.changed_notification_iff ..).2 ?_)⟩
      rw [own, keyed _ _ before, before]
      exact differs.imp_right fun differs => .inr ⟨last, rfl, differs⟩
    · exact And.left
  · rw [forgotten, lookup_forgotten_iff keyed]
    refine and_congr_right fun before => ⟨fun other own => absurd own other, fun kept own => ?_⟩
    -- A version of the same key that tells of a change would have to be in scope.
    refine outside (kept own ?_)
    rw [Scope.changed_notification_iff, own, keyed _ _ before, before] at changed
    refine changed.imp_right fun known => ?_
    obtain never | ⟨v, same, differs⟩ := known
    · cases never
    · exact Option.some.inj same ▸ differs

/-- What is remembered of a key after a call was told by it, or was remembered before and kept. -/
theorem lookup_seen_call :
    ((call.program scope).run handle s own).2.2.seen.lookup key = some last ↔
      call = .remember last ∧ last.key = key ∨
        own.seen.lookup key = some last ∧ call.Keeps scope handle s last := by
  cases call with
  | remember version =>
    rw [AdmissionCall.remember.injEq]
    exact lookup_told_iff keyed
  | forget forgotten =>
    have untold : AdmissionCall.forget forgotten ≠ .remember last := fun never => nomatch never
    simp only [untold, false_and, false_or]
    exact lookup_forgotten_iff keyed
  | ask version =>
    have untold : AdmissionCall.ask version ≠ .remember last := fun never => nomatch never
    have asked : (((AdmissionCall.ask version).program scope).run handle s own).2.2 =
        ((scope.admitInstance version).run handle s own).2.2 := by
      rw [AdmissionCall.program, Program.run_bind]
      rfl
    simp only [untold, false_and, false_or]
    rw [asked, lookup_asked_iff keyed]

end Keyed

/-- The version that is looked up after some calls is the one that they have remembered. -/
theorem lookup_seen_iff (scope : Scope) (handle : Handler σ) (own : ControllerState)
    (history : AdmissionHistory σ) (key : String) (last : Instance) :
    (after scope handle { own with seen := [] } history).seen.lookup key = some last ↔
      history.Remembers scope handle key last := by
  induction history using List.reverseRecOn generalizing key last with
  | nil =>
    constructor
    · intro never
      cases never
    · rintro ⟨before, s, since, never, -⟩
      simp at never
  | append_singleton history call ih =>
    obtain ⟨call, s⟩ := call
    have keyed (key v) (before : (after scope handle { own with seen := [] } history).seen.lookup key =
        some v) : v.key = key := key_of_remembers ((ih key v).1 before)
    rw [after_concat, remembers_concat_iff, ← ih, lookup_seen_call keyed]

/-- After any calls, with whatever happened to the namespaces in between: a version is admitted
exactly if it is in scope, and the instance is being deleted, or no version of it is remembered, or
the one that is differs from it in generation, labels or finalizers. The version remembered of a key
is the one told last, where no call since then had it forgotten. -/
theorem admits_iff_of_history (scope : Scope) (handle : Handler σ) (own : ControllerState)
    (history : AdmissionHistory σ) :
    let now := after scope handle { own with seen := [] } history
    (∀ version s, ((scope.admitInstance version).run handle s now).1 = true ↔
      scope.Covers handle s version ∧
        (version.isDeleting = true ∨
          (∀ last, ¬ history.Remembers scope handle version.key last) ∨
          ∃ last, history.Remembers scope handle version.key last ∧ last.DiffersFrom version)) ∧
    ∀ key last, now.seen.lookup key = some last ↔ history.Remembers scope handle key last := by
  intro now
  have remembered := lookup_seen_iff scope handle own history
  refine ⟨fun version s => ?_, remembered⟩
  rw [(scope.run_admitInstance handle s now version).1, Scope.changed_notification_iff]
  simp only [← remembered, Option.eq_none_iff_forall_ne_some]
  rfl

end AdmissionHistory

end StateMetrics
