import Mathlib.Data.List.Induction
import StateMetrics.Proofs.Reconcile.Account
import StateMetrics.Proofs.Run.Execution

/-!
# The condition about readiness over time

Readiness is reported again and again while the rest of the instance is edited. A report is news if
the condition does not say the same already, of the generation that the instance has by then; any
other leaves the instance as it is. So what the condition says is what the latest news said. Its
time is older, as a rule: it is that of the latest report that flipped the status or was the first
of all (`condition_after`).
-/

namespace StateMetrics

/-- What is reported about readiness, and when. -/
structure ReadyReport where
  moment : Moment
  status : Bool
  reason : Reason
  message : String

/-- What befalls an instance: its readiness is reported, or all but its status is edited, the
generation, the finalizers and the moment of the deletion among it. -/
inductive InstanceChange where
  | reported (report : ReadyReport)
  | edited (metadata : ObjectMeta) (spec : InstanceSpec)

namespace Instance

/-- Sets the condition to what is reported; whether that was news. -/
def report (i : Instance) (r : ReadyReport) : Instance × Bool :=
  i.setReady r.moment r.status r.reason r.message

/-- The instance after a change. -/
def changed (i : Instance) : InstanceChange → Instance
  | .reported r => (i.report r).1
  | .edited metadata spec => { i with metadata, spec }

/-- The instance after some changes. -/
def after (i : Instance) (changes : List InstanceChange) : Instance := changes.foldl changed i

/-- The condition says what is reported, of the generation that the instance has. -/
def Says (i : Instance) (r : ReadyReport) : Prop :=
  ∃ c, i.ready? = some c ∧ c.status = r.status ∧ c.reason = r.reason ∧ c.message = r.message ∧
    c.observedGeneration = i.metadata.generation

/-- Whether the condition has the other status than is reported, or is not there. -/
def flippedBy (i : Instance) (r : ReadyReport) : Bool := i.ready?.all (·.status ≠ r.status)

/-- The report that a change of the instance is, with the instance, if it counts there. -/
def counted (i : Instance) (counts : Instance → ReadyReport → Bool) :
    InstanceChange → Option (ReadyReport × Instance)
  | .reported r => if counts i r then some (r, i) else none
  | .edited .. => none

/-- The latest report that counts, with the instance that it met. -/
def latest (i : Instance) (counts : Instance → ReadyReport → Bool) :
    List InstanceChange → Option (ReadyReport × Instance)
  | [] => none
  | change :: changes => ((i.changed change).latest counts changes).or (i.counted counts change)

/-- When the condition began to have its status: at the latest report that flipped it or was the
first, else when it says so to begin with. -/
def transition (i : Instance) (changes : List InstanceChange) : Option Moment :=
  match i.latest flippedBy changes with
  | some (r, _) => some r.moment
  | none => i.ready?.bind (·.lastTransition)

variable {i : Instance} {r : ReadyReport} {change : InstanceChange} {changes : List InstanceChange}
  {counts : Instance → ReadyReport → Bool}

/-! ## One report -/

/-- The condition that a report sets, if it is news: the one that is there lends it its time, unless
the status flips. -/
def renewed (i : Instance) (r : ReadyReport) : Condition :=
  { i.readyCondition r.moment r.status r.reason r.message with
    lastTransition := if i.flippedBy r then some r.moment else i.ready?.bind (·.lastTransition) }

/-- Two conditions about readiness are in one state if they agree in all but the time. -/
theorem sameState_iff {c : Condition} {moment : Moment} :
    c.sameState (i.readyCondition moment r.status r.reason r.message) = true ↔
      c.status = r.status ∧ c.reason = r.reason ∧ c.message = r.message ∧
        c.observedGeneration = i.metadata.generation := by
  have sort : c.kind = .ready := by
    cases c.kind
    rfl
  simp only [Condition.sameState, sort, Bool.and_eq_true, decide_eq_true_eq, and_assoc]
  simp only [readyCondition, true_and]

/-- A report of what the condition says already changes nothing. -/
theorem report_of_known (told : i.Says r) : i.report r = (i, false) := by
  obtain ⟨c, current, same⟩ := told
  have states : i.States r.status r.reason r.message := ⟨c, current, fun _ => sameState_iff.2 same⟩
  exact states.setReady_eq r.moment

theorem report_of_news (news : ¬ i.Says r) :
    i.report r = ({ i with status := some ⟨putCondition (i.renewed r) i.conditions⟩ }, true) := by
  rw [report, setReady, ← ready?_eq_find?, renewed, flippedBy, conditions]
  cases current : i.ready? with
  | none => rfl
  | some c =>
    have differs : ¬ c.sameState (i.readyCondition r.moment r.status r.reason r.message) = true :=
      fun same => news ⟨c, current, sameState_iff.1 same⟩
    dsimp only
    rw [if_neg differs]
    by_cases status : c.status = r.status
    · simp [readyCondition, status]
    · simp [readyCondition, status]

/-- A report is no news exactly if the condition says it already. -/
theorem report_snd_eq_false_iff : (i.report r).2 = false ↔ i.Says r := by
  refine ⟨fun old => ?_, fun told => by rw [report_of_known told]⟩
  by_contra news
  rw [report_of_news news] at old
  cases old

/-- A report of the other status is news. -/
theorem news_of_flippedBy (flips : i.flippedBy r = true) : ¬ i.Says r := by
  rintro ⟨c, current, status, -⟩
  rw [flippedBy, current] at flips
  simp [status] at flips

/-- After news the condition is the one that was set. -/
theorem ready?_report (news : ¬ i.Says r) : (i.report r).1.ready? = some (i.renewed r) := by
  rw [report_of_news news]
  exact find?_putCondition _ _

/-- A report leaves one condition where there was at most one. -/
theorem exists_status_report (single : i.conditions.length ≤ 1) (r : ReadyReport) :
    ∃ c, (i.report r).1.status = some ⟨[c]⟩ := by
  have sort : ∀ kind : ConditionKind, kind = .ready := fun kind => by cases kind; rfl
  by_cases told : i.Says r
  · rw [report_of_known told]
    obtain ⟨c, current, -⟩ := told
    rw [ready?] at current
    obtain ⟨⟨conditions⟩, status, found⟩ := Option.bind_eq_some_iff.1 current
    have one : conditions.length = 1 := by
      rw [Instance.conditions, status] at single
      have nonempty : conditions ≠ [] := List.ne_nil_of_mem (List.mem_of_find?_eq_some found)
      exact Nat.le_antisymm single (List.length_pos_iff.2 nonempty)
    obtain ⟨c, rfl⟩ := List.length_eq_one_iff.1 one
    exact ⟨c, status⟩
  · rw [report_of_news told]
    rcases many : i.conditions with _ | ⟨c, _ | ⟨c', rest⟩⟩
    · exact ⟨i.renewed r, rfl⟩
    · exact ⟨i.renewed r, by simp [putCondition, sort]⟩
    · rw [many] at single
      simp at single

/-! ## Many changes -/

theorem after_concat : i.after (changes ++ [change]) = (i.after changes).changed change := by
  rw [after, List.foldl_append]
  rfl

/-- The latest report is the last change, if it counts, else what it was. -/
theorem latest_concat : i.latest counts (changes ++ [change]) =
    ((i.after changes).counted counts change).or (i.latest counts changes) := by
  induction changes generalizing i with
  | nil => simp [latest, after]
  | cons first changes ih =>
    rw [List.cons_append, latest, ih, latest, Option.or_assoc]
    rfl

theorem length_conditions_changed (single : i.conditions.length ≤ 1) (change : InstanceChange) :
    (i.changed change).conditions.length ≤ 1 := by
  cases change with
  | reported r =>
    obtain ⟨c, status⟩ := exists_status_report single r
    rw [changed, conditions, status]
    exact le_rfl
  | edited => exact single

/-- No changes make a second condition. -/
theorem length_conditions_after (single : i.conditions.length ≤ 1) (changes : List InstanceChange) :
    (i.after changes).conditions.length ≤ 1 := by
  induction changes generalizing i with
  | nil => exact single
  | cons change changes ih => exact ih (length_conditions_changed single change)

/-- Once readiness was reported there is one condition. -/
theorem exists_status_after (single : i.conditions.length ≤ 1)
    (told : ∃ r, .reported r ∈ changes) : ∃ c, (i.after changes).status = some ⟨[c]⟩ := by
  induction changes using List.reverseRecOn with
  | nil => simp at told
  | append_singleton changes change ih =>
    rw [after_concat]
    cases change with
    | reported r => exact exists_status_report (length_conditions_after single changes) r
    | edited => exact ih (by simpa using told)

/-- The time of the condition is the moment of the latest report that flipped the status, or the
time that it had to begin with. -/
theorem lastTransition_after (i : Instance) (changes : List InstanceChange) :
    (i.after changes).ready?.bind (·.lastTransition) = i.transition changes := by
  rw [transition]
  induction changes using List.reverseRecOn with
  | nil => rfl
  | append_singleton changes change ih =>
    rw [after_concat, latest_concat]
    cases change with
    | edited => exact ih
    | reported r =>
      rw [changed, counted]
      by_cases flips : (i.after changes).flippedBy r = true
      · rw [ready?_report (news_of_flippedBy flips), if_pos flips]
        exact if_pos flips
      · rw [if_neg flips, Option.none_or, ← ih]
        by_cases told : (i.after changes).Says r
        · rw [report_of_known told]
        · rw [ready?_report told]
          exact if_neg flips

/-- The condition is that of the latest news, of the generation that the instance had then, with the
time of the transition. -/
theorem ready?_after (i : Instance) (changes : List InstanceChange) :
    (i.after changes).ready? =
      match i.latest (fun met r => (met.report r).2) changes with
      | some (r, met) => some { met.readyCondition r.moment r.status r.reason r.message with
          lastTransition := i.transition changes }
      | none => i.ready? := by
  induction changes using List.reverseRecOn with
  | nil => rfl
  | append_singleton changes change ih =>
    have time := i.lastTransition_after (changes ++ [change])
    rw [after_concat] at time
    rw [after_concat, latest_concat, ← time]
    cases change with
    | edited =>
      rw [← lastTransition_after] at ih
      exact ih
    | reported r =>
      rw [changed, counted]
      by_cases told : (i.after changes).Says r
      · rw [← lastTransition_after] at ih
        simp only [report_of_known told]
        exact ih
      · rw [ready?_report told, report_of_news told]
        rfl

/-- Where there was at most one condition to begin with: after any changes of which one was a report
there is one condition. A report is no news exactly if the condition says the same, of the
generation that the instance has by then, and it leaves the instance as it is then. The condition is
that of the latest news, with the time of the latest report that flipped the status or was the
first; the time is the one it had to begin with, if any, where no report did. -/
theorem condition_after (single : i.conditions.length ≤ 1) (changes : List InstanceChange) :
    let now := i.after changes
    ((∃ r, .reported r ∈ changes) → ∃ c, now.status = some ⟨[c]⟩) ∧
    (∀ r, ((now.report r).2 = false ↔ now.Says r) ∧
      ((now.report r).2 = false → (now.report r).1 = now)) ∧
    now.ready?.bind (·.lastTransition) = i.transition changes ∧
    now.ready? =
      match i.latest (fun met r => (met.report r).2) changes with
      | some (r, met) => some { met.readyCondition r.moment r.status r.reason r.message with
          lastTransition := i.transition changes }
      | none => i.ready? := by
  intro now
  refine ⟨exists_status_after single, fun r => ⟨report_snd_eq_false_iff, fun old => ?_⟩,
    lastTransition_after i changes, ready?_after i changes⟩
  rw [report_of_known (report_snd_eq_false_iff.1 old)]

/-- A condition without a time gets a new message and, after an edit, a new generation; it has a
time only once its status flips, and keeps that when the same is reported again. -/
theorem condition_after_of_flip :
    let undated : Condition :=
      { lastTransition := none, message := "a", kind := .ready, status := false, reason := .adding
        observedGeneration := some 1 }
    let i : Instance := { Instance.newborn "foo" "a" with status := some ⟨[undated]⟩ }
    let edit : InstanceChange := .edited { i.metadata with generation := some 2 } i.spec
    let again : InstanceChange := .reported ⟨.tick 1, false, .adding, "b"⟩
    let flip : InstanceChange := .reported ⟨.tick 2, true, .adding, "b"⟩
    let late : InstanceChange := .reported ⟨.tick 3, true, .adding, "b"⟩
    i.conditions.length ≤ 1 ∧
    (i.after [again, edit, again]).ready? =
      some { undated with message := "b", observedGeneration := some 2 } ∧
    (i.after [again, edit, again, flip, late]).ready? = some
      { undated with
        lastTransition := some (.tick 2), message := "b", status := true
        observedGeneration := some 2 } := by
  intro undated i edit again flip late
  have single : i.conditions.length ≤ 1 := by decide
  have kept := (condition_after single [again, edit, again]).2.2.2
  have moved := (condition_after single [again, edit, again, flip, late]).2.2.2
  exact ⟨single, kept, moved⟩

end Instance

end StateMetrics
