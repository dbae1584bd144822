import StateMetrics.Proofs.Reconcile.Sources

/-!
# Attempts until none conflicts

While its writes conflict with those of somebody else, an attempt is made again, from its own read of
the instance, until one does not conflict or as many were made as are allowed. The attempts are counted
here from what a run has exchanged, whatever it was answered: the exchanges come apart into those of
whole attempts in one way only, and how many there are is told by their outcomes
(`retries_until_no_conflict`). Each step of the loop is one attempt and what is left of the attempts
behind it (`retries_cons_iff`).
-/

namespace StateMetrics

/-- An attempt that was made: all its exchanges, and what it ended with. -/
@[ext]
structure Attempt where
  exchanges : List Exchange
  outcome : Result Action

namespace Attempt

/-- The attempt ended with a conflict, after which another one is made. -/
def conflicts (a : Attempt) : Bool := StateMetrics.conflicts a.outcome

/-- The exchanges are those of a whole attempt at the instance of the name. -/
def Made (namespaceName name : String) (a : Attempt) : Prop :=
  (reconcileKey namespaceName name).ComesTo a.exchanges (.done a.outcome)

/-- The attempt begins with a read of its instance, and everything in it is made from what was
exchanged before in the same attempt. -/
structure Fresh (namespaceName name : String) (a : Attempt) : Prop where
  reads : ∃ answer, a.exchanges.head? = some (.answered (.getInstance namespaceName name) answer)
  draws : ∀ before e after, a.exchanges = before ++ e :: after → e.DrawsOn before

variable {namespaceName name : String} {a : Attempt}

/-- Every attempt reads its instance anew and makes nothing from what an earlier one has read. -/
theorem Made.fresh (made : a.Made namespaceName name) : a.Fresh namespaceName name where
  reads := by
    rw [Made, reconcileKey_eq] at made
    exact made.head?_of_request
  draws _ _ _ split := (Sources.reconcileKey_conforms namespaceName name).keeps made split

theorem Made.exchanges_ne_nil (made : a.Made namespaceName name) : a.exchanges ≠ [] := by
  intro nothing
  obtain ⟨answer, head⟩ := made.fresh.reads
  rw [nothing] at head
  cases head

/-- The attempt that is made amid surroundings, and what becomes of them. -/
def amid {σ : Type} (around : Surroundings σ) (namespaceName name : String) (s : σ) : Attempt × σ :=
  let (exchanges, outcome, s) := (reconcileKey namespaceName name).amid around s
  (⟨exchanges, outcome⟩, s)

/-- The attempt that a call makes amid surroundings is a whole one. -/
theorem made_amid {σ : Type} (around : Surroundings σ) (namespaceName name : String) (s : σ) :
    (amid around namespaceName name s).1.Made namespaceName name :=
  Program.comesTo_amid around _ s

/-- Exchanges come apart into those of whole attempts in one way only. -/
theorem eq_of_made {attempts attempts' : List Attempt} (made : ∀ a ∈ attempts, a.Made namespaceName name)
    (made' : ∀ a ∈ attempts', a.Made namespaceName name)
    (same : attempts.flatMap exchanges = attempts'.flatMap exchanges) : attempts = attempts' := by
  induction attempts generalizing attempts' with
  | nil =>
    cases attempts' with
    | nil => rfl
    | cons b rest' =>
      obtain ⟨nothing, -⟩ := List.append_eq_nil_iff.1 same.symm
      exact absurd nothing (made' b List.mem_cons_self).exchanges_ne_nil
  | cons a rest ih =>
    cases attempts' with
    | nil =>
      obtain ⟨nothing, -⟩ := List.append_eq_nil_iff.1 same
      exact absurd nothing (made a List.mem_cons_self).exchanges_ne_nil
    | cons b rest' =>
      obtain ⟨exchanges, outcome, behind⟩ :=
        (made a List.mem_cons_self).done_unique (made' b List.mem_cons_self) same
      obtain rfl := Attempt.ext exchanges outcome
      rw [ih (fun c mem => made c (List.mem_cons_of_mem a mem))
        (fun c mem => made' c (List.mem_cons_of_mem a mem)) behind]

end Attempt

/-- Attempts one behind the other, as many as up to the first that does not conflict and no more than
the limit, with all that was exchanged and what the last of them ended with. -/
structure Retries (limit : Nat) (namespaceName name : String) (attempts : List Attempt)
    (exchanges : List Exchange) (result : Result Action) : Prop where
  made : ∀ a ∈ attempts, a.Made namespaceName name
  number : attempts.length = min limit (attempts.findIdx (!·.conflicts) + 1)
  exchanged : attempts.flatMap (·.exchanges) = exchanges
  last : attempts.getLast?.map (·.outcome) = some result

section Retries

variable {limit : Nat} {namespaceName name : String} {a : Attempt} {attempts rest : List Attempt}
  {exchanges : List Exchange} {result : Result Action} {maxAttempts attempt : UInt32}

theorem Retries.ne_nil (retries : Retries limit namespaceName name attempts exchanges result) :
    attempts ≠ [] := by
  rintro rfl
  cases retries.last

/-- There are as many attempts as there are to be if the first is the only one, or if it conflicts and
there are as many behind it as are to be there. -/
theorem number_cons_iff :
    (a :: rest).length = min (limit + 1) ((a :: rest).findIdx (!·.conflicts) + 1) ↔
      if 0 < limit ∧ a.conflicts = true then
        rest.length = min limit (rest.findIdx (!·.conflicts) + 1)
      else rest = [] := by
  rw [List.length_cons, List.findIdx_cons, ← List.length_eq_zero_iff]
  cases a.conflicts with
  | false => simp
  | true =>
    by_cases more : 0 < limit
    · simp only [Bool.not_true, cond_false, more, and_self, if_true]
      omega
    · simp only [Bool.not_true, cond_false, more, false_and, if_false]
      omega

/-- Behind the first attempt comes the rest if the first conflicts and others are left, and else
nothing. -/
theorem retries_cons_iff : Retries (limit + 1) namespaceName name (a :: rest) exchanges result ↔
    a.Made namespaceName name ∧ ∃ behind, exchanges = a.exchanges ++ behind ∧
      if 0 < limit ∧ a.conflicts = true then Retries limit namespaceName name rest behind result
      else rest = [] ∧ behind = [] ∧ a.outcome = result := by
  constructor
  · rintro ⟨made, number, exchanged, last⟩
    refine ⟨made a List.mem_cons_self, rest.flatMap (·.exchanges),
      exchanged.symm.trans List.flatMap_cons, ?_⟩
    have number := number_cons_iff.1 number
    split at number
    · next again =>
      have others : rest ≠ [] := List.length_pos_iff.1 (by omega)
      rw [List.getLast?_cons_of_ne_nil others] at last
      rw [if_pos again]
      exact ⟨fun b mem => made b (List.mem_cons_of_mem a mem), number, rfl, last⟩
    · next ended =>
      obtain rfl := number
      rw [if_neg ended]
      exact ⟨rfl, rfl, Option.some.inj last⟩
  · rintro ⟨made, behind, rfl, goes⟩
    split at goes
    · next again =>
      refine ⟨List.forall_mem_cons.2 ⟨made, goes.made⟩,
        number_cons_iff.2 ((if_pos again).mpr goes.number), ?_, ?_⟩
      · rw [List.flatMap_cons, goes.exchanged]
      · rw [List.getLast?_cons_of_ne_nil goes.ne_nil]
        exact goes.last
    · next ended =>
      obtain ⟨rfl, rfl, rfl⟩ := goes
      exact ⟨List.forall_mem_cons.2 ⟨made, List.forall_mem_nil _⟩,
        number_cons_iff.2 ((if_neg ended).mpr rfl), rfl, rfl⟩

/-- The attempts that a run has made are determined by what it has exchanged. -/
theorem Retries.unique {limit' : Nat} {result' : Result Action} {attempts' : List Attempt}
    (retries : Retries limit namespaceName name attempts exchanges result)
    (retries' : Retries limit' namespaceName name attempts' exchanges result') :
    attempts = attempts' :=
  Attempt.eq_of_made retries.made retries'.made (retries.exchanged.trans retries'.exchanged.symm)

/-- A conflict comes out only if all that are allowed have conflicted. -/
theorem Retries.length_of_conflicts
    (retries : Retries limit namespaceName name attempts exchanges result)
    (conflict : conflicts result = true) :
    attempts.length = limit ∧ ∀ a ∈ attempts, a.conflicts = true := by
  induction attempts generalizing limit exchanges with
  | nil => exact absurd rfl retries.ne_nil
  | cons a rest ih =>
    cases limit with
    | zero =>
      have number := retries.number
      rw [List.length_cons, Nat.zero_min] at number
      cases number
    | succ limit =>
      obtain ⟨-, behind, -, goes⟩ := retries_cons_iff.1 retries
      split at goes
      · next again =>
        obtain ⟨number, others⟩ := ih goes
        exact ⟨congrArg (· + 1) number, List.forall_mem_cons.2 ⟨again.2, others⟩⟩
      · next ended =>
        obtain ⟨rfl, -, rfl⟩ := goes
        have exhausted : limit = 0 := Nat.eq_zero_of_not_pos fun more => ended ⟨more, conflict⟩
        exact ⟨congrArg (· + 1) exhausted.symm, List.forall_mem_cons.2 ⟨conflict, List.forall_mem_nil _⟩⟩

/-! ## The loop -/

/-- How many attempts are made at most, from the one of this number on. -/
def attemptsLeft (maxAttempts attempt : UInt32) : Nat :=
  max 1 (maxAttempts.toNat + 1 - attempt.toNat)

theorem attemptsLeft_one (maxAttempts : UInt32) :
    attemptsLeft maxAttempts 1 = max 1 maxAttempts.toNat := by
  rw [attemptsLeft, UInt32.toNat_one, Nat.add_sub_cancel]

/-- Below the limit one attempt more is left than after the next. -/
theorem attemptsLeft_of_lt (more : attempt < maxAttempts) :
    attemptsLeft maxAttempts attempt = attemptsLeft maxAttempts (attempt + 1) + 1 := by
  have bound : attempt.toNat < maxAttempts.toNat := UInt32.lt_iff_toNat_lt.mp more
  rw [attemptsLeft, attemptsLeft, toNat_next more]
  omega

theorem attemptsLeft_of_not_lt (last : ¬ attempt < maxAttempts) :
    attemptsLeft maxAttempts attempt = 1 := by
  have bound : ¬ attempt.toNat < maxAttempts.toNat := fun more => last (UInt32.lt_iff_toNat_lt.mpr more)
  rw [attemptsLeft]
  omega

theorem attemptsLeft_pos (maxAttempts attempt : UInt32) : 0 < attemptsLeft maxAttempts attempt :=
  Nat.lt_of_lt_of_le Nat.one_pos (Nat.le_max_left ..)

/-- One step of the loop: the attempt of this number, and the loop from the next number on if it
conflicts and another is allowed. -/
theorem retries_attemptsLeft_cons_iff :
    Retries (attemptsLeft maxAttempts attempt) namespaceName name (a :: rest) exchanges result ↔
      a.Made namespaceName name ∧ ∃ behind, exchanges = a.exchanges ++ behind ∧
        if attempt < maxAttempts ∧ a.conflicts = true then
          Retries (attemptsLeft maxAttempts (attempt + 1)) namespaceName name rest behind result
        else rest = [] ∧ behind = [] ∧ a.outcome = result := by
  by_cases more : attempt < maxAttempts
  · rw [attemptsLeft_of_lt more, retries_cons_iff]
    simp only [more, attemptsLeft_pos]
  · rw [attemptsLeft_of_not_lt more, retries_cons_iff]
    simp only [more, Nat.lt_irrefl, false_and, if_false]

/-- The runs of the loop to its end are the attempts that it allows. -/
theorem retryFrom_comesTo_iff :
    (retryFrom maxAttempts attempt namespaceName name).ComesTo exchanges (.done result) ↔
      ∃ attempts, Retries (attemptsLeft maxAttempts attempt) namespaceName name attempts exchanges
        result := by
  induction left : maxAttempts.toNat - attempt.toNat using Nat.strongRecOn
    generalizing attempt exchanges with
  | ind left ih =>
    -- The next number is greater, since counting on does not start anew below the limit.
    have next : ∀ {behind}, attempt < maxAttempts →
        ((retryFrom maxAttempts (attempt + 1) namespaceName name).ComesTo behind (.done result) ↔
          ∃ attempts, Retries (attemptsLeft maxAttempts (attempt + 1)) namespaceName name attempts
            behind result) := by
      intro behind more
      have bound : attempt.toNat < maxAttempts.toNat := UInt32.lt_iff_toNat_lt.mp more
      have next := toNat_next more
      exact ih _ (by omega) rfl
    rw [retryFrom_eq, Program.comesTo_done_bind_iff]
    constructor
    · rintro ⟨first, outcome, behind, rfl, made, goes⟩
      split at goes
      · next again =>
        obtain ⟨attempts, retries⟩ := (next again.1).1 goes
        exact ⟨⟨first, outcome⟩ :: attempts, retries_attemptsLeft_cons_iff.2
          ⟨made, behind, rfl, (if_pos again).mpr retries⟩⟩
      · next ended =>
        obtain ⟨rfl, same⟩ := goes.of_done
        cases same
        exact ⟨[⟨first, result⟩], retries_attemptsLeft_cons_iff.2
          ⟨made, [], rfl, (if_neg ended).mpr ⟨rfl, rfl, rfl⟩⟩⟩
    · rintro ⟨_ | ⟨a, rest⟩, retries⟩
      · exact absurd rfl retries.ne_nil
      · obtain ⟨made, behind, rfl, goes⟩ := retries_attemptsLeft_cons_iff.1 retries
        refine ⟨a.exchanges, a.outcome, behind, rfl, made, ?_⟩
        rw [Attempt.conflicts] at goes
        split at goes
        · next again =>
          rw [if_pos again]
          exact (next again.1).2 ⟨rest, goes⟩
        · next ended =>
          obtain ⟨rfl, rfl, rfl⟩ := goes
          rw [if_neg ended]
          exact .here _

/-- Each attempt is made under its number: the number is counted on without ever starting anew. -/
theorem Retries.exists_number
    (retries : Retries (attemptsLeft maxAttempts attempt) namespaceName name attempts exchanges result)
    {k : Nat} (inside : k < attempts.length) :
    ∃ number : UInt32, number.toNat = attempt.toNat + k ∧
      (retryFrom maxAttempts attempt namespaceName name).ComesTo
        ((attempts.take k).flatMap (·.exchanges))
        (retryFrom maxAttempts number namespaceName name) := by
  induction k generalizing attempt attempts exchanges with
  | zero => exact ⟨attempt, rfl, .here _⟩
  | succ k ih =>
    rcases attempts with _ | ⟨a, rest⟩
    · cases inside
    · have inside : k < rest.length := Nat.lt_of_succ_lt_succ inside
      obtain ⟨made, behind, -, goes⟩ := retries_attemptsLeft_cons_iff.1 retries
      rw [Attempt.conflicts] at goes
      split at goes
      · next again =>
        obtain ⟨number, counted, comes⟩ := ih goes inside
        refine ⟨number, ?_, ?_⟩
        · rw [counted, toNat_next again.1]
          omega
        · rw [retryFrom_eq, List.take_succ_cons, List.flatMap_cons]
          refine made.bind ?_
          rw [if_pos again]
          exact comes
      · rw [goes.1] at inside
        cases inside

end Retries

/-- Whatever is around, a reconciliation that retries comes to its end. As many attempts are made as up
to the first one that does not conflict, and no more than are allowed, one at least; the last one's
outcome is what comes out. Each of them begins with its own read and is made from what it has exchanged
itself. The number under which an attempt is made is its place among them, up to the greatest number
there is, and a conflict comes out only if all that are allowed were made and have conflicted. -/
theorem retries_until_no_conflict (settings : Settings) (namespaceName name : String) :
    let p := reconcileWithRetry settings namespaceName name
    let limit := max 1 settings.maxAttempts.toNat
    (∀ (σ : Type) (around : Surroundings σ) (s : σ),
      p.ComesTo (p.amid around s).1 (.done (p.amid around s).2.1)) ∧
    ∀ exchanges result,
      (p.ComesTo exchanges (.done result) ↔
        ∃! attempts, Retries limit namespaceName name attempts exchanges result) ∧
      ∀ attempts, Retries limit namespaceName name attempts exchanges result →
        (∀ a ∈ attempts, a.Fresh namespaceName name) ∧
        (∀ k < attempts.length, ∃ number : UInt32, number.toNat = k + 1 ∧
          p.ComesTo ((attempts.take k).flatMap (·.exchanges))
            (retryFrom settings.maxAttempts number namespaceName name)) ∧
        (conflicts result = true → attempts.length = limit ∧ ∀ a ∈ attempts, a.conflicts = true) := by
  intro p limit
  have allowed : attemptsLeft settings.maxAttempts 1 = limit := attemptsLeft_one _
  refine ⟨fun σ around s => p.comesTo_amid around s, fun exchanges result => ⟨?_, ?_⟩⟩
  · rw [← allowed]
    refine retryFrom_comesTo_iff.trans ⟨?_, ExistsUnique.exists⟩
    rintro ⟨attempts, retries⟩
    exact ⟨attempts, retries, fun _ retries' => retries'.unique retries⟩
  · intro attempts retries
    refine ⟨fun a mem => (retries.made a mem).fresh, fun k inside => ?_, retries.length_of_conflicts⟩
    obtain ⟨number, counted, comes⟩ := (allowed ▸ retries).exists_number inside
    exact ⟨number, counted.trans (Nat.add_comm 1 k), comes⟩

/-- An attempt that loses a race for its document is made again, and the second one succeeds. -/
theorem retries_until_no_conflict_of_race :
    ∃ a b : Attempt, a.conflicts = true ∧ b.conflicts = false ∧
      (reconcileWithRetry {} "bar" "foo").ComesTo (a.exchanges ++ b.exchanges) (.done b.outcome) ∧
      b.Fresh "bar" "foo" := by
  let t : Trial := .failing (.created "a") fun
    | .createDocument => [some (.alreadyExists "ksm@bar")]
    | _ => []
  let around := Surroundings.alone Trial.handle
  have conflict : (Attempt.amid around "bar" "foo" (t, {})).1.conflicts = true := by decide +kernel
  have done : (Attempt.amid around "bar" "foo"
      (Attempt.amid around "bar" "foo" (t, {})).2).1.conflicts = false := by decide +kernel
  have made := Attempt.made_amid around "bar" "foo" (t, {})
  generalize Attempt.amid around "bar" "foo" (t, {}) = first at conflict done made
  have made' := Attempt.made_amid around "bar" "foo" first.2
  generalize Attempt.amid around "bar" "foo" first.2 = second at done made'
  have retries : Retries (max 1 (3 : UInt32).toNat) "bar" "foo" [first.1, second.1]
      (first.1.exchanges ++ second.1.exchanges) second.1.outcome := by
    refine ⟨by simp [made, made'], ?_, by simp, rfl⟩
    simp [List.findIdx_cons, conflict, done]
  obtain ⟨runs, attempts⟩ := (retries_until_no_conflict {} "bar" "foo").2
    (first.1.exchanges ++ second.1.exchanges) second.1.outcome
  exact ⟨first.1, second.1, conflict, done,
    runs.2 ⟨_, retries, fun _ others => others.unique retries⟩, (attempts _ retries).1 _ (by simp)⟩

end StateMetrics
