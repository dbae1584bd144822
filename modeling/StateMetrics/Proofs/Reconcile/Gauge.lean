import Mathlib.Data.Set.Card
import StateMetrics.Proofs.Reconcile.Holders

/-!
# The gauge

The gauge is to say how many stored instances hold the finalizer. It is counted by the attempts that
write the finalizer, each right behind its write, so between the two it lags behind by one. What it
says is the number of holders, less the gains and plus the losses that are written and not counted
yet (`gauge_counts_holders`); when nothing is under way it is the number of holders.
-/

namespace StateMetrics

/-- The keys under which instances with the finalizer are stored. -/
def Stores.holders (s : Stores) : Set String := {key | s.marked key = true}

/-- What the controller does about the instance of a name: attempts at it. -/
inductive Reconciles (n : InstanceName) : Program (Result Action) → Prop
  | once : Reconciles n (reconcileKey n.namespaceName n.name)
  | retried (settings : Settings) :
    Reconciles n (reconcileWithRetry settings n.namespaceName n.name)
  | controlled (settings : Settings) (told : Instance) :
    n = ⟨told.metadata.namespaceName, told.metadata.anyName⟩ → Reconciles n (reconcile settings told)

/-- Whatever the controller does about an instance ends with nothing left to be counted. -/
theorem Reconciles.conforms {n : InstanceName} {p : Program (Result Action)}
    (reconciles : Reconciles n p) :
    p.Conforms (courseConduct .run n) (fun g _ => g.due? = none) .outset := by
  cases reconciles with
  | once => exact (Standing.reconcileKey_conforms (.inl rfl) rfl).mono fun _ _ ends => ends.1
  | retried settings => exact (Standing.retryFrom_conforms rfl).mono fun _ _ ends => ends.1
  | controlled settings told about => exact Standing.reconcile_conforms settings about rfl

/-! ## Sets of points of a function that is updated at one of them -/

section Update

variable {ι γ : Type} [DecidableEq ι] {P : γ → Prop} {f : ι → γ} {i : ι} {value : γ}

theorem setOf_update_of_iff (same : P value ↔ P (f i)) :
    {j | P (Function.update f i value j)} = {j | P (f j)} := by
  ext j
  by_cases own : j = i
  · subst own
    simp [same]
  · simp [own]

theorem setOf_update_of_pos (now : P value) :
    {j | P (Function.update f i value j)} = insert i {j | P (f j)} := by
  ext j
  by_cases own : j = i
  · subst own
    simp [now]
  · simp [own]

theorem setOf_update_of_neg (now : ¬ P value) :
    {j | P (Function.update f i value j)} = {j | P (f j)} \ {i} := by
  ext j
  by_cases own : j = i
  · subst own
    simp [now]
  · simp [own]

end Update

/-! ## One step -/

/-- What one answered request does to the finalizers: nothing, and nothing is to be counted then; or
it puts one on or takes one off, which is to be counted next. -/
theorem Standing.Advances.finalizer_cases {n : InstanceName} {s s' : Stores} {g g' : Standing}
    {r : Request} {answer : r.Answer} (advances : g.Advances n s r answer s' g')
    (fits : g.Fits n s) (counted : g.due? = none) :
    g'.due? = none ∧ s'.marked = s.marked ∨
      ∃ puts : Bool, g'.due? = some (if puts then .instanceGained else .instanceLost) ∧
        s.marked n.key = !puts ∧ s'.marked = Function.update s.marked n.key puts := by
  have elsewhere : ∀ key, key ≠ n.key → s'.marked key = s.marked key := fun key other =>
    Stores.marked_eq_of_stored_eq (advances.stored_of_ne fits other)
  cases advances with
  | idle unread unwritten stands =>
    rcases stands with rfl | rfl
    · exact .inl ⟨counted, rfl⟩
    · exact .inl ⟨rfl, rfl⟩
  | read isRead unwritten =>
    cases s.instances.stored n.key with
    | none => exact .inl ⟨rfl, rfl⟩
    | some i => exact .inl ⟨rfl, rfl⟩
  | @reported c given status v s' untouched stored reports may writes =>
    refine .inl ⟨if_neg (by simp [untouched]), ?_⟩
    funext key
    by_cases own : key = n.key
    · have kept : s'.marked c.hand.key = c.hand.hasFinalizer :=
        Stores.marked_write (i := { c.hand with status := given.status }) writes.instances
      rw [own, Stores.marked_of_stored stored, ← fits.key, kept]
    · exact elsewhere key own
  | @marked c given labels v s' untouched stored settled marks writes =>
    refine .inr ⟨c.puts, rfl, ?_, ?_⟩
    · rw [Stores.marked_of_stored stored]
      cases phase : c.found.phase with
      | creating =>
        obtain ⟨-, -, lacks⟩ := c.found.phase_eq_creating_iff.1 phase
        rw [fits.untouched untouched, lacks]
        simp [Course.puts, phase]
      | deleting =>
        have carries : c.hand.hasFinalizer = true := by simpa [Course.marks, phase] using marks
        simp [carries, Course.puts, phase]
      | updating => simp [Course.marks, phase] at marks
    · funext key
      by_cases own : key = n.key
      · have set : s'.marked c.hand.key = (c.hand.refinalized c.puts labels).hasFinalizer :=
          Stores.marked_write writes.instances
        rw [own, Function.update_self, ← fits.key, set, c.hand.hasFinalizer_refinalized]
      · rw [Function.update_of_ne own, elsewhere key own]
  | errand permitted serves instances unread =>
    refine .inl ⟨counted, ?_⟩
    funext key
    exact Stores.marked_eq_of_stored_eq (by rw [instances])

/-! ## The regime -/

section Regime

variable {κ : Type}

/-- The attempts that have to count this next. -/
def dueTo (notes : κ → Standing) (t : Tally) : Set κ := {a | (notes a).due? = some t}

/-- What the gauge is to say: the holders, but for what is to be counted yet. -/
noncomputable def balance (notes : κ → Standing) (s : Stores) : ℤ :=
  s.holders.ncard - (dueTo notes .instanceGained).ncard + (dueTo notes .instanceLost).ncard

/-- The gauge says what it is to say. -/
structure Tallied (subject : κ → InstanceName) (notes : κ → Standing) (s : Stores)
    (own : ControllerState) : Prop where
  sound : s.instances.Sound
  fits (a : κ) : (notes a).Fits (subject a) s
  holders : s.holders.Finite
  due (t : Tally) : (dueTo notes t).Finite
  gauge : own.metrics.instances = Int64.ofInt (balance notes s)
  agrees : (∀ j k, (subject j).key = (subject k).key → j = k) →
    ∀ a, (notes a).Agrees (s.marked (subject a).key)

variable [DecidableEq κ] {subject : κ → InstanceName} {notes : κ → Standing} {s s' : Stores}
  {own : ControllerState} {a : κ} {g : Standing}

/-- Who has as much to count as before leaves alone what is due. -/
theorem dueTo_update_of_eq (same : g.due? = (notes a).due?) (t : Tally) :
    dueTo (Function.update notes a g) t = dueTo notes t :=
  setOf_update_of_iff (P := fun g => Standing.due? g = some t) (by rw [same])

/-- Who has as much to count as before, with the finalizers as before, leaves the balance alone. -/
theorem balance_update_of_eq (same : g.due? = (notes a).due?) (marked : s'.marked = s.marked) :
    balance (Function.update notes a g) s' = balance notes s := by
  rw [balance, balance, dueTo_update_of_eq same, dueTo_update_of_eq same, Stores.holders,
    Stores.holders, marked]

/-- Counting what is due changes what the gauge is to say in the same way as the gauge. -/
theorem balance_counted {puts : Bool} (finite : ∀ t, (dueTo notes t).Finite)
    (due : (notes a).due? = some (if puts then .instanceGained else .instanceLost))
    (counted : g.due? = none) :
    balance (Function.update notes a g) s = balance notes s + (if puts then 1 else -1) := by
  have mem : a ∈ dueTo notes (if puts then .instanceGained else .instanceLost) := due
  have gone (t : Tally) : dueTo (Function.update notes a g) t = dueTo notes t \ {a} :=
    setOf_update_of_neg (P := fun g => Standing.due? g = some t) (by simp [counted])
  have kept (t : Tally) (other : t ≠ if puts then .instanceGained else .instanceLost) :
      dueTo notes t \ {a} = dueTo notes t :=
    Set.sdiff_singleton_eq_self fun also => other (Option.some.inj (also.symm.trans due))
  rw [balance, balance, gone, gone]
  cases puts with
  | true =>
    have one := Set.ncard_sdiff_singleton_add_one mem (finite _)
    rw [kept .instanceLost (by simp)]
    simp only [if_true] at one ⊢
    omega
  | false =>
    have one := Set.ncard_sdiff_singleton_add_one mem (finite _)
    rw [kept .instanceGained (by simp)]
    simp only [Bool.false_eq_true, if_false] at one ⊢
    omega

/-- A finalizer that is put on or taken off is due, so the gauge is to say what it says. -/
theorem balance_written {puts : Bool} {key : String} (finite : ∀ t, (dueTo notes t).Finite)
    (holders : s.holders.Finite) (idle : (notes a).due? = none)
    (due : g.due? = some (if puts then .instanceGained else .instanceLost))
    (was : s.marked key = !puts) (now : s'.marked = Function.update s.marked key puts) :
    balance (Function.update notes a g) s' = balance notes s := by
  have absent (t : Tally) : a ∉ dueTo notes t := fun mem => by
    have was : (notes a).due? = some t := mem
    rw [idle] at was
    cases was
  have more : dueTo (Function.update notes a g) (if puts then .instanceGained else .instanceLost) =
      insert a (dueTo notes (if puts then .instanceGained else .instanceLost)) :=
    setOf_update_of_pos (P := fun g => Standing.due? g = some _) due
  have kept (t : Tally) (other : t ≠ if puts then .instanceGained else .instanceLost) :
      dueTo (Function.update notes a g) t = dueTo notes t := by
    refine setOf_update_of_iff (P := fun g => Standing.due? g = some t) ?_
    rw [due, idle]
    simp [other.symm]
  rw [balance, balance]
  cases puts with
  | true =>
    have moreHolders : s'.holders = insert key s.holders := by
      rw [Stores.holders, now]
      exact setOf_update_of_pos (P := fun b => b = true) rfl
    have lacked : key ∉ s.holders := by simpa [Stores.holders] using was
    simp only [if_true] at more
    rw [kept .instanceLost (by simp), more, moreHolders, Set.ncard_insert_of_notMem lacked holders,
      Set.ncard_insert_of_notMem (absent _) (finite _)]
    omega
  | false =>
    have lessHolders : s'.holders = s.holders \ {key} := by
      rw [Stores.holders, now]
      exact setOf_update_of_neg (P := fun b => b = true) (by simp)
    have held : key ∈ s.holders := by simpa [Stores.holders] using was
    have one := Set.ncard_sdiff_singleton_add_one held holders
    simp only [Bool.false_eq_true, if_false] at more
    rw [kept .instanceGained (by simp), more, lessHolders,
      Set.ncard_insert_of_notMem (absent _) (finite _)]
    omega

/-- One step of one attempt keeps finite what is due. -/
theorem finite_dueTo_update (finite : ∀ t, (dueTo notes t).Finite) (t : Tally) :
    (dueTo (Function.update notes a g) t).Finite := by
  refine ((finite t).insert a).subset fun b mem => ?_
  by_cases own : b = a
  · exact .inl own
  · have isDue : (Function.update notes a g b).due? = some t := mem
    rw [Function.update_of_ne own] at isDue
    exact .inr isDue

/-- Nothing is due but a gain or a loss. -/
theorem Standing.due?_cases (g : Standing) :
    g.due? = none ∨
      ∃ puts : Bool, g.due? = some (if puts then .instanceGained else .instanceLost) := by
  cases g with
  | outset | missing => exact .inl rfl
  | under c =>
    by_cases written : c.finalizer = .written
    · exact .inr ⟨c.puts, if_pos written⟩
    · exact .inl (if_neg written)

/-- An instance has the finalizer that an attempt is about to count as gained. -/
theorem Standing.Agrees.of_due {g : Standing} {marked : Bool} (agrees : g.Agrees marked)
    (due : g.due? = some .instanceGained) : marked = true := by
  cases g with
  | outset | missing => cases due
  | under c =>
    have isDue : c.due? = some .instanceGained := due
    have holds : marked = c.holds := agrees
    rw [Course.due?] at isDue
    split at isDue
    · next written =>
      rw [holds, Course.holds, if_neg (by simp [written])]
      cases puts : c.puts with
      | true => rfl
      | false => simp [puts] at isDue
    · cases isDue

/-- A question that is no tally of the gauge leaves the gauge alone. -/
theorem instances_answer_of_other {q : Question} (other : q.gauge? = none) :
    (own.answer q).2.metrics.instances = own.metrics.instances := by
  cases q with
  | count tally => cases tally <;> first | rfl | cases other
  | _ => rfl

/-- A gain raises the gauge by one, and a loss lowers it by one. -/
theorem instances_answer_of_gauge {q : Question} {puts : Bool}
    (gauges : q.gauge? = some (if puts then .instanceGained else .instanceLost)) :
    (own.answer q).2.metrics.instances =
      own.metrics.instances + Int64.ofInt (if puts then 1 else -1) := by
  cases q with
  | count tally =>
    cases tally with
    | instanceGained =>
      cases puts with
      | true => rfl
      | false => cases gauges
    | instanceLost =>
      cases puts with
      | true => cases gauges
      | false =>
        show own.metrics.instances - 1 = own.metrics.instances + Int64.ofInt (-1)
        rw [Int64.sub_eq_add_neg]
        rfl
    | instancesFound number => cases puts <;> cases gauges
    | _ => cases gauges
  | _ => cases gauges

/-- The gauge is right when an attempt ends. -/
theorem Tallied.ended (tallied : Tallied subject notes s own) (counted : (notes a).due? = none) :
    Tallied subject (Function.update notes a .outset) s own where
  sound := tallied.sound
  fits := (Function.forall_update_iff notes fun b g => g.Fits (subject b) s).2
    ⟨trivial, fun b _ => tallied.fits b⟩
  holders := tallied.holders
  due := finite_dueTo_update tallied.due
  gauge := by
    rw [balance_update_of_eq (g := .outset) counted.symm rfl]
    exact tallied.gauge
  agrees distinct :=
    (Function.forall_update_iff notes fun b g => g.Agrees (s.marked (subject b).key)).2
      ⟨trivial, fun b _ => tallied.agrees distinct b⟩

/-- The gauge is right when a question was asked: a tally that was due is counted. -/
theorem Tallied.asked (tallied : Tallied subject notes s own) {q : Question}
    (allowed : q.gauge? = (notes a).due?) :
    Tallied subject (Function.update notes a
      ((courseConduct .run (subject a)).told (notes a) q (own.answer q).1)) s (own.answer q).2 where
  sound := tallied.sound
  fits := (Function.forall_update_iff notes fun b g => g.Fits (subject b) s).2
    ⟨(tallied.fits a).asked q _, fun b _ => tallied.fits b⟩
  holders := tallied.holders
  due := finite_dueTo_update tallied.due
  gauge := by
    have counted := Standing.due?_told .run (subject a) (notes a) q (own.answer q).1
    rcases (notes a).due?_cases with idle | ⟨puts, due⟩
    · rw [balance_update_of_eq (counted.trans idle.symm) rfl,
        instances_answer_of_other (allowed.trans idle)]
      exact tallied.gauge
    · rw [balance_counted tallied.due due counted,
        instances_answer_of_gauge (allowed.trans due), tallied.gauge, ← Int64.ofInt_add]
  agrees distinct :=
    (Function.forall_update_iff notes fun b g => g.Agrees (s.marked (subject b).key)).2
      ⟨(tallied.agrees distinct a).asked q _, fun b _ => tallied.agrees distinct b⟩

/-- The gauge is right when a request was answered: a finalizer that was written is due. -/
theorem Tallied.answered (tallied : Tallied subject notes s own) {r : Request}
    {answer : r.Answer} (permitted : (courseConduct .run (subject a)).permits (notes a) r)
    (serves : s.Serves r answer s') :
    Tallied subject (Function.update notes a
      ((courseConduct .run (subject a)).after (notes a) r answer)) s' own := by
  have counted : (notes a).due? = none := permitted.1
  have fits := tallied.fits a
  have advances := Standing.advances fits permitted serves
  generalize (courseConduct .run (subject a)).after (notes a) r answer = g at advances
  have step := advances.finalizer_cases fits counted
  refine ⟨advances.sound fits tallied.sound, ?_, ?_, finite_dueTo_update tallied.due, ?_,
    fun distinct => ?_⟩
  · refine (Function.forall_update_iff notes fun b g => g.Fits (subject b) s').2
      ⟨advances.fits fits tallied.sound, fun b _ => ?_⟩
    exact (tallied.fits b).mono fun _ knows => advances.knows fits knows
  · rcases step with ⟨-, same⟩ | ⟨puts, -, -, now⟩
    · rw [Stores.holders, same]
      exact tallied.holders
    · refine (tallied.holders.insert (subject a).key).subset fun key mem => ?_
      have marked : s'.marked key = true := mem
      by_cases own : key = (subject a).key
      · exact .inl own
      · rw [now, Function.update_of_ne own] at marked
        exact .inr marked
  · rcases step with ⟨idle, same⟩ | ⟨puts, due, was, now⟩
    · rw [balance_update_of_eq (idle.trans counted.symm) same]
      exact tallied.gauge
    · rw [balance_written tallied.due tallied.holders counted due was now]
      exact tallied.gauge
  · refine (Function.forall_update_iff notes
      fun b g => g.Agrees (s'.marked (subject b).key)).2
        ⟨(tallied.agrees distinct a).advances fits advances, fun b other => ?_⟩
    have apart : (subject b).key ≠ (subject a).key := fun same => other (distinct b a same)
    rw [Stores.marked_eq_of_stored_eq (advances.stored_of_ne fits apart)]
    exact tallied.agrees distinct b

omit [DecidableEq κ] in
/-- The gauge is right when others have left the finalizer alone. -/
theorem Tallied.interfered (tallied : Tallied subject notes s own) (keeps : s.KeepsFinalizers s') :
    Tallied subject notes s' own := by
  have same : s'.marked = s.marked := funext keeps.marked
  have holders : s'.holders = s.holders := by rw [Stores.holders, Stores.holders, same]
  refine ⟨keeps.sound tallied.sound, fun a => (tallied.fits a).mono keeps.knows,
    holders ▸ tallied.holders, tallied.due, ?_, fun distinct a => ?_⟩
  · rw [balance, holders]
    exact tallied.gauge
  · rw [same]
    exact tallied.agrees distinct a

/-- The regime of attempts at instances, each by the controller or on its own, with repetitions and
any number of them at one instance. -/
def gaugeRegime (subject : κ → InstanceName) :
    Regime κ Standing (Result Action) Stores.KeepsFinalizers where
  start _ := .outset
  conduct a := courseConduct .run (subject a)
  Ends _ g _ := g.due? = none
  Holds notes s own _ := Tallied subject notes s own
  ended tallied counted := tallied.ended counted
  asked tallied allowed := tallied.asked allowed
  answered tallied permitted serves := tallied.answered permitted serves
  interfered tallied keeps := tallied.interfered keeps
  elapsed _ tallied := { tallied with }

end Regime

/-! ## Runs -/

/-- The attempts that have written the finalizer and are about to count it. -/
def World.uncounted {κ : Type} (w : World κ (Result Action)) (t : Tally) : Set κ :=
  {a | ∃ next, w.running a = some (.ask (.count t) next)}

theorem Question.eq_count_of_gauge? {q : Question} {t : Tally} (gauges : q.gauge? = some t) :
    q = .count t := by
  cases q with
  | count tally => cases tally <;> cases gauges <;> rfl
  | _ => cases gauges

/-- The attempts that are about to count are those that have to. -/
theorem uncounted_eq_dueTo {κ : Type} [DecidableEq κ] {subject : κ → InstanceName}
    {notes : κ → Standing} {w : World κ (Result Action)}
    (governs : (gaugeRegime subject).Governs notes w) {t : Tally}
    (gauges : (Question.count t).gauge? = some t) : w.uncounted t = dueTo notes t := by
  ext a
  constructor
  · rintro ⟨next, atQuestion⟩
    obtain ⟨allowed, -⟩ := governs.conforms atQuestion
    exact allowed.symm.trans gauges
  · intro due
    have isDue : (notes a).due? = some t := due
    -- Nothing may follow but the count, so that is what the attempt is at.
    cases atPoint : w.running a with
    | none =>
      have start : notes a = .outset := governs.idle atPoint
      rw [start] at isDue
      cases isDue
    | some p =>
      have conforms := governs.conforms atPoint
      cases p with
      | done value =>
        have counted : (notes a).due? = none := conforms
        rw [isDue] at counted
        cases counted
      | request r next =>
        obtain ⟨⟨counted, -⟩, -⟩ := conforms
        rw [isDue] at counted
        cases counted
      | ask q next =>
        obtain ⟨allowed, -⟩ := conforms
        obtain rfl := Question.eq_count_of_gauge? (Eq.trans allowed isDue)
        exact ⟨next, atPoint⟩

/-- However attempts at instances interleave, are repeated or fail, and whatever others do who leave
the finalizer alone: the gauge is the number of stored instances with the finalizer, less the gains
and plus the losses that attempts have written and are about to count. So it is that number whenever
no attempt is under way; and with one attempt at a time for each instance it is never negative. -/
theorem gauge_counts_holders {κ : Type} [DecidableEq κ] (subject : κ → InstanceName)
    {w₀ w : World κ (Result Action)} (idle : w₀.Idle) (sound : w₀.stores.instances.Sound)
    (finite : w₀.stores.holders.Finite)
    (counted : w₀.own.metrics.instances = Int64.ofInt w₀.stores.holders.ncard)
    (run : World.Reaches (fun a p => Reconciles (subject a) p) Stores.KeepsFinalizers w₀ w) :
    w.stores.holders.Finite ∧
    w.own.metrics.instances = Int64.ofInt (w.stores.holders.ncard -
      (w.uncounted .instanceGained).ncard + (w.uncounted .instanceLost).ncard) ∧
    ((∀ a, w.running a = none) →
      w.own.metrics.instances = Int64.ofInt w.stores.holders.ncard ∧
      (w.stores.holders.ncard < 2 ^ 63 →
        w.own.metrics.instances.toInt = w.stores.holders.ncard)) ∧
    ((∀ j k, (subject j).key = (subject k).key → j = k) →
      (w.uncounted .instanceGained).ncard ≤ w.stores.holders.ncard ∧
      (w.stores.holders.ncard + (w.uncounted .instanceLost).ncard < 2 ^ 63 →
        0 ≤ w.own.metrics.instances.toInt)) := by
  have start : Tallied subject (fun _ => .outset) w₀.stores w₀.own := by
    have nothing (t : Tally) : dueTo (fun _ : κ => Standing.outset) t = ∅ :=
      Set.eq_empty_of_forall_notMem fun _ due => nomatch (show none = some t from due)
    refine ⟨sound, fun _ => trivial, finite, fun t => nothing t ▸ Set.finite_empty, ?_,
      fun _ _ => trivial⟩
    rw [counted, balance, nothing, nothing]
    simp
  obtain ⟨notes, governs⟩ := (gaugeRegime subject).governs idle start
    (fun a p reconciles => Reconciles.conforms reconciles) run
  have tallied : Tallied subject notes w.stores w.own := governs.holds
  have gained := uncounted_eq_dueTo governs (t := .instanceGained) rfl
  have lost := uncounted_eq_dueTo governs (t := .instanceLost) rfl
  have gauge : w.own.metrics.instances = Int64.ofInt (w.stores.holders.ncard -
      (w.uncounted .instanceGained).ncard + (w.uncounted .instanceLost).ncard) := by
    rw [gained, lost]
    exact tallied.gauge
  refine ⟨tallied.holders, gauge, fun atRest => ?_, fun distinct => ?_⟩
  · have nothing (t : Tally) : w.uncounted t = ∅ :=
      Set.eq_empty_of_forall_notMem fun a ⟨next, atQuestion⟩ => by
        rw [atRest a] at atQuestion
        cases atQuestion
    have exact : w.own.metrics.instances = Int64.ofInt w.stores.holders.ncard := by
      rw [gauge, nothing, nothing]
      simp
    refine ⟨exact, fun bounded => ?_⟩
    rw [exact]
    exact Int64.toInt_ofInt_of_le (by omega) (by omega)
  · -- Who has just put a finalizer on holds it until he counts it, and nobody holds two.
    have fewer : (w.uncounted .instanceGained).ncard ≤ w.stores.holders.ncard := by
      rw [gained]
      refine Set.ncard_le_ncard_of_injOn (fun a => (subject a).key) (fun a due => ?_)
        (fun a _ b _ same => distinct a b same) tallied.holders
      exact (tallied.agrees distinct a).of_due due
    refine ⟨fewer, fun bounded => ?_⟩
    rw [gauge, Int64.toInt_ofInt_of_le (by omega) (by omega)]
    omega

/-- An instance is created and reconciled: the gauge goes from nought to one. -/
theorem gauge_counts_holders_of_created :
    ∃ w₀ w : World Unit (Result Action), w₀.Idle ∧ w₀.stores.instances.Sound ∧
      w₀.stores.holders.Finite ∧
      w₀.own.metrics.instances = Int64.ofInt w₀.stores.holders.ncard ∧
      World.Reaches (fun _ p => Reconciles ⟨"bar", "foo"⟩ p) Stores.KeepsFinalizers w₀ w ∧
      (∀ a, w.running a = none) ∧ w₀.own.metrics.instances = 0 ∧ w.own.metrics.instances = 1 ∧
      w.own.metrics.instances = Int64.ofInt w.stores.holders.ncard := by
  have succeeds : (Cluster.created "a").succeeds {} = true := by decide +kernel
  have gauge : ((Cluster.created "a").attempted {}).2.metrics.instances = 1 := by decide +kernel
  let w₀ := World.onCluster Unit (Result Action) {}
  have nobody : w₀.stores.holders = ∅ :=
    Set.eq_empty_of_forall_notMem fun _ marked => nomatch (show false = true from marked)
  have finite : w₀.stores.holders.Finite := nobody ▸ Set.finite_empty
  have counted : w₀.own.metrics.instances = Int64.ofInt w₀.stores.holders.ncard := by
    rw [nobody, Set.ncard_empty]
    rfl
  have idle : w₀.Idle := World.idle_onCluster {}
  have sound : w₀.stores.instances.Sound := Cluster.sound_instances rfl
  obtain ⟨w, action, run, ended, -, -, own⟩ :=
    Cluster.exists_created (fun _ p => Reconciles ⟨"bar", "foo"⟩ p) Stores.KeepsFinalizers succeeds
      .once fun v _ writes => .inr ⟨v, _, writes.fresh, writes.instances, rfl⟩
  have run := run.tail (.ended () _ ended)
  have atRest : ∀ a, (w.proceed () none).running a = none := fun _ => World.proceed_running_self ..
  obtain ⟨-, -, rest, -⟩ :=
    gauge_counts_holders (fun _ => ⟨"bar", "foo"⟩) idle sound finite counted run
  refine ⟨w₀, _, idle, sound, finite, counted, run, atRest, rfl, ?_, (rest atRest).1⟩
  show w.own.metrics.instances = 1
  rw [own]
  exact gauge

end StateMetrics
