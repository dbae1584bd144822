import StateMetrics.Proofs.Admission
import StateMetrics.Proofs.Reconcile.Calls
import StateMetrics.Proofs.Reconcile.Demand
import StateMetrics.Proofs.Reconcile.Holders

/-!
# What the controller remembers

The version of an instance that is remembered is the one that the last attempt at it has read, and it is
remembered only if the call of that attempt went on to succeed. Nobody else's step touches the memory of
the instance, so whatever happens in between, a version that is remembered is vouched for by the call
that was admitted last (`Watch.Tied`). A version that is dropped although it is in scope does not differ
from it in anything that counts (`dropped_version_was_reconciled`).
-/

namespace StateMetrics

/-! ## Versions that are dropped -/

namespace Scope

variable {σ : Type} {handle : Handler σ} {s : σ} {own : ControllerState} {scope : Scope}
  {version : Instance}

/-- A version in scope is dropped only if nothing that counts has changed. -/
theorem unchanged_of_dropped
    (included : ((scope.includes version.metadata).run handle s own).1 = true)
    (dropped : ((scope.admitInstance version).run handle s own).1 = false) :
    (notification (own.seen.lookup version.key) version).changed = false := by
  have covers := (scope.run_includes handle s own version).1.1 included
  rw [Bool.eq_false_iff]
  intro changed
  rw [(scope.run_admitInstance handle s own version).1.2 ⟨covers, changed⟩] at dropped
  cases dropped

/-- What has not changed since it was remembered has the generation, the labels and the finalizers that
are remembered. -/
theorem exists_of_unchanged {last : Option Instance} (stays : version.isDeleting = false)
    (unchanged : (notification last version).changed = false) :
    ∃ v, last = some v ∧ v.metadata.generation = version.metadata.generation ∧
      v.metadata.labelMap = version.metadata.labelMap ∧
      v.metadata.finalizerList = version.metadata.finalizerList := by
  have same := mt (changed_notification_iff last version).2 (Bool.eq_false_iff.1 unchanged)
  rw [stays, not_or, not_or] at same
  obtain ⟨-, known, same⟩ := same
  obtain ⟨v, rfl⟩ := Option.ne_none_iff_exists'.1 known
  have same : ¬ v.DiffersFrom version := fun differs => same ⟨v, rfl, differs⟩
  simp only [Instance.DiffersFrom, not_or, not_not] at same
  exact ⟨v, rfl, same⟩

end Scope

/-! ## Attempts on record -/

namespace Call

/-- When its last attempt was done with the document, the block of the version was put there. -/
def Put (c : Call) (v : Instance) : Prop := ∃ t, c.document = some t ∧ v.IsPutIn t

/-- The last attempt of the call has read the version and put its block. -/
structure Vouches (c : Call) (demands : Demands) (n : InstanceName) (v : Instance) : Prop where
  read : c.read = some v
  key : v.key = n.key
  meets : v.Meets demands
  put : c.Put v

end Call

/-- What is told of a call agrees with where its attempt stands. -/
def Standing.Recorded (demands : Demands) (s : Stores) (c : Call) : Standing → Prop
  | outset => True
  | missing => c.read = none
  | under course => c.read = some course.found ∧ course.found.Meets demands ∧
      (course.puts = true →
        course.found.putting.Tied (fun _ => c.Put course.found) s course.stage)

namespace Standing.Recorded

variable {demands : Demands} {n : InstanceName} {s s' : Stores} {c : Call} {g : Standing}
  {r : Request} {answer : r.Answer}

/-- What others do touches neither what the call has read nor what it has put. -/
theorem interfered (recorded : g.Recorded demands s c) (interferes : s.Interferes demands s') :
    g.Recorded demands s' c := by
  cases g with
  | outset => trivial
  | missing => exact recorded
  | under course =>
    exact ⟨recorded.1, recorded.2.1, fun puts => (recorded.2.2 puts).evolves interferes.documents⟩

theorem asked {extent : Extent} (recorded : g.Recorded demands s c) (q : Question)
    (answer : q.Answer) : ((courseConduct extent n).told g q answer).Recorded demands s c := by
  rcases told_cases extent n g q answer with same | ⟨course, rfl, -, counted⟩
  · rw [same]
    exact recorded
  · rw [counted]
    exact recorded

/-- The errand of an attempt goes on, and what its document holds then is on record. -/
theorem served {course : Course} (orderly : s.Orderly demands) (free : '\n' ∉ n.key.toList)
    (fits : course.Fits n s) (recorded : (under course).Recorded demands s c)
    (permitted : course.errand.discipline.permits course.stage r) (serves : s.Serves r answer s') :
    (under { course with stage := course.errand.discipline.after course.stage r answer }).Recorded
      demands s' { c with document := some s' } := by
  obtain ⟨read, meets, tied⟩ := recorded
  refine ⟨read, meets, fun puts => ?_⟩
  have errand : course.errand = course.found.putting := by
    rw [Course.errand, fits.continues.errand, show course.puts = true from puts]
    rfl
  have free : '\n' ∉ course.found.key.toList := by
    rw [← fits.continues.key, fits.key]
    exact free
  have unsettled : course.stage ≠ .settled := fun settled => by
    rw [settled] at permitted
    exact permitted.elim
  rw [errand] at permitted
  have before : course.found.putting.Tied course.found.IsPutIn s course.stage :=
    (tied puts).imp fun settled => absurd settled unsettled
  have after := before.served orderly.documents permitted serves (Instance.isPutIn_of_read free)
    fun v writes => Instance.isPutIn_of_writes free orderly.documents writes
  show course.found.putting.Tied _ s' (course.errand.discipline.after course.stage r answer)
  rw [errand]
  exact after.imp fun _ isPut => ⟨s', rfl, isPut⟩

/-- Another request than a read is answered. -/
theorem answered (orderly : s.Orderly demands) (free : '\n' ∉ n.key.toList) (fits : g.Fits n s)
    (recorded : g.Recorded demands s c) (permitted : (courseConduct .run n).permits g r)
    (serves : s.Serves r answer s')
    (unread : ∀ namespaceName name, r ≠ .getInstance namespaceName name) :
    ((courseConduct .run n).after g r answer).Recorded demands s' (c.after r answer s') := by
  obtain ⟨-, permitted⟩ := permitted
  cases r with
  | getInstance namespaceName name => exact absurd rfl (unread namespaceName name)
  | namespaceLabels name =>
    obtain rfl := serves
    cases g <;> exact recorded
  | record about event =>
    obtain rfl := serves
    cases g <;> exact recorded
  | updateStatus given | updateInstance given =>
    have interferes := Stores.interferes_of_serves orderly serves
    cases g with
    | outset | missing => exact permitted.elim
    | under course =>
      have kept := recorded.interfered interferes
      rcases answer with error | saved <;> exact kept
  | getDocument | createDocument | updateDocument =>
    cases g with
    | outset | missing => exact permitted.elim
    | under course => exact served orderly free fits recorded permitted.2 serves

end Standing.Recorded

/-! ## Calls on record -/

namespace Watch

/-- What is remembered of the instance, and what is told of the call that was last admitted for it, agree
with where a call stands: a version that is remembered outside of attempts was read and put by the last
attempt of a call that succeeded. -/
def Tied (demands : Demands) (n : InstanceName) (s : Stores) (seen : Option Instance)
    (last : Option Call) : Watch → Prop
  | weighing => ∀ v, seen = some v →
    ∃ c action, last = some c ∧ c.Vouches demands n v ∧ c.result = some (.ok action)
  | attempting read g => ∃ c, last = some c ∧ c.result = none ∧ c.read = read ∧ g.Fits n s ∧
    g.Recorded demands s c
  | decided kept => seen = kept ∧ ∃ c, last = some c ∧ c.result = none ∧
    ∀ v, kept = some v → c.Vouches demands n v

namespace Tied

variable {demands : Demands} {n : InstanceName} {s s' : Stores} {own : ControllerState}
  {seen : Option Instance} {last : Option Call} {w : Watch} {q : Question} {r : Request}
  {answer : r.Answer}

theorem interfered (tied : w.Tied demands n s seen last) (interferes : s.Interferes demands s') :
    w.Tied demands n s' seen last := by
  cases w with
  | weighing | decided => exact tied
  | attempting read g =>
    obtain ⟨c, isLast, going, isRead, fits, recorded⟩ := tied
    exact ⟨c, isLast, going, isRead, fits.mono fun _ knows => interferes.instances.knows knows,
      recorded.interfered interferes⟩

/-- What an attempt may remember it has read and put. -/
theorem vouches {read : Option Instance} {g : Standing} {v : Instance}
    (tied : (attempting read g).Tied demands n s seen last)
    (allowed : (watchConduct n).allows (attempting read g) (.remember v)) :
    ∃ c, last = some c ∧ c.result = none ∧ c.Vouches demands n v := by
  obtain ⟨c, isLast, going, isRead, fits, recorded⟩ := tied
  obtain ⟨rfl, stays, done⟩ := allowed
  cases g with
  | outset => exact done.elim
  | missing =>
    have nothing : c.read = none := recorded
    rw [nothing] at isRead
    cases isRead
  | under course =>
    obtain ⟨read, meets, put⟩ := recorded
    obtain rfl : course.found = v := Option.some.inj (read.symm.trans isRead)
    have puts : course.puts = true := decide_eq_true fun goes => by
      rw [Instance.phase_eq_deleting_iff, stays] at goes
      cases goes
    have settled := put puts
    rw [done.stage] at settled
    exact ⟨c, isLast, going, isRead, fits.continues.key.symm.trans fits.key, meets, settled⟩

/-- Calls change what is remembered of their own instance only. -/
theorem lookup_of_ne (tied : w.Tied demands n s seen last) (allowed : (watchConduct n).allows w q)
    {key : String} (other : key ≠ n.key) :
    (own.answer q).2.seen.lookup key = own.seen.lookup key := by
  cases q with
  | now | lastSeen | count | noteActivity => rfl
  | forget forgotten =>
    obtain rfl := key_of_forget allowed
    exact NameMap.lookup_erase_of_ne other _
  | remember v =>
    cases w with
    | weighing => rcases allowed with never | never | never <;> cases never
    | decided => rcases allowed with never | ⟨-, never⟩ <;> cases never
    | attempting read g =>
      obtain ⟨c, -, -, vouches⟩ := tied.vouches allowed
      exact NameMap.lookup_insert_of_ne (fun same => other (same.trans vouches.key)) _ _

theorem asked (tied : w.Tied demands n s (own.seen.lookup n.key) last)
    (allowed : (watchConduct n).allows w q) :
    ((watchConduct n).told w q (own.answer q).1).Tied demands n s
      ((own.answer q).2.seen.lookup n.key) ((Deed.asked q (own.answer q).1).note last) := by
  have forgotten : (NameMap.erase n.key own.seen).lookup n.key = none :=
    NameMap.lookup_erase_self ..
  cases w with
  | weighing =>
    rcases allowed with rfl | rfl | rfl
    · exact tied
    · intro v isSeen
      cases forgotten.symm.trans isSeen
    · exact ⟨{}, rfl, rfl, rfl, trivial, trivial⟩
  | decided kept =>
    obtain ⟨isSeen, c, isLast, going, vouches⟩ := tied
    rcases allowed with rfl | ⟨rfl, rfl⟩
    · exact ⟨isSeen, c, isLast, going, vouches⟩
    · exact ⟨forgotten, c, isLast, going, vouches⟩
  | attempting read g =>
    have rest (q : Question) (answer : q.Answer) :
        (attempting read ((courseConduct .run n).told g q answer)).Tied demands n s
          (own.seen.lookup n.key) last := by
      obtain ⟨c, isLast, going, isRead, fits, recorded⟩ := tied
      exact ⟨c, isLast, going, isRead, fits.asked q answer, recorded.asked q answer⟩
    cases q with
    | remember v =>
      obtain ⟨c, isLast, going, vouches⟩ := tied.vouches allowed
      refine ⟨?_, c, isLast, going, fun v' kept => Option.some.inj kept ▸ vouches⟩
      rw [← vouches.key]
      exact NameMap.lookup_insert_self ..
    | forget key =>
      obtain ⟨c, isLast, going, -⟩ := tied
      rcases allowed with same | never
      · cases same
        exact ⟨forgotten, c, isLast, going, fun v never => nomatch never⟩
      · cases never
    | lastSeen key => rcases allowed with never | never <;> cases never
    | now | noteActivity => exact rest _ _
    | count tally =>
      cases tally with
      | runStarted => rcases allowed with never | never <;> cases never
      | _ => exact rest _ _

/-- An attempt begins with what is stored. -/
theorem read {c : Call} (orderly : s.Orderly demands) (going : c.result = none)
    {answer : (Request.getInstance n.namespaceName n.name).Answer}
    (serves : s.Serves (.getInstance n.namespaceName n.name) answer s') :
    ((watchConduct n).after (decided none) (.getInstance n.namespaceName n.name) answer).Tied demands n
      s' seen (some (c.after (.getInstance n.namespaceName n.name) answer s')) := by
  rcases serves with ⟨⟨error, rfl⟩, rfl⟩ | ⟨rfl, rfl⟩
  · exact ⟨_, rfl, going, rfl, trivial, trivial⟩
  · have advances : Standing.outset.Advances n s' (.getInstance n.namespaceName n.name)
        (.ok (s'.instances.stored n.key)) s' (.ofFound (s'.instances.stored n.key)) := .read rfl rfl
    refine ⟨_, rfl, going, rfl, advances.fits trivial orderly.instances, ?_⟩
    show (Standing.ofFound (s'.instances.stored n.key)).Recorded demands s' _
    cases found : s'.instances.stored n.key with
    | none => exact found
    | some i => exact ⟨found, orderly.meets _ i found, fun _ => trivial⟩

/-- An answer takes the call on: a new attempt forgets what the one before has read, and an answer
about the document is noted with the stores after it. -/
theorem answered (tied : w.Tied demands n s seen last) (orderly : s.Orderly demands)
    (free : '\n' ∉ n.key.toList) (permitted : (watchConduct n).permits w r)
    (serves : s.Serves r answer s') :
    ((watchConduct n).after w r answer).Tied demands n s' seen
      ((Deed.answered r answer s').note last) := by
  cases w with
  | weighing =>
    obtain ⟨name, rfl⟩ := permitted
    intro v isSeen
    obtain ⟨c, action, rfl, vouches, ended⟩ := tied v isSeen
    exact ⟨c, action, rfl, vouches, ended⟩
  | decided kept =>
    obtain ⟨rfl, rfl⟩ := permitted
    obtain ⟨-, c, rfl, going, -⟩ := tied
    exact Tied.read orderly going serves
  | attempting read g =>
    obtain ⟨c, rfl, going, rfl, fits, recorded⟩ := tied
    have advances := Standing.advances fits permitted serves
    cases r with
    | getInstance namespaceName name =>
      obtain ⟨-, -, rfl⟩ := permitted
      have begun : (watchConduct ⟨namespaceName, name⟩).after (attempting c.read g)
          (.getInstance namespaceName name) answer = (watchConduct ⟨namespaceName, name⟩).after
            (decided none) (.getInstance namespaceName name) answer := by
        rcases answer with error | found <;> rfl
      rw [begun]
      exact Tied.read (n := ⟨namespaceName, name⟩) orderly going serves
    | _ =>
      exact ⟨_, rfl, going, rfl, advances.fits fits orderly.instances,
        recorded.answered orderly free fits permitted serves fun _ _ never => nomatch never⟩

/-- What a call ends with is noted with it, and it leaves nothing remembered that it does not vouch
for. -/
theorem ended {result : Result Action} (tied : w.Tied demands n s seen last)
    (ends : w.Ends result) : weighing.Tied demands n s seen ((Deed.ended result).note last) := by
  cases w with
  | weighing =>
    intro v isSeen
    obtain ⟨c, action, rfl, vouches, ended⟩ := tied v isSeen
    refine ⟨_, action, rfl, { vouches with }, ?_⟩
    show c.result.or (some result) = _
    rw [ended]
    rfl
  | attempting => exact ends.elim
  | decided kept =>
    obtain ⟨rfl, c, rfl, going, vouches⟩ := tied
    intro v isSeen
    subst isSeen
    rcases result with error | action
    · cases ends rfl
    · refine ⟨_, action, rfl, { vouches v rfl with }, ?_⟩
      show c.result.or (some (.ok action)) = _
      rw [going]
      rfl

end Tied

end Watch

/-! ## Runs -/

section Run

variable {κ : Type} [DecidableEq κ] {subject : κ → InstanceName} {demands : Demands}
  {settings : Settings}

/-- In a world with a story all calls are where their notes say, and what is remembered agrees. -/
structure Remembers (subject : κ → InstanceName) (demands : Demands) (notes : κ → Watch)
    (story : List (κ × Deed (Result Action))) (w : World κ (Result Action)) : Prop where
  orderly : w.stores.Orderly demands
  tied (a : κ) : (notes a).Tied demands (subject a) w.stores
    (w.own.seen.lookup (subject a).key) (lastCall a story)
  follows : w.Follows (fun a => watchConduct (subject a)) (fun _ => Watch.Ends)
    (fun _ => .weighing) notes

namespace Remembers

variable {notes : κ → Watch} {story : List (κ × Deed (Result Action))}
  {w w' : World κ (Result Action)} {a : κ}

/-- One call goes on, and changes what is remembered of its own instance at most. -/
theorem proceed {p : Option (Program (Result Action))} {g : Watch} {d : Deed (Result Action)}
    (remembers : Remembers subject demands notes story w)
    (distinct : ∀ j k, (subject j).key = (subject k).key → j = k)
    (moved : w'.running = (w.proceed a p).running)
    (interferes : w.stores.Interferes demands w'.stores)
    (others : ∀ key, key ≠ (subject a).key → w'.own.seen.lookup key = w.own.seen.lookup key)
    (tied : g.Tied demands (subject a) w'.stores (w'.own.seen.lookup (subject a).key)
      (d.note (lastCall a story)))
    (idle : p = none → g = .weighing)
    (conforms : ∀ q, p = some q → q.Conforms (watchConduct (subject a)) Watch.Ends g) :
    Remembers subject demands (Function.update notes a g) (story ++ [(a, d)]) w' where
  orderly := remembers.orderly.interfered interferes
  tied b := by
    by_cases same : b = a
    · subst same
      rw [Function.update_self, lastCall_concat_self]
      exact tied
    · have apart : (subject b).key ≠ (subject a).key := fun keys => same (distinct b a keys)
      rw [Function.update_of_ne same, lastCall_concat_of_ne same, others _ apart]
      exact (remembers.tied b).interfered interferes
  follows := remembers.follows.proceed moved idle conforms

end Remembers

variable {w₀ w : World κ (Result Action)} {story : List (κ × Deed (Result Action))}

/-- In every run from an idle world in which nothing is remembered, calls and memory agree. -/
theorem exists_remembers (distinct : ∀ j k, (subject j).key = (subject k).key → j = k)
    (free : ∀ k, '\n' ∉ (subject k).key.toList) (idle : w₀.Idle)
    (orderly : w₀.stores.Orderly demands) (unaware : w₀.own.seen = [])
    (unfolds : World.Unfolds (fun k p => Calls settings (subject k) p) (Stores.Interferes demands)
      w₀ story w) :
    ∃ notes, Remembers subject demands notes story w := by
  have still : ∀ s : Stores, s.Interferes demands s := fun s => ⟨.same, .same⟩
  induction unfolds with
  | outset =>
    refine ⟨fun _ => .weighing, orderly, fun a v isSeen => ?_, fun _ => rfl, fun {a p} atPoint => ?_⟩
    · rw [unaware] at isSeen
      cases isSeen
    · rw [idle.running a] at atPoint
      cases atPoint
  | @begun story w a p _ atRest start ih =>
    obtain ⟨notes, remembers⟩ := ih
    have weighs : notes a = .weighing := remembers.follows.idle atRest
    refine ⟨_, remembers.proceed (a := a) (g := .weighing) (p := some p) distinct rfl (still _)
      (fun _ _ => rfl) (weighs ▸ remembers.tied a) (fun _ => rfl) fun q now => ?_⟩
    cases now
    exact Calls.conforms start
  | @ended story w a value _ atEnd ih =>
    obtain ⟨notes, remembers⟩ := ih
    have ends : (notes a).Ends value := remembers.follows.conforms atEnd
    exact ⟨_, remembers.proceed distinct rfl (still _) (fun _ _ => rfl)
      ((remembers.tied a).ended ends) (fun _ => rfl) fun q now => nomatch now⟩
  | @asked story w a q next _ atQuestion ih =>
    obtain ⟨notes, remembers⟩ := ih
    obtain ⟨allowed, rest⟩ := remembers.follows.conforms atQuestion
    refine ⟨_, remembers.proceed distinct rfl (still _)
      (fun key other => (remembers.tied a).lookup_of_ne allowed other)
      ((remembers.tied a).asked allowed) (fun never => nomatch never) fun p now => ?_⟩
    cases now
    exact rest _
  | @answered story w w' a r answer _ answers ih =>
    obtain ⟨notes, remembers⟩ := ih
    obtain ⟨next, stores, atRequest, serves⟩ := answers
    obtain ⟨permitted, rest⟩ := remembers.follows.conforms atRequest
    refine ⟨_, remembers.proceed distinct rfl
      (Stores.interferes_of_serves remembers.orderly serves) (fun _ _ => rfl)
      ((remembers.tied a).answered remembers.orderly (free a) permitted serves)
      (fun never => nomatch never) fun p now => ?_⟩
    cases now
    exact rest answer
  | interfered stores _ interferes ih =>
    obtain ⟨notes, remembers⟩ := ih
    exact ⟨notes, remembers.orderly.interfered interferes,
      fun a => (remembers.tied a).interfered interferes, remembers.follows.idle,
      remembers.follows.conforms⟩
  | elapsed clock _ ih =>
    obtain ⟨notes, remembers⟩ := ih
    exact ⟨notes, remembers.orderly, remembers.tied, remembers.follows.idle,
      remembers.follows.conforms⟩

/-- A version in scope that is stored and to stay is dropped only behind a call that has put its
block. -/
theorem exists_call_of_dropped (distinct : ∀ j k, (subject j).key = (subject k).key → j = k)
    (free : ∀ k, '\n' ∉ (subject k).key.toList) (idle : w₀.Idle)
    (orderly : w₀.stores.Orderly demands) (unaware : w₀.own.seen = [])
    (unfolds : World.Unfolds (fun k p => Calls settings (subject k) p) (Stores.Interferes demands)
      w₀ story w)
    {k : κ} {told : Instance} (running : w.running k = some (reconcile settings told))
    (stored : w.stores.instances.stored told.key = some told) (stays : told.isDeleting = false)
    {σ : Type} {handle : Handler σ} {s : σ}
    (included : ((settings.scope.includes told.metadata).run handle s w.own).1 = true)
    (dropped : ((settings.scope.admitInstance told).run handle s w.own).1 = false) :
    ∃ (c : Call) (v : Instance) (action : Action) (t : Stores), lastCall k story = some c ∧
      c.result = some (.ok action) ∧ c.read = some v ∧
      v.metadata.generation = told.metadata.generation ∧
      v.metadata.labelMap = told.metadata.labelMap ∧
      v.metadata.finalizerList = told.metadata.finalizerList ∧ c.document = some t ∧
      told.IsPutIn t := by
  obtain ⟨notes, remembers⟩ := exists_remembers distinct free idle orderly unaware unfolds
  have tied := remembers.tied k
  obtain ⟨asks, -⟩ := remembers.follows.conforms running
  -- Its first question is what was reconciled last, so the call is still weighed.
  cases note : notes k with
  | attempting =>
    rw [note] at asks
    rcases asks with never | never <;> cases never
  | decided =>
    rw [note] at asks
    rcases asks with never | ⟨-, never⟩ <;> cases never
  | weighing =>
    rw [note] at asks tied
    have key : told.key = (subject k).key := by
      rcases asks with same | never | never
      · exact Question.lastSeen.inj same
      · cases never
      · cases never
    obtain ⟨v, isSeen, generation, labels, finalizers⟩ :=
      Scope.exists_of_unchanged stays (Scope.unchanged_of_dropped included dropped)
    rw [key] at isSeen
    obtain ⟨c, action, isLast, vouches, ended⟩ := tied v isSeen
    obtain ⟨t, isDocument, isPut⟩ := vouches.put
    have same : v.putting = told.putting :=
      vouches.meets.putting_eq (remembers.orderly.meets _ told stored)
        (vouches.key.trans key.symm) generation
    exact ⟨c, v, action, t, isLast, ended, vouches.read, generation, labels, finalizers, isDocument,
      isPut.congr same⟩

end Run

/-- Whatever versions of instances the controller is told of, whatever requests and lookups of
namespaces fail, and whatever others do whose edits of what an instance asks for give it another
generation: if a version that is stored, in scope and to stay is dropped, the call for its instance
that was admitted last succeeded. The last attempt of that call has read a version of the same
generation, labels and finalizers, and once it was done with the document this had the lines of the
block of the resources that the instance asks for now; the block could be found there unless their
text runs into the end marker. -/
theorem dropped_version_was_reconciled {κ : Type} [DecidableEq κ] (subject : κ → InstanceName)
    (distinct : ∀ j k, (subject j).key = (subject k).key → j = k)
    (free : ∀ k, '\n' ∉ (subject k).key.toList) (settings : Settings) (demands : Demands)
    {w₀ w : World κ (Result Action)} (idle : w₀.Idle) (orderly : w₀.stores.Orderly demands)
    (unaware : w₀.own.seen = []) {story : List (κ × Deed (Result Action))}
    (unfolds : World.Unfolds (fun k p => Calls settings (subject k) p) (Stores.Interferes demands)
      w₀ story w)
    {k : κ} {told : Instance} (running : w.running k = some (reconcile settings told))
    (stored : w.stores.instances.stored told.key = some told) (stays : told.isDeleting = false)
    {σ : Type} {handle : Handler σ} {s : σ}
    (included : ((settings.scope.includes told.metadata).run handle s w.own).1 = true)
    (dropped : ((settings.scope.admitInstance told).run handle s w.own).1 = false) :
    ∃ (c : Call) (v : Instance) (action : Action) (t : Stores), lastCall k story = some c ∧
      c.result = some (.ok action) ∧ c.read = some v ∧
      v.metadata.generation = told.metadata.generation ∧
      v.metadata.labelMap = told.metadata.labelMap ∧
      v.metadata.finalizerList = told.metadata.finalizerList ∧ c.document = some t ∧
      Block.HasLines (t.content told.target).toList told.key.toList told.fragment.toList ∧
      (Block.located (t.content told.target).toList told.key.toList =
        some (Block.render told.key.toList told.fragment.toList) ↔
          Block.closes told.fragment.toList = true) := by
  obtain ⟨c, v, action, t, isLast, ended, read, generation, labels, finalizers, isDocument, isPut⟩ :=
    exists_call_of_dropped distinct free idle orderly unaware unfolds running stored stays included
      dropped
  exact ⟨c, v, action, t, isLast, ended, read, generation, labels, finalizers, isDocument,
    isPut.written, isPut.stands⟩

/-! ## A version that is dropped -/

/-- An instance of one text that was reconciled before the controller was started. -/
def Instance.veteran (text : String) : Instance :=
  { Instance.newborn "foo" text with metadata.finalizers := some [Instance.finalizer] }

namespace Cluster

/-- The cluster in which nothing but an instance was created that has its finalizer already. -/
def resumed (text : String) : Cluster := (({} : Cluster).saveInstance (.veteran text)).2

/-- What becomes of the first call for the instance. -/
def firstCall (text : String) : Program (Result Action) × Cluster × ControllerState :=
  (reconcile {} ((Instance.veteran text).numbered 1)).runUntil (fun _ => false) handle (resumed text) {}

/-- Whether the version of the instance is dropped when it is told next. -/
def drops (own : ControllerState) (text : String) (told : Instance) : Bool :=
  told.metadata.namespaceName = "bar" && told.metadata.anyName = "foo" && !told.isDeleting &&
    told.asksFor text && !((({} : Scope).admitInstance told).run handle {} own).1

/-- If the first call for the instance succeeds and the version that is stored then is dropped, there is
a world in which it is. -/
theorem exists_dropped (text : String) (succeeds : (firstCall text).1.succeeded = true)
    (drops : ((firstCall text).2.1.instances.lookup "foo@bar").any
      (drops (firstCall text).2.2 text) = true) :
    ∃ (demands : Demands) (w₀ w : World Unit (Result Action))
      (story : List (Unit × Deed (Result Action))) (told : Instance),
      w₀.Idle ∧ w₀.stores.Orderly demands ∧ w₀.own.seen = [] ∧
      World.Unfolds (fun _ p => Calls {} ⟨"bar", "foo"⟩ p) (Stores.Interferes demands) w₀ story w ∧
      w.running () = some (reconcile {} told) ∧
      w.stores.instances.stored told.key = some told ∧ told.isDeleting = false ∧
      told.spec.resources = [.str text] ∧
      ((({} : Scope).includes told.metadata).run handle {} w.own).1 = true ∧
      ((({} : Scope).admitInstance told).run handle {} w.own).1 = false := by
  let demands : Demands := fun _ _ => ("bar", (Instance.veteran text).spec)
  let starts : Unit → Program (Result Action) → Prop := fun _ p => Calls {} ⟨"bar", "foo"⟩ p
  let w₀ := World.onCluster Unit (Result Action) {}
  have orderly : w₀.stores.Orderly demands :=
    ⟨sound_instances rfl, sound_documents rfl, fun key i stored =>
      nomatch (show none = some i from stored)⟩
  obtain ⟨s, v, writes, shows⟩ := (shows_stores {}).exists_saved (.veteran text)
  have shows : (resumed text).Shows s := shows
  have created : w₀.stores.Interferes demands s :=
    ⟨writes.instances ▸ .written writes.fresh rfl, writes.documents ▸ .same⟩
  have may : starts () (reconcile {} ((Instance.veteran text).numbered 1)) := ⟨_, rfl, rfl⟩
  obtain ⟨w₁, run, atEnd, shows, own, -, -⟩ := World.reaches_undisturbed
    (Stores.Interferes demands) (w := { w₀ with stores := s }) may rfl shows
  obtain ⟨action, ended⟩ := Program.exists_of_succeeded succeeds
  obtain ⟨told, look, dropped⟩ := (Option.any_eq_true _ _).1 drops
  simp only [Cluster.drops, Bool.and_eq_true, decide_eq_true_eq, Bool.not_eq_true'] at dropped
  obtain ⟨⟨⟨⟨namespaceName, name⟩, stays⟩, asks⟩, dropped⟩ := dropped
  -- The first call is over, and the next one is for the version that is stored then.
  let w := (w₁.proceed () none).proceed () (some (reconcile {} told))
  have run : World.Reaches starts (Stores.Interferes demands) w₀ w :=
    ((Relation.ReflTransGen.single (.interfered s created)).trans run).trans
      ((Relation.ReflTransGen.single (.ended () (.ok action) (ended ▸ atEnd))).tail
        (.begun () _ (World.proceed_running_self ..) ⟨told, by rw [namespaceName, name], rfl⟩))
  obtain ⟨story, unfolds⟩ := World.exists_story run
  have stored : w₁.stores.instances.stored told.key = some told := by
    rw [shows.instances.stored, Instance.key, namespaceName, name]
    exact look
  have dropped : ((({} : Scope).admitInstance told).run handle {} w₁.own).1 =
      false := by
    rw [own]
    exact dropped
  exact ⟨demands, w₀, w, story, told, World.idle_onCluster {}, orderly, rfl, unfolds,
    World.proceed_running_self .., stored, stays, Instance.resources_of_asksFor asks, rfl, dropped⟩

end Cluster

/-- A plain text: the version stored by the first call is dropped, and its block was put. -/
theorem dropped_version_was_reconciled_of_a :
    ∃ (demands : Demands) (w₀ w : World Unit (Result Action))
      (story : List (Unit × Deed (Result Action))) (told v : Instance) (c : Call) (action : Action)
      (t : Stores), w₀.Idle ∧ w₀.stores.Orderly demands ∧ w₀.own.seen = [] ∧
      World.Unfolds (fun _ p => Calls {} ⟨"bar", "foo"⟩ p) (Stores.Interferes demands) w₀ story w ∧
      w.running () = some (reconcile {} told) ∧
      w.stores.instances.stored told.key = some told ∧ told.isDeleting = false ∧
      ((({} : Scope).includes told.metadata).run Cluster.handle {} w.own).1 = true ∧
      ((({} : Scope).admitInstance told).run Cluster.handle {} w.own).1 = false ∧
      lastCall () story = some c ∧ c.result = some (.ok action) ∧ c.read = some v ∧
      v.metadata.generation = told.metadata.generation ∧ c.document = some t ∧
      Block.located (t.content told.target).toList told.key.toList =
        some (Block.render told.key.toList told.fragment.toList) := by
  obtain ⟨demands, w₀, w, story, told, idle, orderly, unaware, unfolds, running, stored, stays,
    resources, included, dropped⟩ := Cluster.exists_dropped "a" (by decide +kernel) (by decide +kernel)
  have closed : Block.closes told.fragment.toList = true := by
    rw [Instance.fragment, resources, Fragment.closes_str]
    decide +kernel
  obtain ⟨c, v, action, t, isLast, ended, read, generation, -, -, isDocument, -, stands⟩ :=
    dropped_version_was_reconciled (fun _ => ⟨"bar", "foo"⟩) (fun _ _ _ => rfl) nursery_free {} demands
      idle orderly unaware unfolds running stored stays included dropped
  exact ⟨demands, w₀, w, story, told, v, c, action, t, idle, orderly, unaware, unfolds, running,
    stored, stays, included, dropped, isLast, ended, read, generation, isDocument, stands.2 closed⟩

/-- A text with line breaks that ends in a line separator: the version stored by the first call is
dropped, though no block was put that could be found. -/
theorem dropped_without_block :
    ∃ (demands : Demands) (w₀ w : World Unit (Result Action))
      (story : List (Unit × Deed (Result Action))) (told : Instance) (c : Call) (action : Action)
      (t : Stores), w₀.Idle ∧ w₀.stores.Orderly demands ∧ w₀.own.seen = [] ∧
      World.Unfolds (fun _ p => Calls {} ⟨"bar", "foo"⟩ p) (Stores.Interferes demands) w₀ story w ∧
      w.running () = some (reconcile {} told) ∧
      w.stores.instances.stored told.key = some told ∧ told.isDeleting = false ∧
      told.spec.resources = [.str "a\nb\u2028"] ∧
      ((({} : Scope).includes told.metadata).run Cluster.handle {} w.own).1 = true ∧
      ((({} : Scope).admitInstance told).run Cluster.handle {} w.own).1 = false ∧
      lastCall () story = some c ∧ c.result = some (.ok action) ∧ c.document = some t ∧
      Block.located (t.content told.target).toList told.key.toList ≠
        some (Block.render told.key.toList told.fragment.toList) := by
  obtain ⟨demands, w₀, w, story, told, idle, orderly, unaware, unfolds, running, stored, stays,
    resources, included, dropped⟩ :=
    Cluster.exists_dropped "a\nb\u2028" (by decide +kernel) (by decide +kernel)
  have notClosed : Block.closes told.fragment.toList = false := by
    rw [Instance.fragment, resources, Fragment.closes_str]
    decide +kernel
  obtain ⟨c, v, action, t, isLast, ended, -, -, -, -, isDocument, isPut⟩ :=
    exists_call_of_dropped (fun _ _ _ => rfl) nursery_free idle orderly unaware unfolds running stored
      stays included dropped
  refine ⟨demands, w₀, w, story, told, c, action, t, idle, orderly, unaware, unfolds, running, stored,
    stays, resources, included, dropped, isLast, ended, isDocument, fun stands => ?_⟩
  rw [isPut.stands.1 stands] at notClosed
  cases notClosed

end StateMetrics
