import StateMetrics.Proofs.Reconcile.Failure
import StateMetrics.Proofs.Run.Exchanges

/-!
# What an attempt draws on

An attempt reads its instance before anything else, and all that it sends afterwards is made from what
its own requests were answered: from the versions of its instance that were read or written by it, and
from the document that it read for one of them. What the controller remembers of earlier attempts is
not asked for. The conduct goes by the record of all exchanges of the attempt, and each function of the
attempt is shown to keep to it (`Sources.reconcileKey_conforms`).
-/

namespace StateMetrics

/-- The version of an instance that an answer hands over. -/
def Request.version? : (r : Request) → r.Answer → Option Instance
  | .getInstance .., .ok found => found
  | .updateInstance _, .ok saved => some saved
  | .updateStatus _, .ok saved => some saved
  | _, _ => none

def Exchange.version? : Exchange → Option Instance
  | .answered r answer => r.version? answer
  | .told .. => none

/-- The versions of instances that were handed over. -/
def versions (exchanges : List Exchange) : List Instance := exchanges.filterMap Exchange.version?

/-- The request writes what an errand of a version at hand makes of the document that was read for it. -/
def Request.CarriesOut (before : List Exchange) (r : Request) : Prop :=
  ∃ i ∈ versions before, ∃ found puts,
    .answered (.getDocument i.target) (.ok found) ∈ before ∧ (i.errand puts).write? found = some r

/-- What is requested is made from what was exchanged before. An instance is read before anything else;
a write of it gives a version at hand another status, or the finalizer that it is to have. -/
def Request.DrawsOn (before : List Exchange) : Request → Prop
  | .getInstance .. => before = []
  | .updateInstance given => ∃ i ∈ versions before, ∃ puts, given = i.finalized puts
  | .updateStatus given => ∃ i ∈ versions before, ∃ j moment status reason message,
    j.AtMostFinalized i ∧ given = (Instance.setReady j moment status reason message).1
  | .getDocument target => ∃ i ∈ versions before, target = i.target
  | .createDocument given => CarriesOut before (.createDocument given)
  | .updateDocument given => CarriesOut before (.updateDocument given)
  | .namespaceLabels _ => False
  | .record about _ => ∃ i ∈ versions before, about.AtMostFinalized i

/-- What was reconciled last is not asked, and what is to be remembered is a version at hand. -/
def Question.DrawsOn (before : List Exchange) : Question → Prop
  | .lastSeen _ => False
  | .remember version => version ∈ versions before
  | _ => True

/-- What is exchanged is made from what was exchanged before. -/
def Exchange.DrawsOn (before : List Exchange) : Exchange → Prop
  | .answered r _ => r.DrawsOn before
  | .told q _ => q.DrawsOn before

/-- Everything is made from what was exchanged before. -/
abbrev sourceConduct : Conduct (List Exchange) := .onRecord Exchange.DrawsOn

namespace Sources

open Program

variable {before : List Exchange} {i j : Instance}

/-- A version once handed out stays one of those handed out. -/
theorem mem_versions_append {more : List Exchange} (mem : i ∈ versions before) :
    i ∈ versions (before ++ more) := by
  rw [versions, List.filterMap_append]
  exact List.mem_append_left _ mem

theorem mem_versions_concat {r : Request} {answer : r.Answer}
    (handed : r.version? answer = some i) : i ∈ versions (before ++ [.answered r answer]) := by
  simp [versions, Exchange.version?, handed]

/-- What was at hand stays at hand. -/
theorem keeping {α : Type} {p : Program α} {post : List Exchange → α → Prop}
    (mem : i ∈ versions before) (conforms : p.Conforms sourceConduct post before) :
    p.Conforms sourceConduct (fun record value => i ∈ versions record ∧ post record value) before :=
  conforms.grown.mono fun _ _ held => ⟨(held.1.sublist.filterMap _).subset mem, held.2⟩

/-- A request with a permitted source leaves the known version known. -/
theorem send_conforms {r : Request} (mem : i ∈ versions before) (draws : r.DrawsOn before) :
    (Program.send r).Conforms sourceConduct (fun record _ => i ∈ versions record) before :=
  Conforms.send (fun _ => draws) fun _ => mem_versions_append mem

theorem inquire_conforms {q : Question} (mem : i ∈ versions before) (draws : q.DrawsOn before) :
    (Program.inquire q).Conforms sourceConduct (fun record _ => i ∈ versions record) before :=
  Conforms.inquire (fun _ => draws) fun _ => mem_versions_append mem

theorem tell_conforms (mem : i ∈ versions before) (reason : Reason) (message : String) :
    (i.tell reason message).Conforms sourceConduct (fun record _ => i ∈ versions record) before :=
  send_conforms mem ⟨i, mem, .refl i⟩

/-- An event is recorded on what may carry a finalizer more or less than the version it stems
from. -/
theorem warn_conforms (mem : i ∈ versions before) (alike : j.AtMostFinalized i) (reason : Reason)
    (message : String) :
    (j.warn reason message).Conforms sourceConduct (fun record _ => i ∈ versions record) before :=
  send_conforms mem ⟨i, mem, alike⟩

/-- The version that is stored once the status was written is at hand, if the one before was. -/
theorem writeReady_conforms (mem : i ∈ versions before) (alike : j.AtMostFinalized i)
    (status : Bool) (reason : Reason) (message : String) :
    (j.writeReady status reason message).Conforms sourceConduct
      (fun record result => i ∈ versions record ∧
        (j = i → ∀ saved, result = .ok saved → saved ∈ versions record)) before := by
  refine keeping mem ((inquire_conforms (q := .now) mem trivial).bind ?_)
  intro record (moment : Moment) mem
  dsimp only
  generalize set : j.setReady moment status reason message = given
  rcases given with ⟨given, _ | _⟩
  · rintro rfl saved done
    exact Except.ok.inj done ▸ mem
  · refine ⟨fun _ => ⟨i, mem, j, moment, status, reason, message, alike, ?_⟩, fun answer => ?_⟩
    · rw [set]
    · rintro - saved rfl
      exact mem_versions_concat rfl

/-- The report of a failure is drawn from a version at hand: the status it writes and the instance
it warns on. -/
theorem fail_conforms (mem : i ∈ versions before) (alike : j.AtMostFinalized i) (reason : Reason)
    (what : String) (error : Error) :
    (j.fail reason what error).Conforms sourceConduct (fun _ _ => True) before := by
  refine (warn_conforms mem alike reason _).bind fun record _ mem => ?_
  refine (writeReady_conforms mem alike false reason _).bind fun record result held => ?_
  rcases result with e | saved
  · exact (warn_conforms held.1 alike reason _).bind fun _ _ _ => trivial
  · exact trivial

theorem failWith_conforms {α : Type} (mem : i ∈ versions before) (alike : j.AtMostFinalized i)
    (reason : Reason) (what : String) (error : Error) :
    (j.failWith reason what error : Program (Result α)).Conforms sourceConduct (fun _ _ => True)
      before :=
  (fail_conforms mem alike reason what error).bind fun _ _ _ => trivial

/-- Writing the finalizer that a version at hand is to have. -/
theorem updateFinalizer_conforms (mem : i ∈ versions before) (puts : Bool) :
    (Program.send (.updateInstance (i.finalized puts))).Conforms sourceConduct
      (fun record _ => i ∈ versions record) before :=
  send_conforms mem ⟨i, mem, puts, rfl⟩

/-- While an errand is under way, what it has read is on record. -/
def OnRecord (i : Instance) (stage : Errand.Stage) (record : List Exchange) : Prop :=
  i ∈ versions record ∧
    ∀ found, stage = .writing found → .answered (.getDocument i.target) (.ok found) ∈ record

/-- An errand of a version at hand goes by the document that it has read. -/
theorem errand_conforms {α : Type} {p : Program α} (puts : Bool)
    {post : Errand.Stage → α → Prop} (mem : i ∈ versions before)
    (conforms : p.Conforms (i.errand puts).conduct post .unread) :
    p.Conforms sourceConduct (fun record _ => i ∈ versions record) before := by
  have target : (i.errand puts).target = i.target := by cases puts <;> rfl
  refine conforms.along (OnRecord i) ?_ ?_ (fun _ (never : False) => never.elim)
    (fun _ (never : False) => never.elim) (fun onRecord _ => onRecord.1)
    ⟨mem, fun _ never => by cases never⟩
  · intro stage record r onRecord permitted answer
    cases stage with
    | unread =>
      obtain rfl : r = .getDocument (i.errand puts).target := permitted
      exact ⟨i, onRecord.1, target⟩
    | writing found =>
      have carries : r.CarriesOut record :=
        ⟨i, onRecord.1, found, puts, onRecord.2 found rfl, permitted⟩
      rcases Errand.permits_cases permitted with ⟨_, rfl⟩ | ⟨_, rfl⟩ | ⟨_, rfl⟩
      · cases found <;> simp [Errand.conduct, Errand.discipline, Errand.write?] at permitted
      · exact carries
      · exact carries
    | settled => exact permitted.elim
    | failed => exact permitted.elim
  · intro stage record r answer onRecord permitted
    refine ⟨mem_versions_append onRecord.1, fun found writing => ?_⟩
    cases Errand.read_of_after permitted writing
    rw [← target]
    exact List.mem_append_right _ (List.mem_singleton.2 rfl)

/-- The errand that puts a block draws every write of the document on what it has read. -/
theorem addToDocument_conforms (mem : i ∈ versions before) :
    i.addToDocument.Conforms sourceConduct (fun record _ => i ∈ versions record) before :=
  errand_conforms true mem (Errand.addToDocument_conforms i)

/-- The errand that removes a block draws its write of the document on what it has read. -/
theorem removeFromDocument_conforms (mem : i ∈ versions before) :
    i.removeFromDocument.Conforms sourceConduct (fun record _ => i ∈ versions record) before :=
  errand_conforms false mem (Errand.removeFromDocument_conforms i)

/-- A first attempt draws every write on the version at hand: the one it has read, then each one
that a write of its own handed back. -/
theorem create_conforms (mem : i ∈ versions before) :
    i.create.Conforms sourceConduct (fun _ _ => True) before := by
  refine (tell_conforms mem _ _).bind fun record _ mem => ?_
  refine (writeReady_conforms mem (.refl i) false _ _).bind fun record result held => ?_
  rcases result with error | begun
  · exact trivial
  have mem : begun ∈ versions record := held.2 rfl begun rfl
  refine (addToDocument_conforms mem).bind fun record result mem => ?_
  rcases result with error | outcome
  · exact failWith_conforms mem (.refl begun) _ _ error
  refine (tell_conforms mem _ _).bind fun record _ mem => ?_
  refine (writeReady_conforms mem (.refl begun) true _ _).bind fun record result held => ?_
  rcases result with error | ready
  · exact trivial
  have mem : ready ∈ versions record := held.2 rfl ready rfl
  refine (updateFinalizer_conforms mem true).bind fun record result mem => ?_
  rcases result with error | saved
  · exact failWith_conforms mem (ready.atMostFinalized_finalized true) _ _ error
  · exact (inquire_conforms (q := .count .instanceGained) mem trivial).bind fun _ _ _ => trivial

/-- An attempt at an edited instance draws every write on the version at hand. -/
theorem update_conforms (mem : i ∈ versions before) :
    i.update.Conforms sourceConduct (fun _ _ => True) before := by
  refine (tell_conforms mem _ _).bind fun record _ mem => ?_
  refine (addToDocument_conforms mem).bind fun record result mem => ?_
  rcases result with error | outcome
  · exact failWith_conforms mem (.refl i) _ _ error
  refine (tell_conforms mem _ _).bind fun record _ mem => ?_
  refine (writeReady_conforms mem (.refl i) true _ _).bind fun record result _ => ?_
  rcases result with error | saved <;> exact trivial

theorem apply_conforms (mem : i ∈ versions before) :
    i.apply.Conforms sourceConduct (fun _ _ => True) before := by
  refine (inquire_conforms (q := .noteActivity) mem trivial).bind fun record _ mem => ?_
  dsimp only
  split
  · exact (create_conforms mem).bind fun _ _ _ => trivial
  · exact (update_conforms mem).bind fun _ _ _ => trivial

/-- An attempt at an instance that is to go draws every write on the version at hand. -/
theorem cleanup_conforms (mem : i ∈ versions before) :
    i.cleanup.Conforms sourceConduct (fun _ _ => True) before := by
  refine (inquire_conforms (q := .noteActivity) mem trivial).bind fun record _ mem => ?_
  refine (tell_conforms mem _ _).bind fun record _ mem => ?_
  refine (removeFromDocument_conforms mem).bind fun record result mem => ?_
  rcases result with error | outcome
  · exact failWith_conforms mem (.refl i) _ _ error
  refine (tell_conforms mem _ _).bind fun record _ mem => ?_
  refine (writeReady_conforms mem (.refl i) false _ _).bind fun record result held => ?_
  rcases result with error | ready
  · exact trivial
  have mem : ready ∈ versions record := held.2 rfl ready rfl
  dsimp only
  split
  · refine (updateFinalizer_conforms mem false).bind fun record result mem => ?_
    rcases result with error | saved
    · exact failWith_conforms mem (ready.atMostFinalized_finalized false) _ _ error
    · exact (inquire_conforms (q := .count .instanceLost) mem trivial).bind fun _ _ _ => trivial
  · exact trivial

/-- An attempt begins with its own read, and with nothing at hand. -/
theorem reconcileKey_conforms (namespaceName name : String) :
    (reconcileKey namespaceName name).Conforms sourceConduct (fun _ _ => True) [] := by
  rw [reconcileKey_eq]
  refine ⟨fun _ => rfl, fun answer => ?_⟩
  rcases answer with error | _ | i
  · exact trivial
  · exact ⟨fun _ => trivial, fun _ => trivial⟩
  · have mem : i ∈ versions [.answered (.getInstance namespaceName name) (.ok (some i))] :=
      List.mem_singleton.2 rfl
    have attempted : (if i.phase = .deleting then i.cleanup else i.apply).Conforms sourceConduct
        (fun _ _ => True) [.answered (.getInstance namespaceName name) (.ok (some i))] := by
      split
      · exact cleanup_conforms mem
      · exact apply_conforms mem
    refine (keeping mem attempted).bind fun record result held => ?_
    rw [Instance.conclude]
    split
    · exact ⟨fun _ => held.1, fun _ => trivial⟩
    · exact ⟨fun _ => trivial, fun _ => trivial⟩

end Sources

end StateMetrics
