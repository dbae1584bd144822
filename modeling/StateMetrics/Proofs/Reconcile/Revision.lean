import Mathlib.Logic.Function.Iterate
import Mathlib.Order.Monotone.Basic
import StateMetrics.Proofs.Block.Placement
import StateMetrics.Proofs.Reconcile.Errand

/-!
# Errands done again

What an errand makes of the data of all config maps, as a function of them: doing an errand several
times is iterating it. With a closed block, or none, the errand is done at the first time. A block
that runs into its end marker comes once more each time (`revise_iterate_eq_iff`).
-/

namespace StateMetrics

open Text

/-- The data of the stored config maps. -/
def Cluster.data (c : Cluster) (mapKey : String) : Option (Option TextMap) :=
  (c.documents.lookup mapKey).map (·.data)

namespace Errand

variable {e : Errand}

/-- The text of the document in the data of its config map; empty when there is none. -/
def textIn (e : Errand) (data : Option (Option TextMap)) : String :=
  ((data.join.getD []).lookup e.target.key).getD ""

/-- What the errand makes of the data of its config map. -/
def revised (e : Errand) (data : Option (Option TextMap)) : Option (Option TextMap) :=
  match e.rewrite? (e.textIn data) with
  | none => data
  | some content => some (some (NameMap.insert e.target.key content (data.join.getD [])))

/-- What the errand makes of the data of all config maps. -/
def revise (e : Errand) (data : String → Option (Option TextMap)) :
    String → Option (Option TextMap) :=
  Function.update data e.target.mapKey (e.revised (data e.target.mapKey))

/-- No part of the block that the errand puts, if any, runs into the end marker. -/
def closed (e : Errand) : Bool :=
  match e.fragment? with
  | some fragment => Block.closes fragment.toList
  | none => true

/-- The text of the document in the revised data is the merged one. -/
theorem textIn_revised (data : Option (Option TextMap)) :
    e.textIn (e.revised data) = e.merge (e.textIn data) := by
  rw [revised, merge]
  cases e.rewrite? (e.textIn data) with
  | none => rfl
  | some content =>
    show ((NameMap.insert e.target.key content (data.join.getD [])).lookup e.target.key).getD "" = _
    rw [NameMap.lookup_insert_self]
    rfl

/-! ## What is written -/

/-- An errand that writes nothing leaves the data of its config map as it is. -/
theorem revised_of_write?_eq_none {found : Option ConfigMap} (idle : e.write? found = none) :
    e.revised (found.map (·.data)) = found.map (·.data) := by
  have kept : e.rewrite? (e.textIn (found.map (·.data))) = none := by
    cases found with
    | none => exact rewrite?_empty_of_removes (Option.map_eq_none_iff.1 idle)
    | some d => exact Option.map_eq_none_iff.1 idle
  rw [revised, kept]

/-- What an errand writes has the data that the errand makes. -/
theorem exists_written {found : Option ConfigMap} {r : Request} (write : e.write? found = some r) :
    ∃ d : ConfigMap, e.revised (found.map (·.data)) = some d.data ∧
      (found = none ∧ r = .createDocument d ∧ d.mapKey = e.target.mapKey ∨
        ∃ d', found = some d' ∧ r = .updateDocument d ∧
          d.metadata = d'.metadata) := by
  cases found with
  | none =>
    obtain ⟨fragment, puts, rfl⟩ := Option.map_eq_some_iff.1 write
    refine ⟨_, ?_, .inl ⟨rfl, rfl, rfl⟩⟩
    have rewritten : e.rewrite? (e.textIn none) =
        some (Document.header ++ Document.renderBlock e.key fragment) := rewrite?_empty puts
    rw [Option.map_none, revised, rewritten]
    rfl
  | some d =>
    obtain ⟨content, rewritten, rfl⟩ := Option.map_eq_some_iff.1 write
    refine ⟨_, ?_, .inr ⟨d, rfl, rfl, rfl⟩⟩
    have rewritten : e.rewrite? (e.textIn ((some d).map (·.data))) = some content := rewritten
    rw [revised, rewritten]
    rfl

/-! ## Repetition -/

theorem textIn_iterate (data : String → Option (Option TextMap)) (k : Nat) :
    e.textIn (e.revise^[k] data e.target.mapKey) = e.merge^[k] (e.textIn (data e.target.mapKey)) := by
  induction k with
  | zero => rfl
  | succ k ih =>
    rw [Function.iterate_succ_apply', Function.iterate_succ_apply', revise, Function.update_self,
      textIn_revised, ih]

/-- Behind a block that does not run into its end marker there is nothing left to do, nor is there
behind none. -/
theorem rewrite?_merge {text : String} (sound : e.Sound) (closed : e.closed = true)
    (sole : Block.Sole e.key.toList text.toList) : e.rewrite? (e.merge text) = none := by
  have merged := toList_merge e text
  rw [Sound, change] at sound
  rw [change] at merged
  cases puts : e.fragment? with
  | some fragment =>
    rw [Errand.closed, puts] at closed
    rw [puts] at sound merged
    have noBegin := sound.2.beginMarker_notMem closed e.key.toList
    have isLocated := Block.located_edit_upsert sound.1 closed noBegin text.toList
    rw [← merged] at isLocated
    rw [rewrite?, puts]
    simp only [Document.upsert, Block.upsert_of_located isLocated]
    rfl
  | none =>
    rw [puts] at sound merged
    have edits := Block.Change.edits sound text.toList
    rw [← merged] at edits
    have absent : Block.find e.key.toList (splitLines (e.merge text).toList) = none :=
      edits.find_self_of_removes rfl sole
    rw [rewrite?, puts]
    simp only [Document.remove, Block.remove, absent]
    rfl

theorem revise_of_rewrite?_eq_none {data : String → Option (Option TextMap)}
    (kept : e.rewrite? (e.textIn (data e.target.mapKey)) = none) : e.revise data = data := by
  rw [revise, revised, kept, Function.update_eq_self]

/-- An errand without a block that runs into its end marker is done at the first time. -/
theorem revise_iterate_of_closed {data : String → Option (Option TextMap)} (sound : e.Sound)
    (closed : e.closed = true)
    (sole : Block.Sole e.key.toList (e.textIn (data e.target.mapKey)).toList) (k : Nat) :
    e.revise^[k + 1] data = e.revise data := by
  have done : e.revise (e.revise data) = e.revise data := by
    refine revise_of_rewrite?_eq_none ?_
    rw [revise, Function.update_self, textIn_revised]
    exact rewrite?_merge sound closed sole
  rw [Function.iterate_succ_apply]
  exact Function.iterate_fixed done k

/-- A block that runs into its end marker is put once more each time. -/
theorem length_merge_strictMono {text : String} (sound : e.Sound) (runsOn : e.closed = false)
    (sole : Block.Sole e.key.toList text.toList) :
    StrictMono fun k => (e.merge^[k + 1] text).toList.length := by
  have ⟨fragment, puts⟩ : ∃ fragment, e.fragment? = some fragment := by
    cases puts : e.fragment? with
    | some fragment => exact ⟨fragment, rfl⟩
    | none => simp [closed, puts] at runsOn
  rw [closed, puts] at runsOn
  rw [Sound, change, puts] at sound
  have next (k : Nat) : (e.merge^[k + 1] text).toList =
      ((Block.Change.upsert e.key.toList fragment.toList).edit (e.merge^[k] text).toList).2 := by
    rw [Function.iterate_succ_apply', toList_merge, change, puts]
  have absent (k : Nat) :
      Block.find e.key.toList (splitLines (e.merge^[k + 1] text).toList) = none := by
    induction k with
    | zero =>
      rw [next]
      exact Block.find_edit_upsert_of_open sound.1 sound.2 runsOn sole
    | succ k ih =>
      rw [next]
      exact Block.find_edit_upsert_of_open sound.1 sound.2 runsOn (Block.sole_of_find_eq_none ih)
  refine strictMono_nat_of_lt_succ fun k => ?_
  rw [next (k + 1)]
  refine Block.length_lt_edit_upsert (absent k) ?_
  rw [next k]
  exact Block.beginMarker_mem_edit_upsert sound.1 _ _

/-- An errand done several times comes to the same as once, unless its block runs into the end marker
and was put before. -/
theorem revise_iterate_eq_iff {data : String → Option (Option TextMap)} (sound : e.Sound)
    (sole : Block.Sole e.key.toList (e.textIn (data e.target.mapKey)).toList) (k : Nat) :
    e.revise^[k + 1] data = e.revise data ↔ e.closed = true ∨ e.revise^[k] data = data := by
  constructor
  · intro same
    cases closed : e.closed with
    | true => exact .inl rfl
    | false =>
      have texts := congrArg (fun data => (e.textIn (data e.target.mapKey)).toList.length) same
      have once : e.revise data = e.revise^[0 + 1] data := rfl
      simp only [once, textIn_iterate] at texts
      obtain rfl : k = 0 := (length_merge_strictMono sound closed sole).injective texts
      exact .inr rfl
  · rintro (closed | kept)
    · exact revise_iterate_of_closed sound closed sole k
    · rw [Function.iterate_succ_apply', kept]

end Errand

end StateMetrics
