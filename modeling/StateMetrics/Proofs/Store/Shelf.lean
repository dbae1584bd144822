import Mathlib.Data.Set.Insert
import StateMetrics.Store.Write

/-!
# Versions of stored objects

A shelf holds the stored objects of one sort by their names, and all versions that its writes were
given so far. A write gives its object a version of its own. Somebody who read an object knows it
(`Shelf.Knows`): whenever that version is stored, the object is the one that was read. This is what a
check of the version is good for, and no later write can spoil it.
-/

namespace StateMetrics

/-- Objects that a store keeps: by a name, under a version that the store gives. -/
class Stored (α : Type) where
  name : α → String
  version : α → Option String
  /-- The object under a version. -/
  stamp : String → α → α
  name_stamp (v : String) (a : α) : name (stamp v a) = name a
  version_stamp (v : String) (a : α) : version (stamp v a) = some v

attribute [simp] Stored.name_stamp Stored.version_stamp

instance : Stored Instance where
  name := Instance.key
  version i := i.metadata.resourceVersion
  stamp v i := { i with metadata.resourceVersion := some v }
  name_stamp _ _ := rfl
  version_stamp _ _ := rfl

instance : Stored ConfigMap where
  name := ConfigMap.mapKey
  version d := d.metadata.resourceVersion
  stamp v d := { d with metadata.resourceVersion := some v }
  name_stamp _ _ := rfl
  version_stamp _ _ := rfl

/-- The stored objects of one sort. -/
structure Shelf (α : Type) where
  /-- What is stored under a name. -/
  stored : String → Option α
  /-- The versions that writes were given. -/
  spent : Set String

namespace Shelf

variable {α : Type} [Stored α]

open Stored

/-- A write of an object under a version. Not every object stays in the store. -/
def write (s : Shelf α) (v : String) (a : α) (stays : Bool) : Shelf α where
  stored := Function.update s.stored (name a) (if stays then some (stamp v a) else none)
  spent := insert v s.spent

/-- The shelf without what is stored under a name. -/
def drop (s : Shelf α) (key : String) : Shelf α :=
  { s with stored := Function.update s.stored key none }

/-- The object is stored in the version that the given one carries. -/
def Current (s : Shelf α) (given found : α) : Prop :=
  s.stored (name given) = some found ∧ version found = version given

/-- The answer and the shelf after an object is written under a fresh version. -/
def Saves (s : Shelf α) (a : α) (stays : Bool) (answer : Result α) (s' : Shelf α) : Prop :=
  ∃ v, v ∉ s.spent ∧ answer = .ok (stamp v a) ∧ s' = s.write v a stays

/-- Every object is stored under its own name, in a version that a write was given. -/
structure Sound (s : Shelf α) : Prop where
  name_eq : ∀ {key a}, s.stored key = some a → name a = key
  version_spent : ∀ {key a}, s.stored key = some a → ∃ v ∈ s.spent, version a = some v

/-- The object was read from the store: whenever its version is stored, it is what is stored. -/
structure Knows (s : Shelf α) (a : α) : Prop where
  version_spent : ∃ v ∈ s.spent, version a = some v
  eq : ∀ {x}, s.stored (name a) = some x → version x = version a → x = a

/-- An empty shelf has nothing in a wrong place. -/
theorem sound_of_empty {s : Shelf α} (empty : ∀ key, s.stored key = none) : s.Sound where
  name_eq := by
    intro key a found
    rw [empty] at found
    cases found
  version_spent := by
    intro key a found
    rw [empty] at found
    cases found

section Write

variable {s : Shelf α} {v : String} {a b : α} {stays : Bool} {key : String}

theorem stored_write_self :
    (s.write v a stays).stored (name a) = if stays then some (stamp v a) else none :=
  Function.update_self ..

theorem stored_write_of_ne (other : key ≠ name a) :
    (s.write v a stays).stored key = s.stored key :=
  Function.update_of_ne other ..

/-- What a write leaves under a name is what was there, or what it wrote. -/
theorem stored_write_cases {x : α} (found : (s.write v a stays).stored key = some x) :
    s.stored key = some x ∨ key = name a ∧ x = stamp v a := by
  by_cases same : key = name a
  · subst same
    rw [stored_write_self] at found
    split at found
    · exact .inr ⟨rfl, (Option.some.inj found).symm⟩
    · cases found
  · rw [stored_write_of_ne same] at found
    exact .inl found

omit [Stored α] in
/-- What is left when an object is taken out was there before. -/
theorem stored_drop_cases {x : α} {dropped : String}
    (found : (s.drop dropped).stored key = some x) : s.stored key = some x := by
  by_cases same : key = dropped
  · subst same
    simp [drop] at found
  · simpa [drop, same] using found

/-- A write puts its object under its own name and in its own version. -/
theorem Sound.write (sound : s.Sound) : (s.write v a stays).Sound where
  name_eq found := by
    rcases stored_write_cases found with before | ⟨rfl, rfl⟩
    · exact sound.name_eq before
    · exact name_stamp v a
  version_spent found := by
    rcases stored_write_cases found with before | ⟨rfl, rfl⟩
    · obtain ⟨u, mem, version⟩ := sound.version_spent before
      exact ⟨u, Set.mem_insert_of_mem v mem, version⟩
    · exact ⟨v, Set.mem_insert v s.spent, version_stamp v a⟩

theorem Sound.drop (sound : s.Sound) (key : String) : (s.drop key).Sound where
  name_eq found := sound.name_eq (stored_drop_cases found)
  version_spent found := sound.version_spent (stored_drop_cases found)

/-- Who reads an object from the store knows it. -/
theorem knows_of_stored (sound : s.Sound) (found : s.stored key = some a) : s.Knows a where
  version_spent := sound.version_spent found
  eq again _ := by
    rw [sound.name_eq found, found] at again
    exact (Option.some.inj again).symm

theorem knows_of_write : (s.write v a stays).Knows (stamp v a) where
  version_spent := ⟨v, Set.mem_insert v s.spent, version_stamp v a⟩
  eq found _ := by
    rw [name_stamp, stored_write_self] at found
    split at found
    · exact (Option.some.inj found).symm
    · cases found

/-- A write under a fresh version does not come back to a version that was read. -/
theorem Knows.write (knows : s.Knows b) (fresh : v ∉ s.spent) : (s.write v a stays).Knows b where
  version_spent :=
    have ⟨u, mem, version⟩ := knows.version_spent
    ⟨u, Set.mem_insert_of_mem v mem, version⟩
  eq found same := by
    rcases stored_write_cases found with before | ⟨_, rfl⟩
    · exact knows.eq before same
    · obtain ⟨u, mem, version⟩ := knows.version_spent
      rw [version_stamp, version] at same
      exact absurd (Option.some.inj same ▸ mem) fresh

/-- What is taken out cannot be mistaken for what was read. -/
theorem Knows.drop (knows : s.Knows b) (key : String) : (s.drop key).Knows b where
  version_spent := knows.version_spent
  eq found same := knows.eq (stored_drop_cases found) same

/-- A write that carries the version of a known object finds that object. -/
theorem Knows.eq_of_current {given found : α} (knows : s.Knows b) (current : s.Current given found)
    (sameName : name given = name b) (sameVersion : version given = version b) : found = b :=
  knows.eq (sameName ▸ current.1) (current.2.trans sameVersion)

end Write

/-- What may become of a shelf in one step: nothing, an object is written that may be, or one is
taken out. -/
inductive Evolves (may : α → Prop) (s : Shelf α) : Shelf α → Prop
  | same : Evolves may s s
  | written {v : String} {a : α} {stays : Bool} :
    v ∉ s.spent → may a → Evolves may s (s.write v a stays)
  | dropped (key : String) : Evolves may s (s.drop key)

namespace Evolves

variable {may : α → Prop} {s s' : Shelf α}

/-- Whatever becomes of a shelf, its objects stay under their names. -/
theorem sound (evolves : s.Evolves may s') (sound : s.Sound) : s'.Sound := by
  cases evolves with
  | same => exact sound
  | written fresh allowed => exact sound.write
  | dropped key => exact sound.drop key

/-- Whatever becomes of a shelf, who read an object from it still knows it. -/
theorem knows (evolves : s.Evolves may s') {b : α} (knows : s.Knows b) : s'.Knows b := by
  cases evolves with
  | same => exact knows
  | written fresh allowed => exact knows.write fresh
  | dropped key => exact knows.drop key

/-- If only what may be written is stored, it is so afterwards. -/
theorem forall_stored (evolves : s.Evolves may s') (stamped : ∀ v a, may a → may (stamp v a))
    (all : ∀ key a, s.stored key = some a → may a) (key : String) (a : α)
    (found : s'.stored key = some a) : may a := by
  cases evolves with
  | same => exact all key a found
  | written fresh allowed =>
    rcases stored_write_cases found with before | ⟨-, rfl⟩
    · exact all key a before
    · exact stamped _ _ allowed
  | dropped dropped => exact all key a (stored_drop_cases found)

end Evolves

end Shelf

end StateMetrics
