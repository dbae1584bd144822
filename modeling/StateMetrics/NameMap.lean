/-!
# Maps from names

A map from names to values is a list of pairs in the order of the names, as `insert` keeps it. The
lemmas say what `insert` and `erase` do to what is looked up.
-/

namespace StateMetrics

/-- A map from names to values. -/
abbrev NameMap (α : Type) := List (String × α)

/-- A map from names to texts. -/
abbrev TextMap := NameMap String

namespace NameMap

variable {α : Type}

/-- Gives a name a value, in place of the one it had. -/
def insert (name : String) (value : α) : NameMap α → NameMap α
  | [] => [(name, value)]
  | (n, v) :: rest =>
    if name < n then (name, value) :: (n, v) :: rest
    else if name = n then (name, value) :: rest
    else (n, v) :: insert name value rest

/-- Takes a name out. -/
def erase (name : String) (map : NameMap α) : NameMap α := map.filter (·.1 ≠ name)

/-- The map of some pairs; the last value of a repeated name counts. -/
def ofPairs (pairs : List (String × α)) : NameMap α :=
  pairs.foldl (fun map (name, value) => insert name value map) []

/-! ## Looking up -/

theorem lookup_insert_self (name : String) (value : α) (map : NameMap α) :
    (insert name value map).lookup name = some value := by
  induction map with
  | nil => simp [insert]
  | cons pair rest ih =>
    obtain ⟨n, v⟩ := pair
    rw [insert]
    split
    · simp
    · next notLess =>
      split
      · simp
      · next other =>
        have differs : (name == n) = false := by simpa using other
        rw [List.lookup_cons, differs]
        exact ih

theorem lookup_insert_of_ne {name other : String} (differs : other ≠ name) (value : α)
    (map : NameMap α) : (insert name value map).lookup other = map.lookup other := by
  have unequal : (other == name) = false := by simpa using differs
  induction map with
  | nil => simp [insert, List.lookup_cons, unequal]
  | cons pair rest ih =>
    obtain ⟨n, v⟩ := pair
    rw [insert]
    split
    · simp [List.lookup_cons, unequal]
    · split
      · next same => subst same; simp [List.lookup_cons, unequal]
      · simp only [List.lookup_cons, ih]

theorem lookup_erase_self (name : String) (map : NameMap α) :
    (erase name map).lookup name = none := by
  induction map with
  | nil => rfl
  | cons pair rest ih =>
    obtain ⟨n, v⟩ := pair
    by_cases same : n = name
    · simpa [erase, same] using ih
    · have unequal : (name == n) = false := by simpa using fun h => same h.symm
      simpa [erase, same, List.lookup_cons, unequal] using ih

theorem lookup_erase_of_ne {name other : String} (differs : other ≠ name) (map : NameMap α) :
    (erase name map).lookup other = map.lookup other := by
  induction map with
  | nil => rfl
  | cons pair rest ih =>
    obtain ⟨n, v⟩ := pair
    by_cases same : n = name
    · have unequal : (other == name) = false := by simpa using differs
      simpa [erase, same, List.lookup_cons, unequal] using ih
    · by_cases here : other = n
      · simp [erase, same, here]
      · have unequal : (other == n) = false := by simpa using here
        simpa [erase, same, List.lookup_cons, unequal] using ih

end NameMap

end StateMetrics
