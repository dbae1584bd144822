import StateMetrics.Proofs.Yaml.Values

/-!
# How printed text ends

A piece of YAML says of itself whether it ends with a line break, as the line behind it is started by
that. What it says is right: only a literal block ends with a break of its own, which is the last
character of its text, and whatever holds such a block at its end ends as the block does
(`ends_value`).
-/

namespace StateMetrics.Yaml

/-- A piece that is said to end with a line break does so. -/
structure Piece.Ends (p : Piece) : Prop where
  last : p.closed = true → ∃ c, p.text.getLast? = some c ∧ isBreak c = true

theorem Piece.Ends.behind {text : List Char} {closed : Bool} (ends : Ends ⟨text, closed⟩)
    (front : List Char) : Ends ⟨front ++ text, closed⟩ where
  last isClosed := by
    obtain ⟨c, last, isEnd⟩ := ends.last isClosed
    refine ⟨c, ?_, isEnd⟩
    rw [List.getLast?_append, last]
    rfl

theorem Piece.ends_of_open {text : List Char} : Ends ⟨text, false⟩ := ⟨fun closed => nomatch closed⟩

/-! ## Scalars -/

/-- The body of a literal block ends as its text does. -/
theorem getLast?_literalBody (indent : Nat) (afterBreak : Bool) (text : List Char) :
    (literalBody indent afterBreak text).getLast? = text.getLast? := by
  induction text generalizing afterBreak with
  | nil => rfl
  | cons c text ih =>
    rw [literalBody]
    split
    · rw [List.getLast?_cons, ih, List.getLast?_cons]
    · rw [List.getLast?_append, List.getLast?_cons, ih, List.getLast?_cons]
      rfl

/-- Only a literal block ends its own line, and it does so if its text does. -/
theorem ends_scalar (indent : Nat) (text : List Char) : (scalar indent text).Ends := by
  rw [scalar]
  cases Style.ofText text with
  | plain => exact Piece.ends_of_open
  | singleQuoted => exact Piece.ends_of_open
  | doubleQuoted => exact Piece.ends_of_open
  | literal =>
    refine ⟨fun closed => ?_⟩
    obtain ⟨c, last, isEnd⟩ := (Option.any_eq_true ..).1 closed
    refine ⟨c, ?_, isEnd⟩
    have body : (literalBody indent true text).getLast? = some c :=
      (getLast?_literalBody ..).trans last
    simp [literal, List.getLast?_cons, List.getLast?_append, body]

/-! ## Values -/

theorem ends_items {list : List Json} {p : Piece} (ends : p.Ends) (indent : Nat)
    (each : ∀ v ∈ list, ∀ place indent, (value place indent v).Ends) :
    Piece.Ends ⟨p.text ++ (items indent p.closed list).text,
      (items indent p.closed list).closed⟩ := by
  induction list generalizing p with
  | nil =>
    rw [items, List.append_nil]
    exact ends
  | cons v list ih =>
    obtain ⟨first, others⟩ := List.forall_mem_cons.1 each
    rw [items]
    exact (((ih (first .inline indent) others).behind ['-']).behind _).behind _

theorem ends_entry {name : String} {v : Json} {indent : Nat}
    (ends : ∀ place indent, (value place indent v).Ends) : (entry indent name v).Ends := by
  rw [entry]
  split
  · exact ((ends .afterName indent).behind [':']).behind _
  · exact (((ends .inline indent).behind [':']).behind _).behind ['?', ' ']

theorem ends_entries {members : List (String × Json)} {p : Piece} (ends : p.Ends) (indent : Nat)
    (each : ∀ m ∈ members, ∀ place indent, (value place indent m.2).Ends) :
    Piece.Ends ⟨p.text ++ (entries indent p.closed members).text,
      (entries indent p.closed members).closed⟩ := by
  induction members generalizing p with
  | nil =>
    rw [entries, List.append_nil]
    exact ends
  | cons member members ih =>
    obtain ⟨first, others⟩ := List.forall_mem_cons.1 each
    have here : (entry indent member.1 member.2).Ends := ends_entry first
    rw [entries, List.append_assoc]
    exact ((ih here others).behind _).behind _

/-- A printed value that is said to end its line does so. -/
theorem ends_value (v : Json) (place : Place) (indent : Nat) : (value place indent v).Ends := by
  induction v using Json.induction generalizing place indent with
  | null => rw [value]; exact Piece.ends_of_open
  | bool b => cases b <;> (rw [value]; exact Piece.ends_of_open)
  | number n => rw [value]; exact Piece.ends_of_open
  | str text =>
    rw [value]
    exact (ends_scalar (indent + 2) text.toList).behind [' ']
  | arr list each =>
    cases list with
    | nil => rw [value]; exact Piece.ends_of_open
    | cons v list =>
      obtain ⟨first, others⟩ := List.forall_mem_cons.1 each
      rw [value]
      exact ((ends_items (first .inline _) _ others).behind ['-']).behind _
  | obj members each =>
    cases members with
    | nil => rw [value]; exact Piece.ends_of_open
    | cons member members =>
      obtain ⟨first, others⟩ := List.forall_mem_cons.1 each
      rw [value]
      have here : (entry (indent + 2) member.1 member.2).Ends := ends_entry first
      rw [List.append_assoc]
      exact (ends_entries here (indent + 2) others).behind _

/-- With the start of a further line behind it a piece ends with a line break. -/
theorem ends_lineStart {p : Piece} (ends : p.Ends) :
    ∃ c, (p.text ++ lineStart p.closed 0).getLast? = some c ∧ isBreak c = true := by
  cases closed : p.closed with
  | false => exact ⟨'\n', by simp [lineStart, spaces], by decide⟩
  | true =>
    obtain ⟨c, last, isEnd⟩ := ends.last closed
    exact ⟨c, by simpa [lineStart, spaces] using last, isEnd⟩

end StateMetrics.Yaml
