import StateMetrics.Proofs.Yaml.Values

/-!
# What is printed may be written as it is

Every character of printed text is printable: the styles other than double quotes admit no other,
and escapes have none.
-/

namespace StateMetrics.Yaml

/-- Every character of a text is printable. -/
def AllPrintable (text : List Char) : Prop := ∀ c ∈ text, isPrintable c = true

@[simp] theorem allPrintable_nil : AllPrintable [] := fun _ mem => by cases mem

@[simp] theorem allPrintable_append (first second : List Char) :
    AllPrintable (first ++ second) ↔ AllPrintable first ∧ AllPrintable second :=
  List.forall_mem_append

@[simp] theorem allPrintable_cons (c : Char) (text : List Char) :
    AllPrintable (c :: text) ↔ isPrintable c = true ∧ AllPrintable text :=
  List.forall_mem_cons

@[simp] theorem allPrintable_spaces (count : Nat) : AllPrintable (spaces count) := by
  intro c mem
  rw [List.eq_of_mem_replicate mem]
  decide

@[simp] theorem allPrintable_lineStart (closed : Bool) (indent : Nat) :
    AllPrintable (lineStart closed indent) := by
  rw [lineStart]
  split
  · simp
  · simpa using (by decide : isPrintable '\n' = true)

/-! ## Scalars -/

theorem allPrintable_singleQuotedBody {text : List Char} (printable : AllPrintable text)
    (indent : Nat) (afterBreak : Bool) :
    AllPrintable (singleQuotedBody indent afterBreak text) := by
  have quote : isPrintable '\'' = true := by decide
  have newline : isPrintable '\n' = true := by decide
  induction text generalizing afterBreak with
  | nil =>
    rw [singleQuotedBody]
    split <;> simp
  | cons c text ih =>
    obtain ⟨first, others⟩ := (allPrintable_cons c text).1 printable
    rw [singleQuotedBody]
    split
    · simp [first, ih others]
    · split
      · simp only [allPrintable_append, allPrintable_cons]
        refine ⟨?_, first, ih others true⟩
        split <;> simp [newline]
      · simp only [allPrintable_append, allPrintable_cons]
        refine ⟨⟨?_, ?_⟩, first, ih others false⟩
        · split <;> simp
        · split <;> simp [quote]

theorem allPrintable_literalBody {text : List Char} (printable : AllPrintable text) (indent : Nat)
    (afterBreak : Bool) : AllPrintable (literalBody indent afterBreak text) := by
  induction text generalizing afterBreak with
  | nil => simp [literalBody]
  | cons c text ih =>
    obtain ⟨first, others⟩ := (allPrintable_cons c text).1 printable
    rw [literalBody]
    split
    · simp [first, ih others]
    · simp only [allPrintable_append, allPrintable_cons]
      refine ⟨?_, first, ih others false⟩
      split <;> simp

/-- A scalar has printable characters only: a text with others is written in double quotes, where
these are escaped. -/
theorem allPrintable_scalar (indent : Nat) (text : List Char) :
    AllPrintable (scalar indent text).text := by
  rw [scalar]
  cases style : Style.ofText text with
  | plain => exact fun c mem => ((Style.plain_spec style).inside c mem).1
  | singleQuoted =>
    have inside := (Style.singleQuoted_spec style).2
    have quote : isPrintable '\'' = true := by decide
    simp [singleQuoted, quote, allPrintable_singleQuotedBody inside]
  | doubleQuoted =>
    have quote : isPrintable '"' = true := by decide
    have inner : AllPrintable (text.flatMap doubleQuotedChar) := fun c mem => by
      obtain ⟨d, -, written⟩ := List.mem_flatMap.1 mem
      exact (doubleQuotedChar_spec written).1
    simp [doubleQuoted, quote, inner]
  | literal =>
    have inside := (Style.literal_spec style).2.1
    have bar : isPrintable '|' = true ∧ isPrintable '\n' = true := by decide
    have hints : AllPrintable (literalHints text) := fun c mem => (literalHints_spec mem).1
    simp [literal, bar, hints, allPrintable_literalBody inside]

/-- A number is printed as a plain scalar, which has printable characters only. -/
theorem allPrintable_numberText (n : Json.Number) : AllPrintable (numberText n) := fun c mem =>
  ((standsPlain_numberText n).inside c mem).1

/-! ## Values -/

section

variable {indent : Nat} {closed : Bool}

theorem allPrintable_items {list : List Json}
    (each : ∀ v ∈ list, ∀ place indent, AllPrintable (value place indent v).text) :
    AllPrintable (items indent closed list).text := by
  have dash : isPrintable '-' = true := by decide
  induction list generalizing closed with
  | nil => simp [items]
  | cons v list ih =>
    obtain ⟨first, others⟩ := List.forall_mem_cons.1 each
    rw [items]
    simp [dash, first, ih others]

theorem allPrintable_entry {name : String} {v : Json}
    (printable : ∀ place indent, AllPrintable (value place indent v).text) :
    AllPrintable (entry indent name v).text := by
  have marks : isPrintable '?' = true ∧ isPrintable ':' = true ∧ isPrintable ' ' = true := by decide
  rw [entry]
  split
  · simp [marks, allPrintable_scalar, printable]
  · simp [marks, allPrintable_scalar, printable]

theorem allPrintable_entries {members : List (String × Json)}
    (each : ∀ m ∈ members, ∀ place indent, AllPrintable (value place indent m.2).text) :
    AllPrintable (entries indent closed members).text := by
  induction members generalizing closed with
  | nil => simp [entries]
  | cons member members ih =>
    obtain ⟨first, others⟩ := List.forall_mem_cons.1 each
    rw [entries]
    simp [allPrintable_entry first, ih others]

end

/-- All that the printer writes is printable, by induction over the value. -/
theorem allPrintable_value (v : Json) (place : Place) (indent : Nat) :
    AllPrintable (value place indent v).text := by
  have space : isPrintable ' ' = true := by decide
  have word {text : List Char} (printable : text.all isPrintable = true) : AllPrintable text :=
    List.all_eq_true.1 printable
  have lead (place : Place) (inner : Nat) :
      AllPrintable (if place = .inline then [' '] else lineStart false inner) := by
    split <;> simp [space]
  induction v using Json.induction generalizing place indent with
  | null => rw [value]; exact word (by decide)
  | bool b =>
    cases b with
    | true => rw [value]; exact word (by decide)
    | false => rw [value]; exact word (by decide)
  | number n =>
    rw [value]
    simp [space, allPrintable_numberText]
  | str text =>
    rw [value]
    simp [space, allPrintable_scalar]
  | arr list each =>
    cases list with
    | nil => rw [value]; exact word (by decide)
    | cons v list =>
      obtain ⟨first, others⟩ := List.forall_mem_cons.1 each
      have dash : isPrintable '-' = true := by decide
      rw [value]
      simp [lead, dash, first, allPrintable_items others]
  | obj members each =>
    cases members with
    | nil => rw [value]; exact word (by decide)
    | cons member members =>
      obtain ⟨first, others⟩ := List.forall_mem_cons.1 each
      rw [value]
      simp [lead, allPrintable_entry first, allPrintable_entries others]

end StateMetrics.Yaml
