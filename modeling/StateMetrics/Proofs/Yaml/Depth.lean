import StateMetrics.Proofs.Yaml.Values

/-!
# Printing at another depth

A value is printed further to the right as its text is with its lines moved to the right: each line
that shows anything gets the same number of spaces more in front (`moved_value`).
-/

namespace StateMetrics.Yaml

/-- The text with so many spaces more in front of what each line shows; of its first line only if
that starts here. -/
def deepen (count : Nat) (afterBreak : Bool) : List Char → List Char
  | [] => []
  | c :: text =>
    if c = ' ' then c :: deepen count afterBreak text
    else if isBreak c then c :: deepen count true text
    else (if afterBreak then spaces count else []) ++ c :: deepen count false text

section

variable {count : Nat}

theorem deepen_space (afterBreak : Bool) (text : List Char) :
    deepen count afterBreak (' ' :: text) = ' ' :: deepen count afterBreak text := rfl

theorem deepen_break {c : Char} (ends : isBreak c = true) (afterBreak : Bool) (text : List Char) :
    deepen count afterBreak (c :: text) = c :: deepen count true text := by
  have other : c ≠ ' ' := fun same => by
    rw [same] at ends
    cases ends
  rw [deepen, if_neg other, if_pos ends]

/-- Within a line nothing changes. -/
theorem deepen_cons {c : Char} (inside : isBreak c = false) (text : List Char) :
    deepen count false (c :: text) = c :: deepen count false text := by
  rw [deepen, inside, if_neg Bool.false_ne_true, if_neg Bool.false_ne_true, List.nil_append,
    ite_self]

theorem deepen_append {line : List Char} (inside : ∀ c ∈ line, isBreak c = false)
    (text : List Char) : deepen count false (line ++ text) = line ++ deepen count false text := by
  induction line with
  | nil => rfl
  | cons c line ih =>
    obtain ⟨first, others⟩ := List.forall_mem_cons.1 inside
    rw [List.cons_append, deepen_cons first, ih others, List.cons_append]

theorem deepen_spaces (afterBreak : Bool) (more : Nat) (text : List Char) :
    deepen count afterBreak (spaces more ++ text) =
      spaces more ++ deepen count afterBreak text := by
  induction more with
  | zero => rfl
  | succ more ih => rw [spaces_succ, List.cons_append, deepen_space, ih, List.cons_append]

/-- What starts a line and shows is moved. -/
theorem deepen_start {c : Char} (inside : isBreak c = false) (other : c ≠ ' ') (text : List Char) :
    deepen count true (c :: text) = spaces count ++ deepen count false (c :: text) := by
  rw [deepen, if_neg other, inside, if_neg Bool.false_ne_true, if_pos rfl, deepen_cons inside]

/-- The line that starts between two pieces is deeper by so many spaces. -/
theorem deepen_lineStart {text : List Char} (nonempty : text ≠ []) (shows : Shows text)
    (closed : Bool) (indent : Nat) :
    deepen count closed (lineStart closed indent ++ text) =
      lineStart closed (indent + count) ++ deepen count false text := by
  obtain ⟨c, text, rfl⟩ := List.exists_cons_of_ne_nil nonempty
  obtain ⟨inside, visible, -⟩ := shows c rfl
  have other : c ≠ ' ' := fun same => by
    rw [same] at visible
    cases visible
  have newline : isBreak '\n' = true := by decide
  cases closed with
  | true =>
    rw [lineStart, if_pos rfl, deepen_spaces, deepen_start inside other, lineStart, if_pos rfl,
      spaces_add, List.append_assoc]
  | false =>
    rw [lineStart, if_neg Bool.false_ne_true, List.cons_append, deepen_break newline, deepen_spaces,
      deepen_start inside other, lineStart, if_neg Bool.false_ne_true, spaces_add, List.cons_append,
      List.append_assoc]

theorem OnlyNewlines.deepen {text : List Char} (only : OnlyNewlines text) (afterBreak : Bool) :
    OnlyNewlines (deepen count afterBreak text) := by
  induction text generalizing afterBreak with
  | nil => exact only
  | cons c text ih =>
    obtain ⟨first, others⟩ := (onlyNewlines_cons c text).1 only
    rw [Yaml.deepen]
    split
    · exact (onlyNewlines_cons _ _).2 ⟨first, ih others afterBreak⟩
    · split
      · exact (onlyNewlines_cons _ _).2 ⟨first, ih others true⟩
      · simp only [onlyNewlines_append, onlyNewlines_cons]
        refine ⟨?_, first, ih others false⟩
        split
        · simp
        · exact fun _ never => by cases never

/-! ## Scalars -/

/-- A piece is another one moved to the right, and leaves the line in the same state. -/
structure Moved (count : Nat) (afterBreak : Bool) (near far : Piece) : Prop where
  closed : far.closed = near.closed
  text : ∀ rest, deepen count afterBreak (near.text ++ rest) =
    far.text ++ deepen count near.closed rest

theorem Moved.of_line {line : List Char} (inside : ∀ c ∈ line, isBreak c = false) :
    Moved count false ⟨line, false⟩ ⟨line, false⟩ :=
  ⟨rfl, deepen_append inside⟩

/-- Text in single quotes moves, since its lines after the first are indented with it. -/
theorem deepen_singleQuotedBody (indent : Nat) (afterBreak : Bool) (text rest : List Char) :
    deepen count afterBreak (singleQuotedBody indent afterBreak text ++ '\'' :: rest) =
      singleQuotedBody (indent + count) afterBreak text ++ '\'' :: deepen count false rest := by
  have quote : isBreak '\'' = false ∧ '\'' ≠ ' ' := by decide
  have newline : isBreak '\n' = true := by decide
  -- The lead of a character that shows, in the text or behind it.
  have lead {c : Char} (inside : isBreak c = false) (other : c ≠ ' ') (afterBreak : Bool)
      (text : List Char) :
      deepen count afterBreak ((if afterBreak then spaces indent else []) ++ c :: text) =
        (if afterBreak then spaces (indent + count) else []) ++ c :: deepen count false text := by
    cases afterBreak with
    | true =>
      rw [if_pos rfl, if_pos rfl, deepen_spaces, deepen_start inside other, deepen_cons inside,
        spaces_add, List.append_assoc]
    | false =>
      rw [if_neg Bool.false_ne_true, if_neg Bool.false_ne_true, List.nil_append, List.nil_append,
        deepen_cons inside]
  induction text generalizing afterBreak with
  | nil => rw [singleQuotedBody, singleQuotedBody, lead quote.1 quote.2]
  | cons c text ih =>
    rw [singleQuotedBody, singleQuotedBody]
    by_cases space : c = ' '
    · rw [if_pos space, if_pos space, space, List.cons_append, deepen_space, ih, List.cons_append]
    · rw [if_neg space, if_neg space]
      cases ends : isBreak c with
      | true =>
        simp only [if_true, List.append_assoc, List.cons_append]
        split
        · rw [List.singleton_append, List.singleton_append, deepen_break newline,
            deepen_break ends, ih]
        · rw [List.nil_append, List.nil_append, deepen_break ends, ih]
      | false =>
        simp only [Bool.false_eq_true, if_false, List.append_assoc, List.cons_append]
        by_cases quoted : c = '\''
        · rw [quoted, if_pos rfl, List.singleton_append, List.singleton_append,
            lead quote.1 quote.2, deepen_cons quote.1, ih]
        · rw [if_neg quoted, List.nil_append, List.nil_append, lead ends space, ih]

/-- The line is ended behind a text if it ends with a line end. -/
def endsLine (afterBreak : Bool) (text : List Char) : Bool :=
  (text.getLast?.map isBreak).getD afterBreak

theorem endsLine_cons (afterBreak : Bool) (c : Char) (text : List Char) :
    endsLine afterBreak (c :: text) = endsLine (isBreak c) text := by
  rw [endsLine, endsLine, List.getLast?_cons]
  cases text.getLast? <;> rfl

/-- The lines of a literal block are moved. A line of the block that starts with spaces shows
something behind them: so what comes behind the block's own indentation is moved as well. -/
theorem deepen_literalBody {text : List Char} (tidy : adjacent (· = ' ') isBreak text = false)
    (last : text.getLast? ≠ some ' ') (indent : Nat) (rest : List Char) :
    (∀ afterBreak, deepen count afterBreak (literalBody indent afterBreak text ++ rest) =
      literalBody (indent + count) afterBreak text ++
        deepen count (endsLine afterBreak text) rest) ∧
    ∀ c more, text = c :: more → isBreak c = false →
      deepen count true (literalBody indent false text ++ rest) =
        spaces count ++ (literalBody (indent + count) false text ++
          deepen count (endsLine false text) rest) := by
  induction text with
  | nil => exact ⟨fun _ => rfl, fun _ _ never => by cases never⟩
  | cons c text ih =>
    have tidyRest : adjacent (· = ' ') isBreak text = false := by
      cases text with
      | nil => rfl
      | cons d text => exact (Bool.or_eq_false_iff.1 tidy).2
    have lastRest : text.getLast? ≠ some ' ' := fun space => by
      rw [List.getLast?_cons, space] at last
      exact last rfl
    obtain ⟨further, start⟩ := ih tidyRest lastRest
    have moves (inside : isBreak c = false) :
        deepen count true (literalBody indent false (c :: text) ++ rest) =
          spaces count ++ (literalBody (indent + count) false (c :: text) ++
            deepen count (endsLine false (c :: text)) rest) := by
      rw [literalBody_cons inside, literalBody_cons inside, endsLine_cons, inside]
      by_cases space : c = ' '
      · cases text with
        | nil => exact absurd (congrArg some space) last
        | cons d text =>
          have insideNext : isBreak d = false := by
            simpa [space] using (Bool.or_eq_false_iff.1 tidy).1
          have commutes (text : List Char) : ' ' :: (spaces count ++ text) =
              spaces count ++ ' ' :: text := by
            rw [← List.cons_append, ← spaces_succ, spaces_add, List.append_assoc]
            rfl
          rw [space, List.cons_append, deepen_space, start d text rfl insideNext, commutes,
            List.cons_append]
      · rw [List.cons_append, deepen_start inside space, deepen_cons inside, further,
          List.cons_append]
    refine ⟨fun afterBreak => ?_, fun d more whole inside => ?_⟩
    · cases ends : isBreak c with
      | true =>
        rw [literalBody, literalBody, ends, if_pos rfl, if_pos rfl, List.cons_append,
          deepen_break ends, further, endsLine_cons, ends, List.cons_append]
      | false =>
        cases afterBreak with
        | false =>
          rw [literalBody_cons ends, literalBody_cons ends, List.cons_append, deepen_cons ends,
            further, endsLine_cons, ends, List.cons_append]
        | true =>
          have same : endsLine true (c :: text) = endsLine false (c :: text) := by
            rw [endsLine_cons, endsLine_cons]
          rw [literalBody_start ends, literalBody_start ends, List.append_assoc, deepen_spaces,
            moves ends, spaces_add, same]
          simp only [List.append_assoc]
    · obtain rfl : c = d := (List.cons.inj whole).1
      exact moves inside

/-- A string in a list or object is moved. -/
theorem moved_scalar (indent : Nat) (text : List Char) :
    Moved count false (scalar (indent + 2) text) (scalar (indent + count + 2) text) := by
  rw [scalar, scalar, Nat.add_right_comm]
  cases style : Style.ofText text with
  | plain => exact .of_line fun c mem => ((Style.plain_spec style).inside c mem).2
  | singleQuoted =>
    refine ⟨rfl, fun rest => ?_⟩
    have quote : isBreak '\'' = false := by decide
    simp only [singleQuoted, List.cons_append, List.append_assoc, List.nil_append]
    rw [deepen_cons quote, deepen_singleQuotedBody]
  | doubleQuoted =>
    have quote : isBreak '"' = false := by decide
    have inner : ∀ c ∈ text.flatMap doubleQuotedChar, isBreak c = false := fun c mem => by
      obtain ⟨d, -, written⟩ := List.mem_flatMap.1 mem
      exact (doubleQuotedChar_spec written).2
    exact .of_line (List.forall_mem_cons.2
      ⟨quote, List.forall_mem_append.2 ⟨inner, by simp [quote]⟩⟩)
  | literal =>
    obtain ⟨newline, -, last, tidy⟩ := Style.literal_spec style
    refine ⟨rfl, fun rest => ?_⟩
    have bar : isBreak '|' = false := by decide
    have ends : isBreak '\n' = true := by decide
    have state : endsLine true text = text.getLast?.any isBreak := by
      obtain ⟨c, more, rfl⟩ := List.exists_cons_of_ne_nil (List.ne_nil_of_mem newline)
      rw [endsLine, List.getLast?_cons]
      rfl
    have hints : ∀ c ∈ literalHints text, isBreak c = false := fun c mem =>
      (literalHints_spec mem).2
    simp only [literal, List.cons_append, List.append_assoc]
    rw [deepen_cons bar, deepen_append hints, deepen_break ends,
      (deepen_literalBody tidy last (indent + 2) rest).1, state]

/-! ## Values -/

/-- A list moves if its items do. -/
theorem moved_items {list : List Json}
    (each : ∀ v ∈ list, ∀ place indent,
      Moved count false (value place indent v) (value place (indent + count) v))
    (indent : Nat) (closed : Bool) :
    Moved count closed (items indent closed list) (items (indent + count) closed list) := by
  induction list generalizing closed with
  | nil =>
    rw [items, items]
    exact ⟨rfl, fun rest => rfl⟩
  | cons v list ih =>
    obtain ⟨first, others⟩ := List.forall_mem_cons.1 each
    have here := first .inline indent
    have more := ih others (value .inline indent v).closed
    have dash : isBreak '-' = false := by decide
    rw [items, items, here.closed]
    refine ⟨more.closed, fun rest => ?_⟩
    simp only [List.append_assoc, List.cons_append]
    rw [deepen_lineStart (List.cons_ne_nil _ _) (Spot.shows_of_indicator (.inl rfl) _),
      deepen_cons dash, here.text, more.text]

/-- A member moves if its value does, with its name on the line or behind a question mark. -/
theorem moved_entry (name : String) {v : Json}
    (moved : ∀ place indent, Moved count false (value place indent v)
      (value place (indent + count) v)) (indent : Nat) :
    Moved count false (entry indent name v) (entry (indent + count) name v) := by
  have written : Moved count false _ _ := moved_scalar indent name.toList
  have colon : isBreak ':' = false := by decide
  rw [entry, entry]
  cases simple : isSimpleName name with
  | true =>
    have behind := moved .afterName indent
    have inLine := closed_scalar_of_isSimpleName simple (indent + 2)
    rw [if_pos rfl, if_pos rfl]
    refine ⟨behind.closed, fun rest => ?_⟩
    simp only [List.append_assoc, List.cons_append]
    rw [written.text, inLine, deepen_cons colon, behind.text]
  | false =>
    have behind := moved .inline indent
    have question : isBreak '?' = false := by decide
    rw [if_neg Bool.false_ne_true, if_neg Bool.false_ne_true, written.closed]
    refine ⟨behind.closed, fun rest => ?_⟩
    simp only [List.append_assoc, List.cons_append]
    rw [deepen_cons question, deepen_space, written.text,
      deepen_lineStart (List.cons_ne_nil _ _) (Spot.shows_of_indicator (.inr (.inr rfl)) _),
      deepen_cons colon, behind.text]

theorem entry_ne_nil (indent : Nat) (name : String) (v : Json) :
    (entry indent name v).text ≠ [] := by
  rw [entry]
  split
  · simp
  · simp

theorem shows_entry (indent : Nat) (name : String) (v : Json) (rest : List Char) :
    Shows ((entry indent name v).text ++ rest) := by
  rw [entry]
  split
  · simp only [List.append_assoc]
    exact shows_scalar _ _ _
  · exact Spot.shows_of_indicator (.inr (.inl rfl)) _

/-- An object moves if the values of its members do. -/
theorem moved_entries {members : List (String × Json)}
    (each : ∀ m ∈ members, ∀ place indent,
      Moved count false (value place indent m.2) (value place (indent + count) m.2))
    (indent : Nat) (closed : Bool) :
    Moved count closed (entries indent closed members)
      (entries (indent + count) closed members) := by
  induction members generalizing closed with
  | nil =>
    rw [entries, entries]
    exact ⟨rfl, fun rest => rfl⟩
  | cons member members ih =>
    obtain ⟨name, v⟩ := member
    obtain ⟨first, others⟩ := List.forall_mem_cons.1 each
    have here := moved_entry name first indent
    have more := ih others (entry indent name v).closed
    rw [entries, entries, here.closed]
    refine ⟨more.closed, fun rest => ?_⟩
    simp only [List.append_assoc]
    rw [deepen_lineStart (by simp [entry_ne_nil]) (shows_entry _ _ _ _), here.text, more.text]

/-- A list or object starts on the same line or on one that is moved. -/
theorem deepen_lead {text : List Char} (nonempty : text ≠ []) (shows : Shows text) (place : Place)
    (inner : Nat) :
    deepen count false ((if place = .inline then [' '] else lineStart false inner) ++ text) =
      (if place = .inline then [' '] else lineStart false (inner + count)) ++
        deepen count false text := by
  cases place with
  | inline => exact deepen_space false text
  | afterName => exact deepen_lineStart nonempty shows false inner

/-- A value is printed further to the right as its lines are moved there. -/
theorem moved_value (v : Json) (place : Place) (indent : Nat) :
    Moved count false (value place indent v) (value place (indent + count) v) := by
  have word {text : List Char} (inside : text.any isBreak = false) :
      Moved count false ⟨text, false⟩ ⟨text, false⟩ :=
    .of_line (by simpa using inside)
  induction v using Json.induction generalizing place indent with
  | null => rw [value, value]; exact word (by decide)
  | bool b =>
    cases b with
    | true => rw [value, value]; exact word (by decide)
    | false => rw [value, value]; exact word (by decide)
  | number n =>
    rw [value, value]
    exact .of_line (List.forall_mem_cons.2
      ⟨by decide, fun c mem => ((standsPlain_numberText n).inside c mem).2⟩)
  | str text =>
    have written : Moved count false _ _ := moved_scalar indent text.toList
    rw [value, value]
    exact ⟨written.closed, fun rest => by
      rw [List.cons_append, deepen_space, written.text, List.cons_append]⟩
  | arr list each =>
    cases list with
    | nil => rw [value, value]; exact word (by decide)
    | cons v list =>
      obtain ⟨first, others⟩ := List.forall_mem_cons.1 each
      have dash : isBreak '-' = false := by decide
      have inner : (if place = .inline then indent + count + 2 else indent + count) =
          (if place = .inline then indent + 2 else indent) + count := by
        split <;> omega
      rw [value, value, inner]
      generalize (if place = .inline then indent + 2 else indent) = inner
      have here := first .inline inner
      have more := moved_items others inner (value .inline inner v).closed
      rw [here.closed]
      refine ⟨more.closed, fun rest => ?_⟩
      simp only [List.append_assoc, List.cons_append]
      rw [deepen_lead (List.cons_ne_nil _ _) (Spot.shows_of_indicator (.inl rfl) _),
        deepen_cons dash, here.text, more.text]
  | obj members each =>
    cases members with
    | nil => rw [value, value]; exact word (by decide)
    | cons member members =>
      obtain ⟨name, v⟩ := member
      obtain ⟨first, others⟩ := List.forall_mem_cons.1 each
      have here := moved_entry name first (indent + 2)
      have more := moved_entries others (indent + 2) (entry (indent + 2) name v).closed
      rw [value, value, Nat.add_right_comm indent count, here.closed]
      refine ⟨more.closed, fun rest => ?_⟩
      simp only [List.append_assoc]
      rw [deepen_lead (by simp [entry_ne_nil]) (shows_entry _ _ _ _), here.text, more.text]

end

end StateMetrics.Yaml
