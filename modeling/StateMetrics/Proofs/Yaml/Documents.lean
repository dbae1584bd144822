import StateMetrics.Proofs.Yaml.Nodes
import StateMetrics.Proofs.Yaml.Printable

/-!
# Printed documents are read back

A text that is split into the tokens of a map from its start to its end makes the document with that
map.
-/

namespace StateMetrics.Yaml

/-! ## Splitting a whole text -/

/-- A text has one mark for each character, and one for its end. -/
theorem length_marksFrom {text : List Char} (only : OnlyNewlines text) (index line column : Nat) :
    (marksFrom index line column text).length = text.length + 1 := by
  induction text generalizing index line column with
  | nil => rfl
  | cons c text ih =>
    obtain ⟨first, others⟩ := (onlyNewlines_cons c text).1 only
    cases ends : isBreak c with
    | true =>
      rw [first ends, marksFrom_newline, List.length_cons, List.length_cons, ih others]
    | false =>
      rw [marksFrom_cons ends, List.length_cons, List.length_cons, ih others]

/-- At the end of a text the last list or map ends. -/
theorem Spot.exists_run?_end (allowed : Bool) (slots : Array (List Token)) (index line fuel : Nat) :
    ∃ s, (Spot.scan ⟨0, [-1], allowed, 0, []⟩ slots index line).run? (fuel + 1) = some s ∧
      s.slots.toList.flatten = slots.toList.flatten ++ [.blockEnd, .finish] := by
  have ready := ready?_scan_of_shows ⟨0, [-1], allowed, 0, []⟩ Shows.nil (Int.le_refl 0) slots index
    line
  refine ⟨{
    rest := [⟨endChar, index, line, 0⟩]
    slots := (slots.push [.blockEnd]).push [.finish]
    nameAllowed := false
    finished := true }, ?_, by simp⟩
  rw [Scan.run?_succ rfl, ready, Option.bind_some]
  have last : (scan ⟨0, [-1], allowed, 0, []⟩ slots index line).token? = some {
      rest := [⟨endChar, index, line, 0⟩]
      slots := (slots.push [.blockEnd]).push [.finish]
      nameAllowed := false
      finished := true } := by
    simp [Scan.token?, scan, marksFrom, Scan.level?, Scan.unroll, Scan.inBrackets, Scan.closed,
      Scan.dropName?, Scan.giveUp?, Scan.push]
  rw [last, Option.bind_some]
  exact Scan.run?_of_finished rfl fuel

/-- A text that is read to its end is split into what was read, the end of the map and that of the
text. -/
theorem scan?_of_reads {text : List Char} {tokens : List Token} (only : OnlyNewlines text)
    {allowed : Bool}
    (reads : Spot.Reads ⟨-1, [], true, 0, text⟩ tokens ⟨0, [-1], allowed, 0, []⟩) :
    Token.scan? (marksFrom 0 0 0 text) = some (tokens ++ [.blockEnd, .finish]) := by
  obtain ⟨count, slots, index, line, length, flat, run⟩ := reads #[] 0 0
  have fuel : (marksFrom 0 0 0 text).length + 1 = count + ((text.length - count) + 1 + 1) := by
    rw [length_marksFrom only]
    simp only [List.length_nil] at length
    omega
  obtain ⟨s, ends, last⟩ := Spot.exists_run?_end allowed slots index line (text.length - count + 1)
  have whole := (run _).trans ends
  rw [Token.scan?, fuel]
  show ((Spot.scan ⟨-1, [], true, 0, text⟩ #[] 0 0).run? _).map _ = _
  rw [whole, Option.map_some, last, flat]
  simp

/-- A printable text has marks: nothing in it is refused. -/
theorem marks?_of_allPrintable {text : List Char} (printable : AllPrintable text) :
    marks? text = some (marksFrom 0 0 0 text) := by
  have admissible : text.all isAdmissible = true := by
    simp only [List.all_eq_true, isAdmissible, Bool.or_eq_true]
    exact fun c mem => .inr (printable c mem)
  rw [marks?, if_pos admissible]

/-! ## Putting a document together -/

open NodeReader

/-- Tokens make a node, where a list that is not indented may start or may not. -/
structure Makes (unindented : Bool) (tokens : List Token) (found : Node) : Prop where
  starts : ∃ t rest, tokens = t :: rest ∧ startsNode t = true
  node : ∀ (fuel : Nat) (p : Progress) (rest : List Token), 3 * tokens.length + 3 ≤ fuel →
    rest.headD .finish ≠ .item →
    NodeReader.node true unindented fuel { p with tokens := tokens ++ rest } =
      some (found, { p with tokens := rest })

theorem Makes.value (place : Place) (v : Json) : Makes true (valueTokens place v) (.ofJson v) where
  starts := by
    obtain ⟨t, rest, tokens, starts, -⟩ := NodeReader.exists_valueTokens_eq place v
    exact ⟨t, rest, tokens, starts⟩
  node fuel p rest enough ends :=
    NodeReader.builds_value v place true fuel p rest enough fun _ => ⟨rfl, ends⟩

/-- The tokens of a map with one member. -/
def memberTokens (name : List Char) (tokens : List Token) : List Token :=
  .blockMap :: .name :: .scalar name true :: .value :: (tokens ++ [.blockEnd])

/-- A map with one plain name. -/
def Node.member (name : List Char) (found : Node) : Node :=
  .map [(.scalar name true none, found)]

theorem Makes.member {tokens : List Token} {found : Node} (makes : Makes true tokens found)
    (name : List Char) (unindented : Bool) :
    Makes unindented (memberTokens name tokens) (.member name found) where
  starts := ⟨_, _, rfl, rfl⟩
  node fuel p rest enough _ := by
    obtain ⟨t, ts, shape, starts⟩ := makes.starts
    simp only [memberTokens, List.length_cons, List.length_append, List.length_nil] at enough
    obtain ⟨fuel, rfl⟩ := Nat.exists_eq_add_of_le' (show 3 ≤ fuel by omega)
    have read := makes.node fuel p (.blockEnd :: rest) (by omega) (fun same => by cases same)
    have room : 2 ≤ fuel := by omega
    have ended : blockMap [(.scalar name true none, found)] fuel
        { p with tokens := .blockEnd :: rest } =
        some (.map [(.scalar name true none, found)], { p with tokens := rest }) := by
      obtain ⟨fuel, rfl⟩ := Nat.exists_eq_add_of_le' room
      rw [blockMap]
      rfl
    rw [memberTokens, List.cons_append, node_of_startsNode rfl, content]
    simp only [peek_bind, advance_bind, List.headD_cons, if_true, List.drop_succ_cons,
      List.drop_zero]
    rw [shape] at read ⊢
    simp only [List.cons_append, List.append_assoc, List.nil_append] at read ⊢
    rw [blockMap_name name true starts room read, ended, Node.member]

/-- A document without directives or marks of its start is its root. -/
theorem root_of_startsNode {t : Token} (starts : startsNode t = true) {fuel : Nat}
    (positive : 0 < fuel) (p : Progress) (rest : List Token) :
    root fuel { p with tokens := t :: rest } = node true false fuel
      { p with tokens := t :: rest, abbreviations := p.abbreviations ++ standardAbbreviations } := by
  obtain ⟨fuel, rfl⟩ := Nat.exists_eq_add_of_le' positive
  have undirected : directives false false (fuel + 1) { p with tokens := t :: rest } =
      some (false, { p with tokens := t :: rest }) := by
    rw [directives, peek_bind]
    cases t with
    | version | abbreviation => cases starts
    | _ => rfl
  rw [root, bind_of_eq undirected]
  cases t with
  | documentStart | finish => cases starts
  | _ => rfl

/-- Tokens that make a node are a document of that node alone. -/
theorem ofTokens?_of_makes {tokens : List Token} {found : Node} (makes : Makes false tokens found) :
    Document.ofTokens? (tokens ++ [.finish]) = some ⟨found, []⟩ := by
  obtain ⟨t, ts, shape, starts⟩ := makes.starts
  rw [Document.ofTokens?]
  dsimp only
  generalize length : 4 * (tokens ++ [Token.finish]).length + 4 = fuel
  rw [List.length_append, List.length_singleton] at length
  have read := makes.node fuel { tokens := [], abbreviations := standardAbbreviations } [.finish]
    (by omega) (fun same => by cases same)
  have first : root fuel { tokens := tokens ++ [.finish] } = some (found,
      { tokens := [.finish], abbreviations := standardAbbreviations }) := by
    rw [shape] at read ⊢
    exact (root_of_startsNode starts (by omega) { tokens := [] } (ts ++ [.finish])).trans read
  have last : ending fuel { tokens := [.finish], abbreviations := standardAbbreviations } =
      some ((), { tokens := [.finish], abbreviations := standardAbbreviations }) := by
    obtain ⟨fuel, rfl⟩ := Nat.exists_eq_succ_of_ne_zero (show fuel ≠ 0 by omega)
    rw [ending]
    rfl
  rw [bind_of_eq first, bind_of_eq last]
  rfl

/-- A text that is read as a root is the document with it. -/
theorem read?_of_reads {text : List Char} (printable : AllPrintable text) (only : OnlyNewlines text)
    {allowed : Bool} {tokens : List Token} {found : Node}
    (reads : Spot.Reads ⟨-1, [], true, 0, text⟩ tokens ⟨0, [-1], allowed, 0, []⟩)
    (makes : Makes false (tokens ++ [.blockEnd]) found) :
    Document.read? (String.ofList text) = some ⟨found, []⟩ := by
  have split := scan?_of_reads only reads
  have whole : tokens ++ [.blockEnd, .finish] = tokens ++ [.blockEnd] ++ [.finish] := by simp
  rw [Document.read?, String.toList_ofList, marks?_of_allPrintable printable, Option.bind_eq_bind,
    Option.bind_some, split, Option.bind_eq_bind, Option.bind_some, whole,
    ofTokens?_of_makes makes]

/-! ## Maps with one name -/

/-- A name of one word, which may start a document. -/
structure IsWordName (name : List Char) : Prop where
  word : ∀ c ∈ name, isWord c = true
  starts : ∀ c ∈ name.head?, c ≠ '-' ∧ c ≠ '.'
  nonempty : name ≠ []
  short : name.length ≤ maxNameLength

namespace IsWordName

variable {name : List Char} (is : IsWordName name)

include is

theorem standsPlain : StandsPlain name := by
  obtain ⟨c, rest, rfl⟩ := List.exists_cons_of_ne_nil is.nonempty
  exact .of_isWord is.word ⟨c, List.mem_cons_self, (is.starts c rfl).1⟩

theorem allPrintable : AllPrintable name := fun c mem => (is.standsPlain.inside c mem).1

theorem onlyNewlines : OnlyNewlines name := fun c mem ends => by
  rw [(is.standsPlain.inside c mem).2] at ends
  cases ends

/-- A name starts a map further to the right. -/
theorem reads {indent : Int} {outer : List Int} {column : Nat} {text : List Char}
    (deep : indent < column) (separated : Spot.Separated text) :
    Spot.Reads ⟨indent, outer, true, column, name ++ ':' :: text⟩
      [.blockMap, .name, .scalar name true, .value]
      ⟨column, indent :: outer, false, column + name.length + 1, text⟩ := by
  have read : Spot.Reads ⟨indent, outer, true, column, name ++ ':' :: text⟩
      (opening .blockMap indent column ++ [.name, .scalar name true, .value])
      ⟨column, enclosing indent outer column, false, column + name.length + 1, text⟩ :=
    .plainName is.standsPlain is.short (Int.le_of_lt deep)
      (fun c mem => .inr (is.starts c mem)) separated
  rwa [opening_of_lt deep, enclosing_of_lt deep] at read

end IsWordName

/-- What stands behind a plain name at the start of a text makes the text a document. -/
theorem IsWordName.read?_of_reads {name : List Char} (is : IsWordName name) {behind : List Char}
    (separated : Spot.Separated behind) (printable : AllPrintable behind)
    (only : OnlyNewlines behind) {tokens : List Token} {found : Node}
    (reads : Spot.Reads ⟨0, [-1], false, name.length + 1, behind⟩ tokens ⟨0, [-1], true, 0, []⟩)
    (makes : Makes true tokens found) :
    Document.read? (String.ofList (name ++ ':' :: behind)) = some ⟨.member name found, []⟩ := by
  have colon : isPrintable ':' = true ∧ isBreak ':' = false := by decide
  have start : Spot.Reads ⟨-1, [], true, 0, name ++ ':' :: behind⟩
      [.blockMap, .name, .scalar name true, .value]
      ⟨(0 : Nat), [-1], false, 0 + name.length + 1, behind⟩ := is.reads (by decide) separated
  rw [Nat.zero_add] at start
  refine Yaml.read?_of_reads ?_ ?_ (start.trans reads) (makes.member name false)
  · simp [is.allPrintable, colon, printable]
  · simp [is.onlyNewlines, colon, only]

/-- The document with one plain name is read back. -/
theorem read?_member {name : List Char} (is : IsWordName name) {v : Json}
    (only : OnlyNewlines (value .afterName 0 v).text) :
    Document.read? (String.ofList (name ++ ':' :: ((value .afterName 0 v).text ++
      lineStart (value .afterName 0 v).closed 0))) = some ⟨.member name (.ofJson v), []⟩ := by
  have reads := reads_value v .afterName 0 (name.length + 1) 0 [-1] false [] only (by omega)
    (fun never => by cases never) Shows.nil (Nat.le_refl 0)
  rw [List.append_nil] at reads
  refine is.read?_of_reads (separated_value ..) ?_ ?_ reads (.value .afterName v)
  · simp [allPrintable_value]
  · simp [only]

/-- A list on the lines behind a name, further to the right, is read. -/
theorem Spot.reads_items {list : List Json} (nonempty : list ≠ []) {indent : Int}
    (outer : List Int) (allowed : Bool) (around : Nat) {column column' : Nat} {next : List Char}
    (only : OnlyNewlines (items column true list).text) (deep : indent < column)
    (shows : Shows next) (left : column' ≤ indent) :
    Reads ⟨indent, outer, allowed, around, '\n' :: ((items column true list).text ++
        (lineStart (items column true list).closed column' ++ next))⟩
      (valueTokens .inline (.arr list)) ⟨indent, outer, true, column', next⟩ := by
  obtain ⟨v, list, rfl⟩ := List.exists_cons_of_ne_nil nonempty
  rw [items] at only ⊢
  simp only [onlyNewlines_append, onlyNewlines_cons] at only
  obtain ⟨-, -, valueOnly, restOnly⟩ := only
  obtain ⟨showsPiece, read⟩ := (pieceReads_items (fun v _ => reads_value v) valueOnly
    restOnly).block deep outer shows left
  have start : Reads ⟨indent, outer, allowed, around, lineStart false column ++ _⟩ [] _ :=
    .nextLine showsPiece column
  rw [valueTokens_arr_cons, if_pos rfl]
  simpa [lineStart] using start.trans read

/-- The document with a list below two plain names is read back, wherever the list stands to the
right of the inner one. -/
theorem read?_nested {name inner : List Char} (is : IsWordName name) (isInner : IsWordName inner)
    {list : List Json} (nonempty : list ≠ []) {column : Nat} (deep : 2 < column)
    (only : OnlyNewlines (items column true list).text) :
    Document.read? (String.ofList (name ++ ':' :: (lineStart false 2 ++ (inner ++ ':' :: '\n' ::
        ((items column true list).text ++ lineStart (items column true list).closed 0))))) =
      some ⟨.member name (.member inner (.ofJson (.arr list))), []⟩ := by
  have marks : isPrintable ':' = true ∧ isBreak ':' = false ∧ isPrintable '\n' = true := by decide
  have printable : AllPrintable (items column true list).text :=
    allPrintable_items fun v _ place indent => allPrintable_value v place indent
  have innerName : Spot.Reads ⟨(0 : Nat), [-1], true, 2, inner ++ ':' :: '\n' ::
        ((items column true list).text ++ lineStart (items column true list).closed 0)⟩
      [.blockMap, .name, .scalar inner true, .value] ⟨(2 : Nat), [0, -1], false,
        2 + inner.length + 1, '\n' ::
        ((items column true list).text ++ lineStart (items column true list).closed 0)⟩ :=
    isInner.reads (by decide) ⟨'\n', _, rfl, .inr rfl⟩
  have behind := Spot.reads_items nonempty [0, -1] false (2 + inner.length + 1) only
    (Int.ofNat_lt.2 deep) Shows.nil (Int.ofNat_le.2 (Nat.zero_le 2))
  have ended : Spot.Reads ⟨(2 : Nat), [0, -1], true, 0, []⟩ [.blockEnd] ⟨0, [-1], true, 0, []⟩ :=
    .blockEnd Shows.nil (by decide)
  rw [List.append_nil] at behind
  refine is.read?_of_reads (separated_lineStart ..) ?_ ?_
    (.trans (.nextLine (isInner.standsPlain.shows _) 2) (innerName.trans (behind.trans ended)))
    ((Makes.value .inline (.arr list)).member inner true)
  · simp [isInner.allPrintable, marks, printable]
  · simp [isInner.onlyNewlines, marks, only]

end StateMetrics.Yaml
