import StateMetrics.Proofs.Yaml.Strings

/-!
# The tokens of printed values

A printed value is split into the tokens of its pieces, wherever it stands (`reads_value`), as long
as newlines are the only line ends in it. The induction is on the value: the items of a list and the
members of an object are pieces that start a line each (`PieceReads`), and a piece is read with what
follows it (`PieceReads.append`).
-/

namespace StateMetrics

/-- A property of values holds of all if it passes from the items of a list to the list and from the
members of an object to the object. -/
theorem Json.induction {p : Json → Prop} (null : p .null) (bool : ∀ value, p (.bool value))
    (number : ∀ value, p (.number value)) (str : ∀ text, p (.str text))
    (arr : ∀ items, (∀ item ∈ items, p item) → p (.arr items))
    (obj : ∀ members, (∀ member ∈ members, p member.2) → p (.obj members)) (v : Json) : p v :=
  match v with
  | .null => null
  | .bool value => bool value
  | .number value => number value
  | .str text => str text
  | .arr items => arr items fun item _ => induction null bool number str arr obj item
  | .obj members => obj members fun member _ => induction null bool number str arr obj member.2
termination_by sizeOf v
decreasing_by
  · next mem =>
    have smaller := List.sizeOf_lt_of_mem mem
    simp only [Json.arr.sizeOf_spec]
    omega
  · next mem =>
    have smaller := List.sizeOf_lt_of_mem mem
    have inner : sizeOf member = 1 + sizeOf member.1 + sizeOf member.2 := by
      cases member
      rfl
    simp only [Json.obj.sizeOf_spec]
    omega

namespace Yaml

/-! ## The tokens of a value -/

mutual

/-- The tokens of a value. -/
def valueTokens (place : Place) : Json → List Token
  | .null => [.scalar "null".toList true]
  | .bool true => [.scalar "true".toList true]
  | .bool false => [.scalar "false".toList true]
  | .number n => [.scalar (numberText n) true]
  | .str text => [scalarToken text.toList]
  | .arr [] => [.openList, .closeList]
  | .arr (item :: rest) =>
    let inner := .item :: (valueTokens .inline item ++ itemTokens rest)
    if place = .inline then .blockList :: (inner ++ [.blockEnd]) else inner
  | .obj [] => [.openMap, .closeMap]
  | .obj ((name, member) :: rest) =>
    .blockMap :: .name :: scalarToken name.toList :: .value ::
      (valueTokens (if isSimpleName name then .afterName else .inline) member ++
        (entryTokens rest ++ [.blockEnd]))

/-- The tokens of the items of a list. -/
def itemTokens : List Json → List Token
  | [] => []
  | item :: rest => .item :: (valueTokens .inline item ++ itemTokens rest)

/-- The tokens of the members of an object. -/
def entryTokens : List (String × Json) → List Token
  | [] => []
  | (name, member) :: rest =>
    .name :: scalarToken name.toList :: .value ::
      (valueTokens (if isSimpleName name then .afterName else .inline) member ++ entryTokens rest)

end

theorem valueTokens_arr_cons (place : Place) (item : Json) (rest : List Json) :
    valueTokens place (.arr (item :: rest)) =
      if place = .inline then .blockList :: (itemTokens (item :: rest) ++ [.blockEnd])
      else itemTokens (item :: rest) := by
  rw [valueTokens, itemTokens]

theorem valueTokens_obj_cons (place : Place) (member : String × Json)
    (rest : List (String × Json)) :
    valueTokens place (.obj (member :: rest)) =
      .blockMap :: (entryTokens (member :: rest) ++ [.blockEnd]) := by
  rw [valueTokens, entryTokens]
  simp only [List.cons_append, List.append_assoc]

/-! ## Pieces of a list or object -/

/-- A value behind an indicator is read up to the next token, which stands no further to the right
than the list or object that holds the value. -/
def ValueReads (v : Json) : Prop :=
  ∀ (place : Place) (around column column' : Nat) (outer : List Int) (allowed : Bool)
    (next : List Char), OnlyNewlines (value place around v).text → around < column →
    (place = .inline → allowed = true ∧ column = around + 1) → Shows next → column' ≤ around →
    Spot.Reads ⟨around, outer, allowed, column,
        (value place around v).text ++ (lineStart (value place around v).closed column' ++ next)⟩
      (valueTokens place v) ⟨around, outer, true, column', next⟩

/-- A piece that starts a line in a list or object at its column is read up to the next token. The
list or object starts with it if it is deeper than the one around. -/
def PieceReads (start : Token) (column : Nat) (piece : Piece) (tokens : List Token) : Prop :=
  ∀ (indent : Int) (outer : List Int) (column' : Nat) (next : List Char), indent ≤ column →
    Shows next → column' ≤ column →
    Shows (piece.text ++ (lineStart piece.closed column' ++ next)) ∧
    Spot.Reads ⟨indent, outer, true, column,
        piece.text ++ (lineStart piece.closed column' ++ next)⟩
      (opening start indent column ++ tokens)
      ⟨column, enclosing indent outer column, true, column', next⟩

/-- What follows a piece in a list or object is read up to the next token. It starts behind a line
end and no further to the right than the piece. -/
def RestReads (column : Nat) (closed : Bool) (rest : Piece) (tokens : List Token) : Prop :=
  ∀ (column' : Nat) (next : List Char), Shows next → column' ≤ column →
    ∃ first front, first ≤ column ∧ Shows front ∧
      rest.text ++ (lineStart rest.closed column' ++ next) = lineStart closed first ++ front ∧
      ∀ outer, Spot.Reads ⟨column, outer, true, first, front⟩ tokens
        ⟨column, outer, true, column', next⟩

theorem RestReads.nil (column : Nat) (closed : Bool) : RestReads column closed ⟨[], closed⟩ [] :=
  fun column' next shows left => ⟨column', next, left, shows, rfl, fun _ => .refl _⟩

namespace PieceReads

variable {start : Token} {column : Nat} {piece : Piece} {tokens : List Token}

/-- A piece follows another on the next line. -/
theorem onNextLine (reads : PieceReads start column piece tokens) (closed : Bool) :
    RestReads column closed ⟨lineStart closed column ++ piece.text, piece.closed⟩ tokens := by
  intro column' next shows left
  have read (outer : List Int) := reads column outer column' next (Int.le_refl _) shows left
  simp only [opening_self, enclosing_self, List.nil_append] at read
  exact ⟨column, _, Nat.le_refl column, (read []).1, List.append_assoc .., fun outer =>
    (read outer).2⟩

/-- A piece is read with what follows it. -/
theorem append (reads : PieceReads start column piece tokens) {rest : Piece}
    {restTokens : List Token} (more : RestReads column piece.closed rest restTokens) :
    PieceReads start column ⟨piece.text ++ rest.text, rest.closed⟩ (tokens ++ restTokens) := by
  intro indent outer column' next right shows left
  obtain ⟨first, front, further, showsFront, whole, readsRest⟩ := more column' next shows left
  obtain ⟨showsPiece, readsPiece⟩ := reads indent outer first front right showsFront further
  rw [List.append_assoc, whole, ← List.append_assoc (opening ..)]
  exact ⟨showsPiece, readsPiece.trans (readsRest _)⟩

/-- A list or object deeper than the one around is read up to its end. -/
theorem block (reads : PieceReads start column piece tokens) {indent : Int}
    (deep : indent < column) (outer : List Int) {column' : Nat} {next : List Char}
    (shows : Shows next) (left : column' ≤ indent) :
    Shows (piece.text ++ (lineStart piece.closed column' ++ next)) ∧
    Spot.Reads ⟨indent, outer, true, column,
        piece.text ++ (lineStart piece.closed column' ++ next)⟩
      (start :: (tokens ++ [.blockEnd])) ⟨indent, outer, true, column', next⟩ := by
  obtain ⟨showsPiece, read⟩ := reads indent outer column' next (Int.le_of_lt deep) shows (by omega)
  rw [opening_of_lt deep, enclosing_of_lt deep] at read
  exact ⟨showsPiece, read.trans (.blockEnd shows (by omega))⟩

end PieceReads

theorem separated_lineStart (column : Nat) (text : List Char) :
    Spot.Separated (lineStart false column ++ text) :=
  ⟨'\n', _, rfl, .inr rfl⟩

/-- A value is separated from the indicator in front of it. -/
theorem separated_value (place : Place) (around : Nat) (v : Json) (text : List Char) :
    Spot.Separated ((value place around v).text ++ text) := by
  have space (text : List Char) : Spot.Separated (' ' :: text) := ⟨' ', text, rfl, .inl rfl⟩
  cases v with
  | null => rw [value]; exact space _
  | bool b => cases b <;> rw [value] <;> exact space _
  | number n => rw [value]; exact space _
  | str s => rw [value]; exact space _
  | arr items =>
    cases items with
    | nil => rw [value]; exact space _
    | cons item rest =>
      rw [value, List.append_assoc]
      cases place with
      | inline => exact space _
      | afterName => exact separated_lineStart _ _
  | obj members =>
    cases members with
    | nil => rw [value]; exact space _
    | cons first rest =>
      rw [value, List.append_assoc, List.append_assoc]
      cases place with
      | inline => exact space _
      | afterName => exact separated_lineStart _ _

/-- An item is read if its value is. -/
theorem ValueReads.item {v : Json} (reads : ValueReads v) {column : Nat}
    (only : OnlyNewlines (value .inline column v).text) :
    PieceReads .blockList column
      ⟨'-' :: (value .inline column v).text, (value .inline column v).closed⟩
      (.item :: valueTokens .inline v) := by
  intro indent outer column' next right shows left
  refine ⟨Spot.shows_of_indicator (.inl rfl) _, ?_⟩
  have tokens : opening .blockList indent column ++ (.item :: valueTokens .inline v) =
      (opening .blockList indent column ++ [.item]) ++ valueTokens .inline v := by simp
  rw [List.cons_append, tokens]
  refine .trans (.item (separated_value ..) right) ?_
  exact reads _ _ _ _ _ _ _ only (Nat.lt_succ_self column) (fun _ => ⟨rfl, rfl⟩) shows left

/-- A member is read if its value is. -/
theorem ValueReads.entry {name : String} {v : Json} (reads : ValueReads v) {column : Nat}
    (positive : 0 < column) (only : OnlyNewlines (entry column name v).text) :
    PieceReads .blockMap column (entry column name v)
      (.name :: scalarToken name.toList :: .value ::
        valueTokens (if isSimpleName name then .afterName else .inline) v) := by
  intro indent outer column' next right shows left
  rw [Yaml.entry] at only ⊢
  cases simple : isSimpleName name with
  | true =>
    simp only [simple, if_true, List.append_assoc, List.cons_append, onlyNewlines_append,
      onlyNewlines_cons] at only ⊢
    refine ⟨shows_scalar _ _ _, ?_⟩
    have tokens : opening .blockMap indent column ++ (.name :: scalarToken name.toList :: .value ::
        valueTokens .afterName v) = (opening .blockMap indent column ++
        [.name, scalarToken name.toList, .value]) ++ valueTokens .afterName v := by simp
    rw [tokens]
    refine .trans (Spot.reads_name simple right positive (separated_value ..) _) ?_
    exact reads _ _ _ _ _ _ _ only.2.2 (by omega) (fun never => by cases never) shows left
  | false =>
    simp only [simple, Bool.false_eq_true, if_false, List.append_assoc, List.cons_append,
      onlyNewlines_append, onlyNewlines_cons] at only ⊢
    obtain ⟨-, -, nameOnly, -, -, valueOnly⟩ := only
    refine ⟨Spot.shows_of_indicator (.inr (.inl rfl)) _, ?_⟩
    have tokens : opening .blockMap indent column ++ (.name :: scalarToken name.toList :: .value ::
        valueTokens .inline v) = (opening .blockMap indent column ++ [.name]) ++
        ([] ++ ([scalarToken name.toList] ++ ([.value] ++ valueTokens .inline v))) := by simp
    rw [tokens]
    refine .trans (.question ⟨' ', _, rfl, .inl rfl⟩ right) (.trans .space (.trans
      (Spot.reads_scalar nameOnly (by omega) (Spot.shows_of_indicator (.inr (.inr rfl)) _)
        (Nat.le_refl column)) (.trans (.colon (separated_value ..)) ?_)))
    exact reads _ _ _ _ _ _ _ valueOnly (Nat.lt_succ_self column) (fun _ => ⟨rfl, rfl⟩) shows left

/-- Further items are read up to the next token. -/
theorem restReads_items {rest : List Json} (each : ∀ v ∈ rest, ValueReads v) {column : Nat}
    {closed : Bool} (only : OnlyNewlines (items column closed rest).text) :
    RestReads column closed (items column closed rest) (itemTokens rest) := by
  induction rest generalizing closed with
  | nil =>
    rw [items, itemTokens]
    exact .nil column closed
  | cons v rest ih =>
    rw [items] at only ⊢
    simp only [onlyNewlines_append, onlyNewlines_cons] at only
    obtain ⟨-, -, valueOnly, restOnly⟩ := only
    obtain ⟨readsV, readsRest⟩ := List.forall_mem_cons.1 each
    rw [itemTokens]
    exact ((readsV.item valueOnly).append (ih readsRest restOnly)).onNextLine closed

/-- Further members are read up to the next token. -/
theorem restReads_entries {rest : List (String × Json)} (each : ∀ m ∈ rest, ValueReads m.2)
    {column : Nat} (positive : 0 < column) {closed : Bool}
    (only : OnlyNewlines (entries column closed rest).text) :
    RestReads column closed (entries column closed rest) (entryTokens rest) := by
  induction rest generalizing closed with
  | nil =>
    rw [entries, entryTokens]
    exact .nil column closed
  | cons member rest ih =>
    obtain ⟨name, v⟩ := member
    rw [entries] at only ⊢
    simp only [onlyNewlines_append] at only
    obtain ⟨⟨-, entryOnly⟩, restOnly⟩ := only
    obtain ⟨readsV, readsRest⟩ := List.forall_mem_cons.1 each
    rw [entryTokens, List.append_assoc]
    exact ((readsV.entry positive entryOnly).append (ih readsRest restOnly)).onNextLine closed

/-- The items of a list are read up to the next token. -/
theorem pieceReads_items {v : Json} {rest : List Json} (each : ∀ w ∈ v :: rest, ValueReads w)
    {column : Nat} (valueOnly : OnlyNewlines (value .inline column v).text)
    (restOnly : OnlyNewlines (items column (value .inline column v).closed rest).text) :
    PieceReads .blockList column
      ⟨'-' :: ((value .inline column v).text ++
        (items column (value .inline column v).closed rest).text),
        (items column (value .inline column v).closed rest).closed⟩
      (itemTokens (v :: rest)) := by
  obtain ⟨readsV, readsRest⟩ := List.forall_mem_cons.1 each
  rw [itemTokens]
  exact (readsV.item valueOnly).append (restReads_items readsRest restOnly)

/-! ## Values -/

/-- A list or object behind an indicator starts at its column, on the same line or the next. -/
theorem Spot.reads_lead {place : Place} {around inner column : Nat} (outer : List Int)
    {allowed : Bool} {text : List Char}
    (behind : place = .inline → allowed = true ∧ column = around + 1)
    (deeper : place = .inline → inner = around + 2) (shows : Shows text) :
    Reads ⟨around, outer, allowed, column,
        (if place = .inline then [' '] else lineStart false inner) ++ text⟩ []
      ⟨around, outer, true, inner, text⟩ := by
  cases place with
  | inline =>
    obtain ⟨rfl, rfl⟩ := behind rfl
    rw [deeper rfl]
    exact .space
  | afterName => exact .nextLine shows inner

/-- A list is read if its items are. -/
theorem ValueReads.arr {items : List Json} (each : ∀ v ∈ items, ValueReads v) :
    ValueReads (.arr items) := by
  intro place around column column' outer allowed next only right behind shows left
  cases items with
  | nil =>
    rw [value, valueTokens]
    exact .trans .space (.brackets false (by omega) shows column')
  | cons v rest =>
    rw [value] at only ⊢
    rw [valueTokens_arr_cons]
    simp only [onlyNewlines_append, onlyNewlines_cons] at only
    obtain ⟨-, -, valueOnly, restOnly⟩ := only
    have piece := pieceReads_items each valueOnly restOnly
    rw [List.append_assoc]
    cases place with
    | inline =>
      have inner : (if Place.inline = .inline then around + 2 else around) = around + 2 :=
        if_pos rfl
      rw [inner] at piece
      obtain ⟨showsPiece, read⟩ := piece.block (by omega) outer shows (Int.ofNat_le.2 left)
      exact (Spot.reads_lead outer behind (fun _ => rfl) showsPiece).trans read
    | afterName =>
      have inner : (if Place.afterName = .inline then around + 2 else around) = around :=
        if_neg (by decide)
      rw [inner] at piece
      obtain ⟨showsPiece, read⟩ := piece around outer column' next (Int.le_refl _) shows left
      rw [opening_self, enclosing_self] at read
      exact (Spot.reads_lead outer behind (fun never => by cases never) showsPiece).trans read

/-- An object is read if its members are. -/
theorem ValueReads.obj {members : List (String × Json)} (each : ∀ m ∈ members, ValueReads m.2) :
    ValueReads (.obj members) := by
  intro place around column column' outer allowed next only right behind shows left
  cases members with
  | nil =>
    rw [value, valueTokens]
    exact .trans .space (.brackets true (by omega) shows column')
  | cons member rest =>
    obtain ⟨name, v⟩ := member
    obtain ⟨readsV, readsRest⟩ := List.forall_mem_cons.1 each
    rw [value] at only ⊢
    simp only [onlyNewlines_append] at only
    obtain ⟨⟨-, entryOnly⟩, restOnly⟩ := only
    have positive : 0 < around + 2 := Nat.succ_pos _
    have piece := (readsV.entry positive entryOnly).append
      (restReads_entries readsRest positive restOnly)
    obtain ⟨showsPiece, read⟩ := piece.block (by omega) outer shows (Int.ofNat_le.2 left)
    rw [valueTokens, List.append_assoc, List.append_assoc]
    simpa using (Spot.reads_lead outer behind (fun _ => rfl) showsPiece).trans read

/-- Wherever a value is printed it is read as its tokens. -/
theorem reads_value (v : Json) : ValueReads v := by
  have plain {text : List Char} (stands : StandsPlain text) {around column column' : Nat}
      {outer : List Int} {allowed : Bool} {next : List Char} (right : around < column)
      (shows : Shows next) (left : column' ≤ around) :
      Spot.Reads ⟨around, outer, allowed, column, ' ' :: text ++ (lineStart false column' ++ next)⟩
        [.scalar text true] ⟨around, outer, true, column', next⟩ :=
    .trans .space (.plainValue stands (by omega) (Nat.succ_pos _) shows (by omega))
  induction v using Json.induction with
  | null =>
    intro place around column column' outer allowed next _ right _ shows left
    rw [value, valueTokens]
    exact plain (.of_all (by decide) (by decide)) right shows left
  | bool b =>
    intro place around column column' outer allowed next _ right _ shows left
    cases b with
    | true =>
      rw [value, valueTokens]
      exact plain (.of_all (by decide) (by decide)) right shows left
    | false =>
      rw [value, valueTokens]
      exact plain (.of_all (by decide) (by decide)) right shows left
  | number n =>
    intro place around column column' outer allowed next _ right _ shows left
    rw [value, valueTokens]
    exact plain (standsPlain_numberText n) right shows left
  | str text =>
    intro place around column column' outer allowed next only right _ shows left
    rw [value] at only ⊢
    rw [valueTokens]
    exact .trans .space (Spot.reads_scalar ((onlyNewlines_cons _ _).1 only).2
      (Nat.lt_succ_of_lt right) shows left)
  | arr items each => exact .arr each
  | obj members each => exact .obj each

end Yaml

end StateMetrics
