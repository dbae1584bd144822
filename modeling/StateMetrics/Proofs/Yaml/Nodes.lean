import StateMetrics.Proofs.Yaml.Values
import StateMetrics.Yaml.Node.Reading

/-!
# The tokens of printed values make the values again

The node of a value is put together from the tokens of the value (`builds_value`), with fuel in
proportion to their number.
-/

namespace StateMetrics.Yaml

namespace Node

/-- The node of a string: plain or not, as it is written. -/
def ofText (text : List Char) : Node := .scalar text (Style.ofText text = .plain) none

mutual

/-- The node of a value. -/
def ofJson : Json → Node
  | .null => .scalar "null".toList true none
  | .bool true => .scalar "true".toList true none
  | .bool false => .scalar "false".toList true none
  | .number n => .scalar (numberText n) true none
  | .str text => ofText text.toList
  | .arr items => .list (ofItems items)
  | .obj members => .map (ofMembers members)

/-- The nodes of the items of a list. -/
def ofItems : List Json → List Node
  | [] => []
  | item :: rest => ofJson item :: ofItems rest

/-- The nodes of the members of an object. -/
def ofMembers : List (String × Json) → List (Node × Node)
  | [] => []
  | (name, member) :: rest => (ofText name.toList, ofJson member) :: ofMembers rest

end

theorem ofItems_eq_map (items : List Json) : ofItems items = items.map ofJson := by
  induction items with
  | nil => rfl
  | cons item rest ih => rw [ofItems, ih, List.map_cons]

end Node

namespace NodeReader

/-! ## Steps -/

/-- Whether a token starts a node by itself: it is neither in front of one nor instead of one. -/
def startsNode : Token → Bool
  | .scalar .. | .openList | .openMap | .blockList | .blockMap | .item => true
  | _ => false

theorem endsBlockNode_of_startsNode {t : Token} (starts : startsNode t = true) :
    endsBlockNode t = false := by
  cases t with
  | name | value | blockEnd => cases starts
  | _ => rfl

theorem peek_bind {α : Type} (next : Token → NodeReader α) (p : Progress) :
    (peek >>= next) p = next (p.tokens.headD .finish) p := rfl

theorem advance_bind {α : Type} (next : Unit → NodeReader α) (p : Progress) :
    (advance >>= next) p = next () { p with tokens := p.tokens.drop 1 } := rfl

theorem bind_of_eq {α β : Type} {read : NodeReader α} {p q : Progress} {found : α}
    (result : read p = some (found, q)) (next : α → NodeReader β) :
    (read >>= next) p = next found q :=
  congrArg (·.bind fun found => next found.1 found.2) result

section

variable {inBlock unindented : Bool} {fuel : Nat} {p q : Progress} {t : Token} {rest : List Token}
  {found : Node}

theorem node_of_startsNode (starts : startsNode t = true) :
    node inBlock unindented (fuel + 1) { p with tokens := t :: rest } =
      content inBlock unindented false none fuel { p with tokens := t :: rest } := by
  rw [node]
  cases t with
  | scalar | openList | openMap | blockList | blockMap | item =>
    show (content inBlock unindented false none fuel >>= fun found =>
      (pure found : NodeReader Node)) _ = _
    rw [bind_pure]
  | _ => cases starts

theorem node_scalar (text : List Char) (plain : Bool) (enough : 2 ≤ fuel) :
    node inBlock unindented fuel { p with tokens := .scalar text plain :: rest } =
      some (.scalar text plain none, { p with tokens := rest }) := by
  obtain ⟨fuel, rfl⟩ := Nat.exists_eq_add_of_le' enough
  rw [node_of_startsNode rfl, content]
  rfl

theorem blockList_item {items : List Node} (starts : startsNode t = true) (other : t ≠ .item)
    (read : node true false fuel { p with tokens := t :: rest } = some (found, q)) :
    blockList items (fuel + 1) { p with tokens := .item :: t :: rest } =
      blockList (found :: items) fuel q := by
  have further : t ≠ .blockEnd := fun same => by
    rw [same] at starts
    cases starts
  rw [blockList]
  simp only [peek_bind, advance_bind, List.headD_cons, List.drop_succ_cons, List.drop_zero, other,
    further, decide_false, Bool.or_self, Bool.false_eq_true, if_false, bind_of_eq read]

theorem unindentedList_item {items : List Node} (starts : startsNode t = true) (other : t ≠ .item)
    (read : node true false fuel { p with tokens := t :: rest } = some (found, q)) :
    unindentedList items (fuel + 1) { p with tokens := .item :: t :: rest } =
      unindentedList (found :: items) fuel q := by
  rw [unindentedList]
  simp only [peek_bind, advance_bind, List.headD_cons, List.drop_succ_cons, List.drop_zero, other,
    endsBlockNode_of_startsNode starts, decide_false, Bool.or_self, Bool.false_eq_true, if_false,
    bind_of_eq read]

/-- A name and the value behind it are one more entry of a map. -/
theorem blockMap_name {entries : List (Node × Node)} (text : List Char) (plain : Bool)
    (starts : startsNode t = true) (enough : 2 ≤ fuel)
    (read : node true true fuel { p with tokens := t :: rest } = some (found, q)) :
    blockMap entries (fuel + 1)
        { p with tokens := .name :: .scalar text plain :: .value :: t :: rest } =
      blockMap ((.scalar text plain none, found) :: entries) fuel q := by
  rw [blockMap]
  simp only [peek_bind, advance_bind, List.headD_cons, List.drop_succ_cons, List.drop_zero,
    show endsBlockNode (.scalar text plain) = false from rfl, endsBlockNode_of_startsNode starts,
    Bool.false_eq_true, if_false, bind_of_eq (node_scalar text plain enough), bind_of_eq read]

end

/-! ## Values -/

/-- The first token of a value starts a node; it is a dash only behind a name. -/
theorem exists_valueTokens_eq (place : Place) (v : Json) :
    ∃ t rest, valueTokens place v = t :: rest ∧ startsNode t = true ∧
      (t = .item → place = .afterName) := by
  cases v with
  | null => rw [valueTokens]; exact ⟨_, _, rfl, rfl, fun same => by cases same⟩
  | bool b => cases b <;> rw [valueTokens] <;> exact ⟨_, _, rfl, rfl, fun same => by cases same⟩
  | number n => rw [valueTokens]; exact ⟨_, _, rfl, rfl, fun same => by cases same⟩
  | str s => rw [valueTokens]; exact ⟨_, _, rfl, rfl, fun same => by cases same⟩
  | arr items =>
    cases items with
    | nil => rw [valueTokens]; exact ⟨_, _, rfl, rfl, fun same => by cases same⟩
    | cons item rest =>
      rw [valueTokens]
      cases place with
      | inline => exact ⟨_, _, rfl, rfl, fun same => by cases same⟩
      | afterName => exact ⟨_, _, rfl, rfl, fun _ => rfl⟩
  | obj members =>
    cases members with
    | nil => rw [valueTokens]; exact ⟨_, _, rfl, rfl, fun same => by cases same⟩
    | cons first rest => rw [valueTokens]; exact ⟨_, _, rfl, rfl, fun same => by cases same⟩

/-- The tokens of a value make its node, where a list that is not indented may start if the value
stands behind a name. -/
def Builds (v : Json) : Prop :=
  ∀ (place : Place) (unindented : Bool) (fuel : Nat) (p : Progress) (rest : List Token),
    3 * (valueTokens place v).length + 3 ≤ fuel →
    (place = .afterName → unindented = true ∧ rest.headD .finish ≠ .item) →
    node true unindented fuel { p with tokens := valueTokens place v ++ rest } =
      some (.ofJson v, { p with tokens := rest })

/-- The items up to the end of a list make it, onto those found before. -/
theorem blockList_itemTokens {items : List Json} (each : ∀ v ∈ items, Builds v) {fuel : Nat}
    (enough : 3 * (itemTokens items).length + 1 ≤ fuel) (found : List Node) (p : Progress)
    (rest : List Token) :
    blockList found fuel { p with tokens := itemTokens items ++ .blockEnd :: rest } =
      some (.list (found.reverse ++ Node.ofItems items), { p with tokens := rest }) := by
  induction items generalizing fuel found with
  | nil =>
    obtain ⟨fuel, rfl⟩ := Nat.exists_eq_succ_of_ne_zero (Nat.ne_zero_of_lt enough)
    rw [blockList, Node.ofItems, List.append_nil]
    rfl
  | cons v items ih =>
    obtain ⟨t, ts, tokens, starts, dash⟩ := exists_valueTokens_eq .inline v
    obtain ⟨fuel, rfl⟩ := Nat.exists_eq_succ_of_ne_zero (Nat.ne_zero_of_lt enough)
    obtain ⟨buildsV, buildsItems⟩ := List.forall_mem_cons.1 each
    have read := buildsV .inline false fuel p (itemTokens items ++ .blockEnd :: rest)
    rw [itemTokens, List.length_cons, List.length_append] at enough
    rw [itemTokens, Node.ofItems, List.cons_append, List.append_assoc]
    rw [tokens] at read enough ⊢
    rw [List.cons_append] at read ⊢
    rw [blockList_item starts (fun same => by cases dash same)
        (read (by omega) fun never => by cases never),
      ih buildsItems (by omega), List.reverse_cons, List.append_assoc]
    rfl

/-- The items of a list that is not indented make it, up to what is no item. -/
theorem unindentedList_itemTokens {items : List Json} (each : ∀ v ∈ items, Builds v) {fuel : Nat}
    (enough : 3 * (itemTokens items).length + 1 ≤ fuel) (found : List Node) (p : Progress)
    {rest : List Token} (ends : rest.headD .finish ≠ .item) :
    unindentedList found fuel { p with tokens := itemTokens items ++ rest } =
      some (.list (found.reverse ++ Node.ofItems items), { p with tokens := rest }) := by
  induction items generalizing fuel found with
  | nil =>
    obtain ⟨fuel, rfl⟩ := Nat.exists_eq_succ_of_ne_zero (Nat.ne_zero_of_lt enough)
    rw [unindentedList, Node.ofItems, List.append_nil, itemTokens, List.nil_append, peek_bind]
    generalize follows : rest.headD .finish = t at ends ⊢
    cases t with
    | item => exact absurd rfl ends
    | _ => rfl
  | cons v items ih =>
    obtain ⟨t, ts, tokens, starts, dash⟩ := exists_valueTokens_eq .inline v
    obtain ⟨fuel, rfl⟩ := Nat.exists_eq_succ_of_ne_zero (Nat.ne_zero_of_lt enough)
    obtain ⟨buildsV, buildsItems⟩ := List.forall_mem_cons.1 each
    have read := buildsV .inline false fuel p (itemTokens items ++ rest)
    rw [itemTokens, List.length_cons, List.length_append] at enough
    rw [itemTokens, Node.ofItems, List.cons_append, List.append_assoc]
    rw [tokens] at read enough ⊢
    rw [List.cons_append] at read ⊢
    rw [unindentedList_item starts (fun same => by cases dash same)
        (read (by omega) fun never => by cases never),
      ih buildsItems (by omega), List.reverse_cons, List.append_assoc]
    rfl

/-- What follows the members of an object is a name or the object's end. -/
theorem headD_entryTokens_ne (members : List (String × Json)) (rest : List Token) :
    (entryTokens members ++ .blockEnd :: rest).headD .finish ≠ .item := by
  cases members with
  | nil => rw [entryTokens]; exact fun same => by cases same
  | cons first members => rw [entryTokens]; exact fun same => by cases same

/-- The members up to the end of an object make it, onto those found before. -/
theorem blockMap_entryTokens {members : List (String × Json)} (each : ∀ m ∈ members, Builds m.2)
    {fuel : Nat} (enough : 3 * (entryTokens members).length + 1 ≤ fuel)
    (found : List (Node × Node)) (p : Progress) (rest : List Token) :
    blockMap found fuel { p with tokens := entryTokens members ++ .blockEnd :: rest } =
      some (.map (found.reverse ++ Node.ofMembers members), { p with tokens := rest }) := by
  induction members generalizing fuel found with
  | nil =>
    obtain ⟨fuel, rfl⟩ := Nat.exists_eq_succ_of_ne_zero (Nat.ne_zero_of_lt enough)
    rw [blockMap, Node.ofMembers, List.append_nil]
    rfl
  | cons member members ih =>
    obtain ⟨name, v⟩ := member
    rw [entryTokens]
    rw [entryTokens, List.length_cons, List.length_cons, List.length_cons, List.length_append]
      at enough
    generalize (if isSimpleName name then Place.afterName else .inline) = place at enough ⊢
    obtain ⟨t, ts, tokens, starts, -⟩ := exists_valueTokens_eq place v
    obtain ⟨fuel, rfl⟩ := Nat.exists_eq_succ_of_ne_zero (Nat.ne_zero_of_lt enough)
    obtain ⟨buildsV, buildsMembers⟩ := List.forall_mem_cons.1 each
    have read := buildsV place true fuel p (entryTokens members ++ .blockEnd :: rest)
    rw [Node.ofMembers, List.cons_append, List.cons_append, List.cons_append, List.append_assoc]
    rw [tokens] at read enough ⊢
    rw [List.cons_append] at read ⊢
    rw [scalarToken, blockMap_name _ _ starts (by omega) (read (by omega) fun _ =>
        ⟨rfl, headD_entryTokens_ne members rest⟩),
      ih buildsMembers (by omega), List.reverse_cons, List.append_assoc]
    rfl

/-- The tokens of a list make its node, if those of its items make theirs. -/
theorem Builds.arr {items : List Json} (each : ∀ v ∈ items, Builds v) : Builds (.arr items) := by
  intro place unindented fuel p rest enough behind
  obtain ⟨fuel, rfl⟩ := Nat.exists_eq_add_of_le' (Nat.le_trans (Nat.le_add_left 3 _) enough)
  have steps (t : Token) (ts : List Token) (starts : startsNode t = true) :
      node true unindented (fuel + 3) { p with tokens := t :: ts } =
        content true unindented false none (fuel + 2) { p with tokens := t :: ts } :=
    node_of_startsNode starts
  rw [Node.ofJson]
  cases items with
  | nil =>
    rw [valueTokens, List.cons_append, steps _ _ rfl, content, Node.ofItems]
    simp only [peek_bind, advance_bind, List.headD_cons]
    rw [bracketList]
    rfl
  | cons v items =>
    rw [valueTokens_arr_cons] at enough ⊢
    cases place with
    | inline =>
      simp only [if_true, List.length_cons, List.length_append] at enough
      rw [if_pos rfl, List.cons_append, steps _ _ rfl, content, List.append_assoc]
      simp only [peek_bind, advance_bind, List.headD_cons, if_true, List.drop_succ_cons,
        List.drop_zero]
      exact blockList_itemTokens each (by omega) [] p rest
    | afterName =>
      obtain ⟨rfl, ends⟩ := behind rfl
      rw [if_neg (by decide)] at enough ⊢
      have list := unindentedList_itemTokens each (show _ ≤ fuel + 1 by omega) [] p ends
      rw [itemTokens, List.cons_append] at list ⊢
      rw [steps _ _ rfl, content]
      exact list

/-- The tokens of an object make its node, if those of its members make theirs. -/
theorem Builds.obj {members : List (String × Json)} (each : ∀ m ∈ members, Builds m.2) :
    Builds (.obj members) := by
  intro place unindented fuel p rest enough behind
  obtain ⟨fuel, rfl⟩ := Nat.exists_eq_add_of_le' (Nat.le_trans (Nat.le_add_left 3 _) enough)
  rw [Node.ofJson]
  cases members with
  | nil =>
    rw [valueTokens, List.cons_append, node_of_startsNode rfl, content, Node.ofMembers]
    simp only [peek_bind, advance_bind, List.headD_cons]
    rw [bracketMap]
    rfl
  | cons member members =>
    obtain ⟨name, v⟩ := member
    rw [valueTokens_obj_cons] at enough ⊢
    simp only [List.length_cons, List.length_append, List.length_nil] at enough
    rw [List.cons_append, node_of_startsNode rfl, content, List.append_assoc]
    simp only [peek_bind, advance_bind, List.headD_cons, if_true, List.drop_succ_cons,
      List.drop_zero]
    exact blockMap_entryTokens each (by omega) [] p rest

/-- The tokens of a value make its node. -/
theorem builds_value (v : Json) : Builds v := by
  have scalar {v : Json} {text : List Char} {plain : Bool}
      (tokens : ∀ place, valueTokens place v = [.scalar text plain])
      (found : Node.ofJson v = .scalar text plain none) : Builds v := by
    intro place unindented fuel p rest enough _
    rw [tokens place, found]
    exact node_scalar text plain (by omega)
  induction v using Json.induction with
  | null => exact scalar (fun _ => by rw [valueTokens]) (by rw [Node.ofJson])
  | bool b =>
    cases b with
    | true => exact scalar (fun _ => by rw [valueTokens]) (by rw [Node.ofJson])
    | false => exact scalar (fun _ => by rw [valueTokens]) (by rw [Node.ofJson])
  | number n => exact scalar (fun _ => by rw [valueTokens]) (by rw [Node.ofJson])
  | str text =>
    exact scalar (fun _ => by rw [valueTokens, scalarToken]) (by rw [Node.ofJson, Node.ofText])
  | arr items each => exact .arr each
  | obj members each => exact .obj each

end NodeReader

end StateMetrics.Yaml
