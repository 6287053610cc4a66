import NatReach.Toml.Tree

namespace NatReach.Toml

namespace Node
variable {name : String} {members : List (String × Node)}

theorem find?_eq_none_iff : find? name members = none ↔ name ∉ members.map Prod.fst := by
  rw [find?, Option.map_eq_none_iff, List.find?_eq_none, List.mem_map]
  constructor
  · rintro absent ⟨member, inside, rfl⟩
    exact absent member inside (beq_self_eq_true _)
  · intro absent member inside same
    exact absent ⟨member, inside, beq_iff_eq.1 same⟩

theorem find?_append_self (fresh : find? name members = none) (node : Node) :
    find? name (members ++ [(name, node)]) = some node := by
  rw [find?, Option.map_eq_none_iff] at fresh
  simp [find?, List.find?_append, fresh]

theorem put_append_self (fresh : find? name members = none) (old new : Node) :
    put name new (members ++ [(name, old)]) = members ++ [(name, new)] := by
  rw [find?_eq_none_iff] at fresh
  induction members with
  | nil => exact if_pos rfl
  | cons member members ih =>
      rw [List.map_cons, List.mem_cons, not_or] at fresh
      rw [List.cons_append, put, if_neg (Ne.symm fresh.1), ih fresh.2, List.cons_append]

/-- A path through the last members of tables and the last tables of lists, and the tree around a node at
its end. -/
inductive Way : List String → (Node → Node) → Prop
  | here : Way [] id
  | member {path within members name} (fresh : find? name members = none) (inner : Way path within) :
      Way (name :: path) fun node => table .header (members ++ [(name, within node)])
  | item {path within members name others} (fresh : find? name members = none)
      (inner : Way path within) :
      Way (name :: path) fun node => table .header (members ++ [(name, tables (within node :: others))])

namespace Way
variable {path : List String} {within : Node → Node}

theorem exists_table (way : Way path within) (members : List (String × Node)) :
    ∃ around, within (table .header members) = table .header around := by
  cases way with
  | here => exact ⟨members, rfl⟩
  | member => exact ⟨_, rfl⟩
  | item => exact ⟨_, rfl⟩

theorem change (way : Way path within) (atEnd : Node → Option Node) (members : List (String × Node)) :
    Node.change false atEnd path (within (table .header members)) =
      (atEnd (table .header members)).map within := by
  induction way with
  | here => exact (congrFun Option.map_id _).symm
  | @member path within others name fresh inner ih =>
      obtain ⟨around, same⟩ := inner.exists_table members
      rw [Node.change, find?_append_self fresh, same]
      simp only [Bool.false_and, Bool.false_eq_true, if_false]
      rw [← same, ih]
      cases atEnd (table .header members) with
      | none => rfl
      | some node =>
          exact congrArg (fun members => some (table .header members)) (put_append_self fresh _ _)
  | @item path within others name earlier fresh inner ih =>
      rw [Node.change, find?_append_self fresh]
      dsimp only
      rw [ih]
      cases atEnd (table .header members) with
      | none => rfl
      | some node =>
          exact congrArg (fun members => some (table .header members)) (put_append_self fresh _ _)

theorem enter (way : Way path within) (fresh : find? name members = none) :
    Way (path ++ [name]) fun node => within (table .header (members ++ [(name, node)])) := by
  induction way with
  | here => exact .member fresh .here
  | member freshToo inner ih => exact .member freshToo ih
  | item freshToo inner ih => exact .item freshToo ih

theorem enterItem (way : Way path within) (fresh : find? name members = none) (others : List Node) :
    Way (path ++ [name]) fun node =>
      within (table .header (members ++ [(name, tables (node :: others))])) := by
  induction way with
  | here => exact .item fresh .here
  | member freshToo inner ih => exact .member freshToo ih
  | item freshToo inner ih => exact .item freshToo ih

end Way

theorem splitLast?_append (path : List String) (name : String) :
    splitLast? (path ++ [name]) = some (path, name) := by
  induction path with
  | nil => rfl
  | cons first rest ih =>
      cases rest with
      | nil => rfl
      | cons second rest =>
          rw [List.cons_append] at ih ⊢
          rw [List.cons_append, splitLast?, ih]
          · rfl
          · exact nofun

/-! ## Documents -/

theorem memberDocuments_append (front back : List (String × Node)) :
    memberDocuments (front ++ back) = memberDocuments front ++ memberDocuments back := by
  induction front with
  | nil => rfl
  | cons member front ih =>
      obtain ⟨name, node⟩ := member
      rw [List.cons_append, memberDocuments, memberDocuments, ih, List.cons_append]

def leaves (pairs : List (String × Document)) : List (String × Node) :=
  pairs.map fun pair => (pair.1, leaf pair.2)

theorem names_leaves (pairs : List (String × Document)) :
    (leaves pairs).map Prod.fst = pairs.map Prod.fst := by
  rw [leaves, List.map_map]
  rfl

theorem memberDocuments_leaves (pairs : List (String × Document)) :
    memberDocuments (leaves pairs) = pairs.map fun pair => (some pair.1, pair.2) := by
  induction pairs with
  | nil => rfl
  | cons pair pairs ih =>
      rw [leaves, List.map_cons, memberDocuments, ← leaves, ih, document, List.map_cons]

theorem itemDocuments_eq (items : List Node) : itemDocuments items = items.map document := by
  induction items with
  | nil => rfl
  | cons node items ih => rw [itemDocuments, ih, List.map_cons]

end Node

/-! ## Statements -/

def assignments (pairs : List (String × Document)) : List Statement :=
  pairs.map fun pair => .value [pair.1] pair.2

section
open Node
variable {path : List String} {within : Node → Node} {members : List (String × Node)} {name : String}

theorem foldlM_of_step {draft next : Draft} {statement : Statement}
    (step : Draft.step draft statement = some next) (rest : List Statement) :
    (statement :: rest).foldlM Draft.step draft = rest.foldlM Draft.step next := by
  rw [List.foldlM_cons, step]
  rfl

theorem foldlM_of_front {draft next : Draft} {front : List Statement}
    (steps : front.foldlM Draft.step draft = some next) (rest : List Statement) :
    (front ++ rest).foldlM Draft.step draft = rest.foldlM Draft.step next := by
  rw [List.foldlM_append, steps]
  rfl

theorem step_table (way : Way path within) (fresh : find? name members = none) (last : List String) :
    Draft.step ⟨within (table .header members), last⟩ (.table (path ++ [name])) =
      some ⟨within (table .header (members ++ [(name, table .header [])])), path ++ [name]⟩ := by
  simp [Draft.step, splitLast?_append, way.change, openTable, fresh]

theorem step_item (way : Way path within) (fresh : find? name members = none) (last : List String) :
    Draft.step ⟨within (table .header members), last⟩ (.item (path ++ [name])) =
      some ⟨within (table .header (members ++ [(name, tables [table .header []])])), path ++ [name]⟩ := by
  simp [Draft.step, splitLast?_append, way.change, openItem, fresh]

theorem step_nextItem (way : Way path within) (fresh : find? name members = none) (items : List Node)
    (last : List String) :
    Draft.step ⟨within (table .header (members ++ [(name, tables items)])), last⟩ (.item (path ++ [name])) =
      some ⟨within (table .header (members ++ [(name, tables (table .header [] :: items))])),
        path ++ [name]⟩ := by
  simp [Draft.step, splitLast?_append, way.change, openItem, find?_append_self fresh,
    put_append_self fresh]

theorem step_value (way : Way path within) (fresh : find? name members = none) (value : Document) :
    Draft.step ⟨within (table .header members), path⟩ (.value [name] value) =
      some ⟨within (table .header (members ++ [(name, leaf value)])), path⟩ := by
  have defined : assign [name] value (table .header members) =
      some (table .header (members ++ [(name, leaf value)])) := by
    rw [assign, splitLast?]
    simp [Node.change, define, fresh]
  simp [Draft.step, way.change, defined]

theorem foldlM_values (way : Way path within) {pairs : List (String × Document)}
    (distinct : (members.map Prod.fst ++ pairs.map Prod.fst).Nodup) :
    (assignments pairs).foldlM Draft.step ⟨within (table .header members), path⟩ =
      some ⟨within (table .header (members ++ leaves pairs)), path⟩ := by
  induction pairs generalizing members with
  | nil =>
      rw [assignments, leaves, List.map_nil, List.map_nil, List.append_nil]
      rfl
  | cons pair pairs ih =>
      have fresh : find? pair.1 members = none := by
        rw [find?_eq_none_iff]
        intro member
        exact (List.nodup_append.1 distinct).2.2 _ member _ List.mem_cons_self rfl
      have others : ((members ++ [(pair.1, leaf pair.2)]).map Prod.fst ++ pairs.map Prod.fst).Nodup := by
        simpa using distinct
      have filled := ih others
      rw [List.append_assoc] at filled
      rw [assignments, List.map_cons, foldlM_of_step (step_value way fresh pair.2)]
      exact filled

theorem foldlM_lines (way : Way path within) {pairs : List (String × Document)}
    (distinct : (pairs.map Prod.fst).Nodup) :
    (assignments pairs).foldlM Draft.step ⟨within (table .header []), path⟩ =
      some ⟨within (table .header (leaves pairs)), path⟩ :=
  foldlM_values way distinct

end

end NatReach.Toml
