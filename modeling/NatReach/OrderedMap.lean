namespace NatReach

structure OrderedMap (α : Type) where
  entries : List (String × α)
  ascending : entries.Pairwise (fun a b => a.1 < b.1)
deriving DecidableEq

namespace OrderedMap
variable {α β : Type}

def empty : OrderedMap α := ⟨[], .nil⟩

instance : Inhabited (OrderedMap α) := ⟨empty⟩

def lookup (key : String) : List (String × α) → Option α
  | [] => none
  | (k, v) :: rest => if k = key then some v else lookup key rest

def place (key : String) (value : α) : List (String × α) → List (String × α)
  | [] => [(key, value)]
  | (k, v) :: rest =>
    if key < k then (key, value) :: (k, v) :: rest
    else if k = key then (key, value) :: rest
    else (k, v) :: place key value rest

theorem key_mem_place {key : String} {value : α} {entries : List (String × α)}
    {entry : String × α} (member : entry ∈ place key value entries) :
    entry = (key, value) ∨ entry ∈ entries := by
  induction entries with
  | nil => simpa [place] using member
  | cons head rest ih =>
      obtain ⟨k, v⟩ := head
      simp only [place] at member
      split at member
      · simpa using member
      · split at member <;> grind

theorem ascending_place (key : String) (value : α) {entries : List (String × α)}
    (ascending : entries.Pairwise (fun a b => a.1 < b.1)) :
    (place key value entries).Pairwise (fun a b => a.1 < b.1) := by
  induction entries with
  | nil => simp [place]
  | cons head rest ih =>
      obtain ⟨k, v⟩ := head
      rw [List.pairwise_cons] at ascending
      simp only [place]
      split
      · rename_i smaller
        refine List.pairwise_cons.2 ⟨?_, List.pairwise_cons.2 ascending⟩
        intro entry member
        rcases List.mem_cons.1 member with rfl | member
        · exact smaller
        · exact String.lt_trans smaller (ascending.1 _ member)
      · split
        · rename_i same
          subst same
          exact List.pairwise_cons.2 ascending
        · rename_i notSmaller different
          have larger : k < key := by
            rcases Decidable.em (k < key) with h | h
            · exact h
            · exact absurd (String.le_antisymm (String.not_lt.1 notSmaller) (String.not_lt.1 h))
                different
          refine List.pairwise_cons.2 ⟨?_, ih ascending.2⟩
          intro entry member
          rcases key_mem_place member with rfl | member
          · exact larger
          · exact ascending.1 _ member

def get? (map : OrderedMap α) (key : String) : Option α := lookup key map.entries

def contains (map : OrderedMap α) (key : String) : Bool := (map.get? key).isSome

def insert (map : OrderedMap α) (key : String) (value : α) : OrderedMap α :=
  ⟨place key value map.entries, ascending_place key value map.ascending⟩

def erase (map : OrderedMap α) (key : String) : OrderedMap α :=
  ⟨map.entries.filter (fun entry => entry.1 ≠ key), map.ascending.filter _⟩

/-- The map of a list of entries; of two with one key the later counts. -/
def ofList (entries : List (String × α)) : OrderedMap α :=
  entries.foldl (fun map entry => map.insert entry.1 entry.2) empty

def keys (map : OrderedMap α) : List String := map.entries.map Prod.fst

def values (map : OrderedMap α) : List α := map.entries.map Prod.snd

def size (map : OrderedMap α) : Nat := map.entries.length

/-! ## What a key answers -/

theorem lookup_eq_none {key : String} {entries : List (String × α)} :
    lookup key entries = none ↔ ∀ entry ∈ entries, entry.1 ≠ key := by
  induction entries with
  | nil => simp [lookup]
  | cons head rest ih =>
      obtain ⟨k, v⟩ := head
      simp only [lookup]
      split <;> simp_all

theorem lookup_place (key other : String) (value : α) (entries : List (String × α)) :
    lookup other (place key value entries) =
      if key = other then some value else lookup other entries := by
  induction entries with
  | nil => simp [place, lookup]
  | cons head rest ih =>
      obtain ⟨k, v⟩ := head
      simp only [place]
      split
      · simp [lookup]
      · split
        · rename_i same
          subst same
          simp only [lookup]
          split <;> rfl
        · rename_i different
          simp only [lookup, ih]
          grind

theorem lookup_filter_ne (key other : String) (entries : List (String × α)) :
    lookup other (entries.filter (fun entry => entry.1 ≠ key)) =
      if key = other then none else lookup other entries := by
  induction entries with
  | nil => simp [lookup]
  | cons head rest ih =>
      obtain ⟨k, v⟩ := head
      by_cases same : k = key
      · subst same
        simp only [List.filter_cons, ne_eq, not_true_eq_false, decide_false, Bool.false_eq_true,
          ↓reduceIte, lookup]
        rw [ih]
        split <;> simp_all
      · simp only [List.filter_cons, ne_eq, same, not_false_eq_true, decide_true, ↓reduceIte,
          lookup]
        rw [ih]
        grind

@[simp] theorem get?_empty (key : String) : (empty : OrderedMap α).get? key = none := rfl

theorem get?_insert (map : OrderedMap α) (key other : String) (value : α) :
    (map.insert key value).get? other = if key = other then some value else map.get? other :=
  lookup_place key other value map.entries

@[simp] theorem get?_insert_self (map : OrderedMap α) (key : String) (value : α) :
    (map.insert key value).get? key = some value := by simp [get?_insert]

theorem get?_erase (map : OrderedMap α) (key other : String) :
    (map.erase key).get? other = if key = other then none else map.get? other :=
  lookup_filter_ne key other map.entries

theorem lookup_eq_some_iff {entries : List (String × α)}
    (ascending : entries.Pairwise (fun a b => a.1 < b.1)) {key : String} {value : α} :
    lookup key entries = some value ↔ (key, value) ∈ entries := by
  induction entries with
  | nil => simp [lookup]
  | cons head rest ih =>
      obtain ⟨k, v⟩ := head
      rw [List.pairwise_cons] at ascending
      simp only [lookup, List.mem_cons, Prod.mk.injEq]
      split
      · rename_i same
        subst same
        constructor
        · intro h
          exact .inl ⟨rfl, (Option.some.inj h).symm⟩
        · rintro (⟨_, rfl⟩ | member)
          · rfl
          · exact absurd (ascending.1 _ member) (String.lt_irrefl _)
      · rename_i different
        rw [ih ascending.2]
        constructor
        · exact .inr
        · rintro (⟨same, _⟩ | member)
          · exact absurd same.symm different
          · exact member

theorem mem_entries_iff {map : OrderedMap α} {key : String} {value : α} :
    (key, value) ∈ map.entries ↔ map.get? key = some value :=
  (lookup_eq_some_iff map.ascending).symm

theorem mem_keys_iff {map : OrderedMap α} {key : String} :
    key ∈ map.keys ↔ ∃ value, map.get? key = some value := by
  simp only [keys, List.mem_map, Prod.exists, exists_and_right, exists_eq_right, mem_entries_iff]

theorem entries_eq_of_lookup {a b : List (String × α)}
    (ascendingA : a.Pairwise (fun x y => x.1 < y.1))
    (ascendingB : b.Pairwise (fun x y => x.1 < y.1))
    (same : ∀ key, lookup key a = lookup key b) : a = b := by
  induction a generalizing b with
  | nil =>
      cases b with
      | nil => rfl
      | cons head rest =>
          have h := same head.1
          simp [lookup] at h
  | cons x xs ih =>
      cases b with
      | nil =>
          have h := same x.1
          simp [lookup] at h
      | cons y ys =>
          have first : x.1 = y.1 := by
            rcases Decidable.em (x.1 = y.1) with h | h
            · exact h
            have inB : (x.1, x.2) ∈ y :: ys := by
              rw [← lookup_eq_some_iff ascendingB, ← same]
              simp [lookup]
            have inA : (y.1, y.2) ∈ x :: xs := by
              rw [← lookup_eq_some_iff ascendingA, same]
              simp [lookup]
            rw [List.pairwise_cons] at ascendingA ascendingB
            rcases List.mem_cons.1 inB with e | inB
            · exact congrArg Prod.fst e
            rcases List.mem_cons.1 inA with e | inA
            · exact (congrArg Prod.fst e).symm
            exact absurd (String.lt_trans (ascendingA.1 _ inA) (ascendingB.1 _ inB))
              (String.lt_irrefl _)
          have second : x.2 = y.2 := by
            have h := same x.1
            simpa [lookup, first] using h
          have rest : xs = ys := by
            rw [List.pairwise_cons] at ascendingA ascendingB
            refine ih ascendingA.2 ascendingB.2 fun key => ?_
            have h := same key
            simp only [lookup, first, second] at h
            split at h
            · rename_i at_head
              have noA : lookup key xs = none := lookup_eq_none.2 fun entry member same => by
                have := ascendingA.1 _ member
                rw [same, ← at_head, first] at this
                exact String.lt_irrefl _ this
              have noB : lookup key ys = none := lookup_eq_none.2 fun entry member same => by
                have := ascendingB.1 _ member
                rw [same, ← at_head] at this
                exact String.lt_irrefl _ this
              rw [noA, noB]
            · exact h
          exact congr (congrArg List.cons (Prod.ext first second)) rest

theorem ext_get? {a b : OrderedMap α} (same : ∀ key, a.get? key = b.get? key) : a = b := by
  obtain ⟨ea, ha⟩ := a
  obtain ⟨eb, hb⟩ := b
  have : ea = eb := entries_eq_of_lookup ha hb same
  subst this
  rfl

theorem insert_get?_self {map : OrderedMap α} {key : String} {value : α}
    (present : map.get? key = some value) : map.insert key value = map := by
  apply ext_get?
  intro other
  simp only [get?_insert]
  split
  · rename_i same
    rw [← same, present]
  · rfl

theorem erase_of_get?_eq_none {map : OrderedMap α} {key : String}
    (absent : map.get? key = none) : map.erase key = map := by
  apply ext_get?
  intro other
  simp only [get?_erase]
  split
  · rename_i same
    rw [← same, absent]
  · rfl

end OrderedMap
end NatReach
