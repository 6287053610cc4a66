import NatReach.Address.Basic

namespace NatReach

/-- Addresses in order, at most one of each family. -/
structure AddressSet where
  ips : List Ip
  distinct : ips.Pairwise (fun a b => a.family ≠ b.family)
deriving DecidableEq

namespace AddressSet

def empty : AddressSet := ⟨[], .nil⟩

instance : Inhabited AddressSet := ⟨empty⟩

def get? (set : AddressSet) (family : Family) : Option Ip :=
  set.ips.find? fun ip => ip.family = family

/-- The address that older peers read. -/
def legacy? (set : AddressSet) : Option Ip := set.get? .v4

theorem get?_eq_none_iff {set : AddressSet} {family : Family} :
    set.get? family = none ↔ ∀ ip ∈ set.ips, ip.family ≠ family := by
  simp [get?]

def append (set : AddressSet) (ip : Ip) (absent : set.get? ip.family = none) : AddressSet :=
  ⟨set.ips ++ [ip], by
    rw [List.pairwise_append]
    refine ⟨set.distinct, List.pairwise_singleton .., ?_⟩
    intro other member last lastIsIp
    rw [List.mem_singleton.1 lastIsIp]
    exact get?_eq_none_iff.1 absent other member⟩

def keep (set : AddressSet) (ip : Ip) : AddressSet :=
  if absent : set.get? ip.family = none then set.append ip absent else set

def ofList (ips : List Ip) : AddressSet := ips.foldl keep empty

/-- The set of a list and a legacy address. The latter counts only if it is an IPv4 address and the
list has none. -/
def ofParts (ips : List Ip) (legacy : Option Ip) : AddressSet :=
  match legacy with
  | some (.v4 address) => (ofList ips).keep (.v4 address)
  | _ => ofList ips

def replaceIn (ip : Ip) : List Ip → List Ip
  | [] => []
  | other :: rest => if other.family = ip.family then ip :: rest else other :: replaceIn ip rest

theorem map_family_replaceIn (ip : Ip) (ips : List Ip) :
    (replaceIn ip ips).map Ip.family = ips.map Ip.family := by
  induction ips with
  | nil => rfl
  | cons other rest ih =>
      rw [replaceIn]
      split
      · rename_i same
        rw [List.map_cons, List.map_cons, same]
      · rw [List.map_cons, List.map_cons, ih]

/-- Gives a family an address: in the place of the old one, or else at the end. -/
def set (addresses : AddressSet) (ip : Ip) : AddressSet :=
  if absent : addresses.get? ip.family = none then addresses.append ip absent
  else
    ⟨replaceIn ip addresses.ips, by
      have distinct := List.pairwise_map.2 addresses.distinct
      rw [← map_family_replaceIn ip] at distinct
      exact List.pairwise_map.1 distinct⟩

def erase (set : AddressSet) (family : Family) : AddressSet :=
  ⟨set.ips.eraseP fun ip => ip.family = family, set.distinct.sublist List.eraseP_sublist⟩

def remove (set : AddressSet) (family : Family) : Option Ip × AddressSet :=
  (set.get? family, set.erase family)

def size (set : AddressSet) : Nat := set.ips.length

/-! ## The address of a family -/

@[simp] theorem get?_empty (family : Family) : empty.get? family = none := rfl

theorem get?_append (set : AddressSet) (ip : Ip) (absent : set.get? ip.family = none)
    (family : Family) :
    (set.append ip absent).get? family =
      if ip.family = family then some ip else set.get? family := by
  simp only [get?, append, List.find?_append]
  split
  · rename_i same
    subst same
    have missing : List.find? (fun other => decide (other.family = ip.family)) set.ips = none :=
      absent
    simp [missing]
  · rename_i different
    simp [different]

theorem get?_keep (set : AddressSet) (ip : Ip) (family : Family) :
    (set.keep ip).get? family =
      if ip.family = family then (set.get? family).or (some ip) else set.get? family := by
  rw [keep]
  split
  · rename_i absent
    rw [get?_append]
    split
    · rename_i same
      subst same
      simp [absent]
    · rfl
  · rename_i present
    split
    · rename_i same
      subst same
      cases h : set.get? ip.family with
      | none => exact absurd h present
      | some other => rfl
    · rfl

theorem get?_foldl_keep (ips : List Ip) (set : AddressSet) (family : Family) :
    (ips.foldl keep set).get? family =
      (set.get? family).or (ips.find? fun ip => ip.family = family) := by
  induction ips generalizing set with
  | nil => simp
  | cons ip rest ih =>
      rw [List.foldl_cons, ih, get?_keep]
      by_cases same : ip.family = family
      · cases set.get? family <;> simp [same]
      · simp [same]

theorem get?_ofList (ips : List Ip) (family : Family) :
    (ofList ips).get? family = ips.find? fun ip => ip.family = family := by
  simp [ofList, get?_foldl_keep]

theorem get?_ofParts (ips : List Ip) (legacy : Option Ip) (family : Family) :
    (ofParts ips legacy).get? family =
      (ips.find? fun ip => ip.family = family).or
        (legacy.filter fun ip => ip.family = .v4 ∧ family = .v4) := by
  unfold ofParts
  split
  · rename_i address
    rw [get?_keep, get?_ofList]
    cases family <;> simp [Ip.family, Option.filter]
  · rename_i notV4
    rw [get?_ofList]
    cases legacy with
    | none => simp
    | some ip =>
        cases ip with
        | v4 address => exact absurd rfl (notV4 address)
        | v6 address => simp [Ip.family, Option.filter]

theorem find?_replaceIn (ip : Ip) (ips : List Ip) (family : Family) :
    (replaceIn ip ips).find? (fun other => other.family = family) =
      (ips.find? fun other => other.family = family).map
        fun other => if ip.family = family then ip else other := by
  induction ips with
  | nil => rfl
  | cons head rest ih =>
      rw [replaceIn]
      by_cases own : head.family = ip.family
      · rw [if_pos own, List.find?_cons, List.find?_cons, own]
        by_cases same : ip.family = family
        · simp [same]
        · simp [same]
      · rw [if_neg own, List.find?_cons, List.find?_cons, ih]
        by_cases same : head.family = family
        · subst same
          simp [Ne.symm own]
        · simp [same]

theorem get?_set (set : AddressSet) (ip : Ip) (family : Family) :
    (set.set ip).get? family = if ip.family = family then some ip else set.get? family := by
  rw [AddressSet.set]
  split
  · rw [get?_append]
  · rename_i present
    have h := find?_replaceIn ip set.ips family
    simp only [get?] at present ⊢
    rw [h]
    split
    · rename_i same
      subst same
      cases found : List.find? (fun other => decide (other.family = ip.family)) set.ips with
      | none => exact absurd found present
      | some other => rfl
    · simp

theorem eraseP_eq_filter {ips : List Ip} (distinct : ips.Pairwise fun a b => a.family ≠ b.family)
    (family : Family) :
    ips.eraseP (fun ip => ip.family = family) = ips.filter fun ip => ip.family ≠ family := by
  induction ips with
  | nil => rfl
  | cons head rest ih =>
      rw [List.pairwise_cons] at distinct
      by_cases same : head.family = family
      · subst same
        have others : rest.filter (fun ip => ip.family ≠ head.family) = rest :=
          List.filter_eq_self.2 fun ip member => decide_eq_true (Ne.symm (distinct.1 ip member))
        rw [List.eraseP_cons_of_pos (by simp), List.filter_cons_of_neg (by simp), others]
      · rw [List.eraseP_cons_of_neg (by simpa using same), List.filter_cons_of_pos (by simpa using same),
          ih distinct.2]

theorem ips_erase (set : AddressSet) (family : Family) :
    (set.erase family).ips = set.ips.filter fun ip => ip.family ≠ family :=
  eraseP_eq_filter set.distinct family

theorem get?_erase (set : AddressSet) (removed family : Family) :
    (set.erase removed).get? family = if removed = family then none else set.get? family := by
  rw [get?, ips_erase, get?, List.find?_filter]
  split
  · rename_i same
    subst same
    simp
  · rename_i different
    congr 1
    funext ip
    by_cases same : ip.family = family
    · simp [same, Ne.symm different]
    · simp [same]

end AddressSet
end NatReach
