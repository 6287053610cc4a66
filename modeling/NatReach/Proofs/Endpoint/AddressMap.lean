import Mathlib.Logic.Function.Basic
import NatReach.Proofs.Endpoint.AddressSet

namespace NatReach

/-- What is done to a set or to a map of addresses. -/
inductive AddressWrite where
  | put (ip : Ip)
  | remove (family : Family)

namespace AddressWrite

def run {σ : Type} (perform : σ → AddressWrite → Option Ip × σ) :
    List AddressWrite → σ → List (Option Ip) × σ
  | [], state => ([], state)
  | write :: rest, state =>
    let (answer, state) := perform state write
    let (answers, state) := run perform rest state
    (answer :: answers, state)

end AddressWrite

abbrev AddressMap := Family → Option Ip

namespace AddressMap

/-- The first address of each family, and an IPv4 legacy address where the list has none. -/
def ofParts (ips : List Ip) (legacy : Option Ip) : AddressMap
  | .v4 => (ips.find? fun ip => ip.family = .v4).or (legacy.filter fun ip => ip.family = .v4)
  | .v6 => ips.find? fun ip => ip.family = .v6

def perform (map : AddressMap) : AddressWrite → Option Ip × AddressMap
  | .put ip => (none, Function.update map ip.family (some ip))
  | .remove family => (map family, Function.update map family none)

end AddressMap

namespace AddressSet
variable {set : AddressSet}

def perform (set : AddressSet) : AddressWrite → Option Ip × AddressSet
  | .put ip => (none, set.set ip)
  | .remove family => set.remove family

/-! ## By family -/

theorem view_ofParts (ips : List Ip) (legacy : Option Ip) :
    (ofParts ips legacy).get? = AddressMap.ofParts ips legacy := by
  funext family
  rw [get?_ofParts]
  cases family with
  | v4 => simp [AddressMap.ofParts]
  | v6 => simp [AddressMap.ofParts]

theorem view_perform (set : AddressSet) (write : AddressWrite) :
    (set.perform write).1 = (AddressMap.perform set.get? write).1 ∧
      (set.perform write).2.get? = (AddressMap.perform set.get? write).2 := by
  cases write with
  | put ip =>
      refine ⟨rfl, funext fun family => ?_⟩
      simp only [perform, get?_set, AddressMap.perform, Function.update_apply, eq_comm]
  | remove removed =>
      refine ⟨rfl, funext fun family => ?_⟩
      simp only [perform, remove, get?_erase, AddressMap.perform, Function.update_apply, eq_comm]

theorem view_run (writes : List AddressWrite) (set : AddressSet) :
    (AddressWrite.run perform writes set).1 =
        (AddressWrite.run AddressMap.perform writes set.get?).1 ∧
      (AddressWrite.run perform writes set).2.get? =
        (AddressWrite.run AddressMap.perform writes set.get?).2 := by
  induction writes generalizing set with
  | nil => exact ⟨rfl, rfl⟩
  | cons write rest ih =>
      obtain ⟨answer, view⟩ := view_perform set write
      obtain ⟨answers, views⟩ := ih (set.perform write).2
      rw [view] at answers views
      exact ⟨congrArg₂ List.cons answer answers, views⟩

/-! ## As a list -/

theorem length_filter_family_le (set : AddressSet) (family : Family) :
    (set.ips.filter fun ip => ip.family = family).length ≤ 1 := by
  have distinct := set.distinct.filter (fun ip => decide (ip.family = family))
  have same : ∀ ip ∈ set.ips.filter (fun ip => ip.family = family), ip.family = family :=
    fun ip member => of_decide_eq_true (List.mem_filter.1 member).2
  cases found : set.ips.filter fun ip => ip.family = family with
  | nil => exact Nat.zero_le _
  | cons first others =>
      rw [found] at distinct same
      cases others with
      | nil => exact Nat.le_refl _
      | cons second rest =>
          have different := (List.pairwise_cons.1 distinct).1 second List.mem_cons_self
          have one := same first List.mem_cons_self
          have two := same second (List.mem_cons_of_mem _ List.mem_cons_self)
          exact absurd (one.trans two.symm) different

theorem size_le (set : AddressSet) : set.size ≤ 2 := by
  have four := set.length_filter_family_le .v4
  have six := set.length_filter_family_le .v6
  have other : (fun ip : Ip => decide ¬ ip.family = .v4) = fun ip => decide (ip.family = .v6) := by
    funext ip
    cases ip <;> rfl
  have all := set.ips.length_eq_countP_add_countP fun ip => decide (ip.family = .v4)
  simp only [decide_eq_true_eq, other, List.countP_eq_length_filter] at all
  rw [size]
  omega

theorem replaceIn_eq_map {ips : List Ip} (distinct : ips.Pairwise fun a b => a.family ≠ b.family)
    (ip : Ip) :
    replaceIn ip ips = ips.map fun other => if other.family = ip.family then ip else other := by
  induction ips with
  | nil => rfl
  | cons head rest ih =>
      rw [List.pairwise_cons] at distinct
      rw [replaceIn, List.map_cons]
      split
      · rename_i same
        -- the others are of other families
        have others : rest.map (fun other => if other.family = ip.family then ip else other) = rest := by
          refine (List.map_congr_left fun other member => if_neg ?_).trans (List.map_id _)
          rw [← same]
          exact Ne.symm (distinct.1 other member)
        rw [others]
      · rw [ih distinct.2]

theorem ips_set_of_present {ip : Ip} (present : (set.get? ip.family).isSome) :
    (set.set ip).ips = set.ips.map fun other => if other.family = ip.family then ip else other := by
  rw [AddressSet.set, dif_neg (Option.isSome_iff_ne_none.1 present)]
  exact replaceIn_eq_map set.distinct ip

theorem ips_set_of_absent {ip : Ip} (absent : set.get? ip.family = none) :
    (set.set ip).ips = set.ips ++ [ip] := by
  rw [AddressSet.set, dif_pos absent, append]

theorem remove_of_absent {family : Family} (absent : set.get? family = none) :
    set.remove family = (none, set) := by
  have all : (set.erase family).ips = set.ips :=
    List.eraseP_of_forall_not fun ip member => by simpa using get?_eq_none_iff.1 absent ip member
  rw [remove, absent, eq_of_ips all]

theorem ips_remove {front back : List Ip} {ip : Ip} (parts : set.ips = front ++ ip :: back) :
    (set.remove ip.family).1 = some ip ∧ (set.remove ip.family).2.ips = front ++ back := by
  have distinct := set.distinct
  rw [parts, List.pairwise_append] at distinct
  have others : ∀ other ∈ front, ¬ decide (other.family = ip.family) = true := fun other member => by
    simpa using distinct.2.2 other member ip List.mem_cons_self
  constructor
  · exact get?_eq_some_iff.2 ⟨by rw [parts]; exact List.mem_append_right _ List.mem_cons_self, rfl⟩
  · change set.ips.eraseP _ = front ++ back
    rw [parts, List.eraseP_append_right _ others, List.eraseP_cons_of_pos (by simp)]

/-- Made from a list and a legacy address, and written to in any way, a set answers as a map by family
does. It has at most one address of each family, and so two at most. An address takes the place of the one
of its family or comes last, and when one is removed the others stay in their order. -/
theorem refines_map (ips : List Ip) (legacy : Option Ip) (writes : List AddressWrite) :
    let made := AddressWrite.run perform writes (ofParts ips legacy)
    let mapped := AddressWrite.run AddressMap.perform writes (AddressMap.ofParts ips legacy)
    made.1 = mapped.1 ∧ made.2.get? = mapped.2 ∧ made.2.legacy? = mapped.2 .v4 ∧
    (∀ family, (made.2.ips.filter fun ip => ip.family = family).length ≤ 1) ∧ made.2.size ≤ 2 ∧
    (∀ ip, (mapped.2 ip.family).isSome → (made.2.set ip).ips =
      made.2.ips.map fun other => if other.family = ip.family then ip else other) ∧
    (∀ ip, mapped.2 ip.family = none → (made.2.set ip).ips = made.2.ips ++ [ip]) ∧
    (∀ family, mapped.2 family = none → made.2.remove family = (none, made.2)) ∧
    ∀ front ip back, made.2.ips = front ++ ip :: back →
      (made.2.remove ip.family).1 = some ip ∧ (made.2.remove ip.family).2.ips = front ++ back := by
  intro made mapped
  obtain ⟨answers, view⟩ := view_run writes (ofParts ips legacy)
  rw [view_ofParts] at answers view
  have get (family : Family) : made.2.get? family = mapped.2 family := congrFun view family
  refine ⟨answers, view, get .v4, made.2.length_filter_family_le, made.2.size_le, ?_, ?_, ?_, ?_⟩
  · exact fun ip present => ips_set_of_present (by rwa [get])
  · exact fun ip absent => ips_set_of_absent ((get _).trans absent)
  · exact fun family absent => remove_of_absent ((get _).trans absent)
  · exact fun front ip back parts => ips_remove parts

namespace Mixed

def four (last : UInt8) : Ip := .v4 ⟨10, 0, 0, last⟩

def six : Ip := .v6 ⟨[0x2001, 0xdb8, 0, 0, 0, 0, 0, 1], rfl⟩

theorem refines_map_mixed :
    let made := AddressWrite.run perform [.put (four 4)] (ofParts [four 1, six, four 2] (some (four 3)))
    made.2.ips = [four 4, six] ∧ made.2.legacy? = some (four 4) ∧ made.2.size ≤ 2 ∧
      (made.2.set (four 5)).ips = [four 5, six] ∧
      (made.2.remove .v4).1 = some (four 4) ∧ (made.2.remove .v4).2.ips = [] ++ [six] := by
  intro made
  obtain ⟨-, -, legacy, -, few, put, -, -, removed⟩ :=
    refines_map [four 1, six, four 2] (some (four 3)) [.put (four 4)]
  have there : made.2.ips = [four 4, six] := by decide
  have present := put (four 5) rfl
  rw [there] at present
  exact ⟨there, legacy, few, present, removed [] (four 4) [six] there⟩

end Mixed
end AddressSet
end NatReach
