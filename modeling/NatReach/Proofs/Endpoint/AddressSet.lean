import Mathlib.Data.List.Pairwise
import NatReach.Endpoint.AddressSet

namespace NatReach

def Ip.sameFamily (a b : Ip) : Bool := a.family = b.family

namespace AddressSet

theorem eq_of_ips {a b : AddressSet} (same : a.ips = b.ips) : a = b := by
  cases a
  cases b
  cases same
  rfl

theorem get?_eq_some_iff {set : AddressSet} {family : Family} {ip : Ip} :
    set.get? family = some ip ↔ ip ∈ set.ips ∧ ip.family = family := by
  constructor
  · intro present
    exact ⟨List.mem_of_find?_eq_some present, by simpa using List.find?_some present⟩
  · rintro ⟨member, rfl⟩
    cases found : set.get? ip.family with
    | none => exact absurd rfl (get?_eq_none_iff.1 found ip member)
    | some other =>
        have memberToo := List.mem_of_find?_eq_some found
        have same : other.family = ip.family := by simpa using List.find?_some found
        by_contra different
        have symmetric : Std.Symm fun a b : Ip => a.family ≠ b.family := ⟨fun _ _ => Ne.symm⟩
        refine set.distinct.forall memberToo member ?_ same
        rintro rfl
        exact different rfl

theorem nodup_families (set : AddressSet) : (set.ips.map Ip.family).Nodup :=
  List.pairwise_map.2 set.distinct

/-! ## In order -/

theorem ips_keep (set : AddressSet) (ip : Ip) :
    (set.keep ip).ips = set.ips ++ if set.get? ip.family = none then [ip] else [] := by
  rw [keep]
  split
  · rfl
  · exact (List.append_nil _).symm

theorem ips_foldl_keep (ips : List Ip) (set : AddressSet) :
    (ips.foldl keep set).ips = set.ips ++
      (ips.filter fun ip => (set.get? ip.family).isNone).eraseDupsBy Ip.sameFamily := by
  induction ips generalizing set with
  | nil => exact (List.append_nil _).symm
  | cons ip rest ih =>
      rw [List.foldl_cons, ih, ips_keep, List.filter_cons, List.append_assoc]
      congr 1
      cases present : set.get? ip.family with
      | none =>
          simp only [↓reduceIte, Option.isNone_none, List.eraseDupsBy_cons, List.filter_filter,
            List.singleton_append]
          congr 2
          refine List.filter_congr fun other _ => ?_
          rw [get?_keep]
          by_cases same : ip.family = other.family
          · simp [same, Ip.sameFamily]
          · simp [same, Ne.symm same, Ip.sameFamily]
      | some old =>
          simp only [reduceCtorEq, ↓reduceIte, Option.isNone_some, Bool.false_eq_true, List.nil_append]
          congr 1
          refine List.filter_congr fun other _ => ?_
          rw [get?_keep]
          by_cases same : ip.family = other.family
          · simp [← same, present]
          · simp [same]

theorem ips_ofList (ips : List Ip) : (ofList ips).ips = ips.eraseDupsBy Ip.sameFamily := by
  have all : ips.filter (fun ip => (empty.get? ip.family).isNone) = ips :=
    List.filter_eq_self.2 fun _ _ => rfl
  rw [ofList, ips_foldl_keep, all]
  rfl

theorem ips_ofParts (ips : List Ip) (legacy : Option Ip) :
    (ofParts ips legacy).ips = ips.eraseDupsBy Ip.sameFamily ++
      (legacy.filter fun ip => ip.family = .v4 ∧ ∀ other ∈ ips, other.family ≠ .v4).toList := by
  have none_iff : (ofList ips).get? .v4 = none ↔ ∀ other ∈ ips, other.family ≠ .v4 := by
    simp [get?_ofList]
  rw [← ips_ofList]
  cases legacy with
  | none => exact (List.append_nil _).symm
  | some ip =>
      cases ip with
      | v6 address => simp [ofParts, Option.filter, Ip.family]
      | v4 address =>
          have isV4 : (Ip.v4 address).family = .v4 := rfl
          rw [ofParts, ips_keep, isV4, Option.filter_some]
          by_cases unlisted : ∀ other ∈ ips, other.family ≠ .v4
          · rw [if_pos (none_iff.2 unlisted), if_pos (decide_eq_true ⟨isV4, unlisted⟩)]
            rfl
          · rw [if_neg (mt none_iff.1 unlisted), if_neg (mt of_decide_eq_true fun both => unlisted both.2)]
            rfl

theorem eraseDupsBy_of_distinct {ips : List Ip}
    (distinct : ips.Pairwise fun a b => a.family ≠ b.family) : ips.eraseDupsBy Ip.sameFamily = ips := by
  induction ips with
  | nil => rfl
  | cons ip rest ih =>
      rw [List.pairwise_cons] at distinct
      have others : rest.filter (fun other => Ip.sameFamily other ip = false) = rest :=
        List.filter_eq_self.2 fun other member => by
          simpa [Ip.sameFamily] using Ne.symm (distinct.1 other member)
      rw [List.eraseDupsBy_cons, others, ih distinct.2]

theorem ofList_ips (set : AddressSet) : ofList set.ips = set :=
  eq_of_ips ((ips_ofList _).trans (eraseDupsBy_of_distinct set.distinct))

end AddressSet
end NatReach
