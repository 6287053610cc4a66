import Mathlib.Algebra.GroupWithZero.Nat
import Mathlib.Data.List.Perm.Subperm
import NatReach.Proofs.PeerTable.Gapless

namespace NatReach
open PeerTable

namespace PeerTable

/-- That fewer numbers are on record than there are. -/
def HasRoom (table : PeerTable) : Prop := table.numbersInUse.length < UInt32.size

theorem mem_of_firstUnused {used : List UInt32} {looks : Nat} {number : UInt32}
    (inUse : firstUnused used looks number ∈ used) :
    ∀ position ≤ looks, numberAt number position ∈ used := by
  induction looks generalizing number with
  | zero =>
      intro position first
      rw [firstUnused] at inUse
      rw [Nat.le_zero.1 first]
      simpa [numberAt] using inUse
  | succ looks ih =>
      rw [firstUnused] at inUse
      split at inUse
      · rename_i here
        intro position near
        cases position with
        | zero => simpa [numberAt] using here
        | succ position =>
            have later := ih inUse position (Nat.le_of_succ_le_succ near)
            have same : numberAt number (position + 1) = numberAt (number + 1) position := by
              rw [numberAt_succ, numberAt, numberAt, UInt32.add_assoc, UInt32.add_assoc,
                UInt32.add_comm 1]
            rwa [same]
      · rename_i free
        exact absurd (by simpa using inUse) free

/-- As many looks as there are numbers in use find one that is free: otherwise one more number than that
would be in use. -/
theorem freshNumber_not_mem {table : PeerTable} (room : HasRoom table) :
    table.freshNumber ∉ table.numbersInUse := by
  intro inUse
  let count := table.numbersInUse.length
  have passed := mem_of_firstUnused inUse
  have different : ((List.range (count + 1)).map (numberAt table.nextNumber)).Nodup := by
    refine List.Nodup.map_on ?_ List.nodup_range
    intro a memberA b memberB same
    rw [List.mem_range] at memberA memberB
    unfold HasRoom at room
    exact numberAt_inj (by omega) (by omega) same
  have part : (List.range (count + 1)).map (numberAt table.nextNumber) ⊆ table.numbersInUse := by
    intro number member
    obtain ⟨position, inRange, rfl⟩ := List.mem_map.1 member
    exact passed position (Nat.lt_succ_iff.1 (List.mem_range.1 inRange))
  have more := (different.subperm part).length_le
  rw [List.length_map, List.length_range] at more
  omega

/-! ## Numbers on record are not forgotten by asking -/

section
variable {α β : Type} {key : String} {old new : α} {size : α → Nat}

theorem sum_place {entries : List (String × α)} (ascending : entries.Pairwise (fun a b => a.1 < b.1))
    (present : OrderedMap.lookup key entries = some old) (larger : size old ≤ size new) :
    (entries.map fun entry => size entry.2).sum ≤
      ((OrderedMap.place key new entries).map fun entry => size entry.2).sum := by
  induction entries with
  | nil => cases present
  | cons head rest ih =>
      obtain ⟨k, v⟩ := head
      rw [List.pairwise_cons] at ascending
      simp only [OrderedMap.lookup] at present
      simp only [OrderedMap.place]
      split at present
      · rename_i same
        cases present
        rw [if_neg (by rw [same]; exact String.lt_irrefl _), if_pos same]
        simpa using larger
      · rename_i different
        have inRest := (OrderedMap.lookup_eq_some_iff ascending.2).1 present
        have behind : ¬ key < k := fun before =>
          String.lt_irrefl _ (String.lt_trans before (ascending.1 _ inRest))
        rw [if_neg behind, if_neg different]
        simpa using ih ascending.2 present

end

def recorded (remote : Remote) : Nat :=
  (remote.viaPublic.lastRequest.toList ++ remote.viaPrivate.lastRequest.toList).length

theorem length_numbersInUse (table : PeerTable) :
    table.numbersInUse.length = (table.remotes.entries.map fun entry => recorded entry.2).sum := by
  unfold numbersInUse OrderedMap.values
  rw [List.length_flatMap, List.map_map]
  rfl

theorem room_put {table : PeerTable} {id : String} {before after : Remote}
    (present : table.get? id = some before)
    (kept : ∀ role, (before.probe role).lastRequest.isSome → (after.probe role).lastRequest.isSome) :
    table.numbersInUse.length ≤ (table.put id after).numbersInUse.length := by
  rw [length_numbersInUse, length_numbersInUse]
  refine sum_place table.remotes.ascending present ?_
  have viaPublic := kept .viaPublic
  have viaPrivate := kept .viaPrivate
  simp only [Remote.probe] at viaPublic viaPrivate
  simp only [recorded, List.length_append, Option.length_toList]
  split <;> split <;> split <;> split <;> simp_all

/-! ## No number in both roles -/

def Apart (table : PeerTable) : Prop :=
  ∀ id remote, table.get? id = some remote → ∀ number,
    (remote.probe .viaPublic).lastRequest = some number →
      (remote.probe .viaPrivate).lastRequest ≠ some number

theorem Apart.new (pacing : Pacing) (family : Family) (first : UInt32) :
    Apart (PeerTable.new pacing family first) := by
  intro id remote present
  simp [PeerTable.new, PeerTable.get?] at present

theorem Apart.put {table : PeerTable} (apart : Apart table) {id : String} {after : Remote}
    (here : ∀ number, (after.probe .viaPublic).lastRequest = some number →
      (after.probe .viaPrivate).lastRequest ≠ some number) : Apart (table.put id after) := by
  intro other remote present
  rw [get?_put] at present
  split at present
  · cases present
    exact here
  · exact apart other remote present

theorem Apart.forget {table : PeerTable} (apart : Apart table) (id : String) :
    Apart (table.forget id) := by
  intro other remote present
  rw [get?_forget] at present
  split at present
  · cases present
  · exact apart other remote present

section
variable {table after : PeerTable} {events : List Event}

theorem Change.room (change : Change table events after)
    (lasting : ∀ event ∈ events, event.isDirectory = false) :
    table.numbersInUse.length ≤ after.numbersInUse.length := by
  cases change with
  | track => cases lasting _ List.mem_cons_self
  | drop => cases lasting _ List.mem_cons_self
  | @ask id remote role now order after present asks =>
      obtain ⟨ip, -, -, rfl⟩ := Remote.ask_eq_some_iff.1 asks
      refine room_put present fun other some => ?_
      rw [Remote.probe_setProbe_eq]
      split
      · rfl
      · exact some
  | move present move =>
      refine room_put present fun role some => ?_
      rwa [move.lastRequest]

theorem Change.apart (change : Change table events after)
    (room : issued events ≠ [] → HasRoom table) (apart : Apart table) : Apart after := by
  cases change with
  | track =>
      refine apart.put fun number some => ?_
      cases some
  | drop id => exact apart.forget id
  | @ask id remote role now order after present asks =>
      obtain ⟨ip, -, rfl, rfl⟩ := Remote.ask_eq_some_iff.1 asks
      have free := freshNumber_not_mem (room (by simp [issued, Event.order?]))
      have unused (other : Role) : (remote.probe other).lastRequest ≠ some table.freshNumber :=
        fun last => free (mem_numbersInUse.2 ⟨id, remote, other, present, last⟩)
      refine apart.put fun number some => ?_
      rw [Remote.probe_setProbe_eq] at some ⊢
      cases role with
      | viaPublic =>
          cases some
          exact unused .viaPrivate
      | viaPrivate =>
          intro someToo
          cases someToo
          exact unused .viaPublic some
  | @move id remote events after present move =>
      refine apart.put fun number some => ?_
      rw [move.lastRequest] at some ⊢
      exact apart id remote present number some

theorem Changes.apart (changes : Changes table events after)
    (room : issued events = [] ∨ (∀ event ∈ events, event.isDirectory = false) ∧ HasRoom after)
    (apart : Apart table) : Apart after := by
  induction changes with
  | refl => exact apart
  | @more log middle events after changes change ih =>
      rcases room with silent | ⟨lasting, room⟩
      · rw [issued_append, List.append_eq_nil_iff] at silent
        exact change.apart (fun asks => absurd silent.2 asks) (ih (.inl silent.1))
      · have before : HasRoom middle := Nat.lt_of_le_of_lt
          (change.room fun event member => lasting event (List.mem_append_right _ member)) room
        refine change.apart (fun _ => before) (ih (.inr ⟨?_, before⟩))
        exact fun event member => lasting event (List.mem_append_left _ member)

end

theorem perform_apart {table : PeerTable} (apart : Apart table) {operation : Operation}
    (room : issued (table.perform operation).1 ≠ [] → HasRoom (table.perform operation).2) :
    Apart (table.perform operation).2 := by
  obtain ⟨events, changes, same, silent | lasting⟩ := perform_changes_lasting table operation
  · exact changes.apart (.inl silent) apart
  · by_cases silent : issued events = []
    · exact changes.apart (.inl silent) apart
    · exact changes.apart (.inr ⟨lasting, room (by rwa [← same])⟩) apart

end PeerTable
end NatReach
