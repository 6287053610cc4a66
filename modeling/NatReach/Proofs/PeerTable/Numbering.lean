import Mathlib.Data.List.Nodup
import NatReach.Proofs.PeerTable.Change

namespace NatReach
open PeerTable

def numberAt (first : UInt32) (position : Nat) : UInt32 := first + UInt32.ofNat position

theorem numberAt_succ (first : UInt32) (position : Nat) :
    numberAt first (position + 1) = numberAt first position + 1 := by
  simp [numberAt, UInt32.ofNat_add, UInt32.add_assoc]

theorem numberAt_inj {first : UInt32} {a b : Nat} (smallA : a < UInt32.size)
    (smallB : b < UInt32.size) (same : numberAt first a = numberAt first b) : a = b := by
  have equal := congrArg UInt32.toNat ((UInt32.add_right_inj first).1 same)
  rwa [UInt32.toNat_ofNat_of_lt' smallA, UInt32.toNat_ofNat_of_lt' smallB] at equal

namespace PeerTable

theorem mem_numbersInUse {table : PeerTable} {number : UInt32} :
    number ∈ table.numbersInUse ↔
      ∃ id remote role, table.get? id = some remote ∧
        (remote.probe role).lastRequest = some number := by
  simp only [numbersInUse, OrderedMap.values, List.mem_flatMap, List.mem_map, List.mem_append,
    Option.mem_toList, Prod.exists, exists_eq_right, OrderedMap.mem_entries_iff]
  constructor
  · rintro ⟨remote, ⟨id, present⟩, viaPublic | viaPrivate⟩
    · exact ⟨id, remote, .viaPublic, present, viaPublic⟩
    · exact ⟨id, remote, .viaPrivate, present, viaPrivate⟩
  · rintro ⟨id, remote, role, present, last⟩
    cases role with
    | viaPublic => exact ⟨remote, ⟨id, present⟩, .inl last⟩
    | viaPrivate => exact ⟨remote, ⟨id, present⟩, .inr last⟩

theorem firstUnused_of_not_mem {used : List UInt32} {number : UInt32} (free : number ∉ used)
    (looks : Nat) : firstUnused used looks number = number := by
  cases looks with
  | zero => rfl
  | succ looks => simp [firstUnused, free]

structure Numbered (first : UInt32) (orders : List ProbeOrder) (table : PeerTable) : Prop where
  next : table.nextNumber = numberAt first orders.length
  numbers : orders.map (·.number) = (List.range orders.length).map (numberAt first)
  recorded : ∀ {id remote role number}, table.get? id = some remote →
    (remote.probe role).lastRequest = some number → number ∈ orders.map (·.number)

namespace Numbered

theorem new (pacing : Pacing) (family : Family) (first : UInt32) :
    Numbered first [] (PeerTable.new pacing family first) where
  next := by simp [PeerTable.new, numberAt]
  numbers := rfl
  recorded present := by simp [PeerTable.new, PeerTable.get?] at present

theorem nodup {first : UInt32} {orders : List ProbeOrder} {table : PeerTable}
    (numbered : Numbered first orders table) (few : orders.length ≤ UInt32.size) :
    (orders.map (·.number)).Nodup := by
  rw [numbered.numbers]
  refine List.Nodup.map_on ?_ List.nodup_range
  intro a memberA b memberB same
  rw [List.mem_range] at memberA memberB
  exact numberAt_inj (by omega) (by omega) same

theorem next_free {first : UInt32} {orders : List ProbeOrder} {table : PeerTable}
    (numbered : Numbered first orders table) (few : orders.length < UInt32.size) :
    table.nextNumber ∉ table.numbersInUse := by
  intro used
  obtain ⟨id, remote, role, present, last⟩ := mem_numbersInUse.1 used
  have member := numbered.recorded present last
  rw [numbered.numbers, numbered.next, List.mem_map] at member
  obtain ⟨position, inRange, same⟩ := member
  rw [List.mem_range] at inRange
  have := numberAt_inj (by omega) few same
  omega

theorem freshNumber_eq {first : UInt32} {orders : List ProbeOrder} {table : PeerTable}
    (numbered : Numbered first orders table) (few : orders.length < UInt32.size) :
    table.freshNumber = numberAt first orders.length := by
  rw [← numbered.next]
  exact firstUnused_of_not_mem (numbered.next_free few) _

theorem keep {first : UInt32} {orders : List ProbeOrder} {table after : PeerTable}
    (numbered : Numbered first orders table) (next : after.nextNumber = table.nextNumber)
    (old : ∀ {id remote role number}, after.get? id = some remote →
      (remote.probe role).lastRequest = some number →
      ∃ id remote role, table.get? id = some remote ∧
        (remote.probe role).lastRequest = some number) :
    Numbered first orders after where
  next := next.trans numbered.next
  numbers := numbered.numbers
  recorded present last := by
    obtain ⟨id, remote, role, present, last⟩ := old present last
    exact numbered.recorded present last

end Numbered
end PeerTable

/-! ## Requests of a remote -/

namespace Remote

theorem Move.lastRequest {pacing : Pacing} {id : String} {remote after : Remote}
    {events : List Event} (move : remote.Move pacing id events after) (role : Role) :
    (after.probe role).lastRequest = (remote.probe role).lastRequest := by
  cases move with
  | keep address turn =>
      refine probe_setProbe_congr Probe.lastRequest ?_ role
      rfl
  | exhaust address turn =>
      refine probe_setProbe_congr Probe.lastRequest ?_ role
      rfl
  | giveUp hopeless => rw [probe_giveUp]
  | accept counts =>
      rw [probe_accept]
      split
      · rename_i same
        rw [same, Probe.lastRequest_settle]
      · rfl

theorem Move.issued {pacing : Pacing} {id : String} {remote after : Remote} {events : List Event}
    (move : remote.Move pacing id events after) : issued events = [] := by
  cases move with
  | keep => rfl
  | exhaust => rfl
  | giveUp => exact issued_gaveUp _
  | accept => rfl

end Remote

/-! ## Every change keeps the numbers -/

namespace PeerTable

theorem Numbered.ask {first : UInt32} {orders : List ProbeOrder} {table : PeerTable} {id : String}
    {remote after : Remote} {role : Role} {now : Nat} {order : ProbeOrder}
    (numbered : Numbered first orders table) (few : orders.length < UInt32.size)
    (present : table.get? id = some remote)
    (asks : remote.ask table.pacing now table.freshNumber role = (some order, after)) :
    Numbered first (orders ++ [order])
      { table.put id after with nextNumber := table.freshNumber + 1 } := by
  have fresh := numbered.freshNumber_eq few
  rw [fresh] at asks ⊢
  obtain ⟨ip, -, rfl, rfl⟩ := Remote.ask_eq_some_iff.1 asks
  refine ⟨?_, ?_, ?_⟩
  · simp [numberAt_succ]
  · simp [List.range_succ, numbered.numbers]
  · intro other remote' role' number' presentAfter last
    change (table.put id _).get? other = some remote' at presentAfter
    rw [get?_put] at presentAfter
    rw [List.map_append, List.mem_append]
    split at presentAfter
    · cases presentAfter
      rw [Remote.probe_setProbe_eq] at last
      split at last
      · exact .inr (by simpa [Probe.record, eq_comm] using last)
      · exact .inl (numbered.recorded present last)
    · exact .inl (numbered.recorded presentAfter last)

theorem Change.numbered {first : UInt32} {orders : List ProbeOrder} {table after : PeerTable}
    {events : List Event} (change : Change table events after)
    (numbered : Numbered first orders table)
    (few : (orders ++ issued events).length ≤ UInt32.size) :
    Numbered first (orders ++ issued events) after := by
  cases change with
  | @track endpoint port now answers news =>
      rw [show issued [.tracked endpoint] = [] from rfl, List.append_nil]
      refine numbered.keep rfl fun {id remote role number} present last => ?_
      rw [get?_put] at present
      split at present
      · -- a remote that is new has asked nothing
        cases present
        cases role <;> cases last
      · exact ⟨id, remote, role, present, last⟩
  | drop dropped =>
      rw [show issued [.dropped dropped] = [] from rfl, List.append_nil]
      refine numbered.keep rfl fun {id remote role number} present last => ?_
      rw [get?_forget] at present
      split at present
      · cases present
      · exact ⟨id, remote, role, present, last⟩
  | @ask id remote role now order after present asks =>
      have one : issued [.asked order] = [order] := rfl
      rw [one, List.length_append, List.length_singleton] at few
      exact numbered.ask (by omega) present asks
  | @move id remote events after present move =>
      rw [move.issued, List.append_nil]
      refine numbered.keep rfl fun {other remote' role number} presentAfter last => ?_
      rw [get?_put] at presentAfter
      split at presentAfter
      · cases presentAfter
        exact ⟨id, remote, role, present, by rwa [move.lastRequest] at last⟩
      · exact ⟨other, remote', role, presentAfter, last⟩

theorem Changes.numbered_after {first : UInt32} {orders : List ProbeOrder} {start table : PeerTable}
    {log : List Event} (changes : Changes start log table) (numbered : Numbered first orders start)
    (few : (orders ++ issued log).length ≤ UInt32.size) :
    Numbered first (orders ++ issued log) table := by
  induction changes with
  | refl => simpa [issued] using numbered
  | more _ change ih =>
      rw [issued_append, ← List.append_assoc] at few ⊢
      refine change.numbered (ih ?_) few
      rw [List.length_append] at few
      omega

theorem Changes.numbered {pacing : Pacing} {family : Family} {first : UInt32} {table : PeerTable}
    {log : List Event} (changes : Changes (new pacing family first) log table)
    (few : (issued log).length ≤ UInt32.size) : Numbered first (issued log) table :=
  changes.numbered_after (.new pacing family first) few

end PeerTable
end NatReach
