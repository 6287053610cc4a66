import NatReach.Proofs.PeerTable.Kinship
import NatReach.Proofs.PeerTable.Turns

namespace NatReach
open PeerTable

namespace PeerTable

/-! ## Requests to the private address -/

def privateOf (id : String) (orders : List ProbeOrder) : List UInt32 :=
  (orders.filter fun order => order.id = id && order.role = .viaPrivate).map (·.number)

/-- The numbers of the requests to the private address of an endpoint in its present discovery, the
first one first. -/
def privateNumbers (id : String) (log : List Event) : List UInt32 :=
  match chronicle id log with
  | none => []
  | some story => privateOf id story.orders.reverse

theorem privateOf_append (id : String) (front back : List ProbeOrder) :
    privateOf id (front ++ back) = privateOf id front ++ privateOf id back := by
  simp [privateOf]

theorem privateOf_eq_nil {id : String} {orders : List ProbeOrder}
    (others : ∀ order ∈ orders, order.id = id → order.role ≠ .viaPrivate) :
    privateOf id orders = [] := by
  unfold privateOf
  rw [List.map_eq_nil_iff, List.filter_eq_nil_iff]
  intro order member
  simpa using others order member

theorem mem_privateOf {id : String} {orders : List ProbeOrder} {order : ProbeOrder}
    (member : order ∈ orders) (ours : order.id = id) (role : order.role = .viaPrivate) :
    order.number ∈ privateOf id orders :=
  List.mem_map_of_mem (List.mem_filter.2 ⟨member, by simp [ours, role]⟩)

def Event.isDirectory : Event → Bool
  | tracked _ | dropped _ => true
  | _ => false

theorem privateNumbers_note (id : String) (story : Chronicle) {event : Event}
    (lasting : event.isDirectory = false) :
    ∃ later, Chronicle.note id (some story) event = some later ∧
      privateOf id later.orders.reverse =
        privateOf id story.orders.reverse ++ privateOf id event.order?.toList := by
  cases event with
  | tracked => cases lasting
  | dropped => cases lasting
  | asked order =>
      by_cases ours : order.id = id
      · refine ⟨story.ask order, by simp [Chronicle.note, ours], ?_⟩
        simp [Chronicle.ask, privateOf_append, Event.order?]
      · refine ⟨story, by simp [Chronicle.note, ours], ?_⟩
        simp [Event.order?, privateOf, ours]
  | gaveUp route =>
      by_cases ours : route.endpoint.cable = id
      · exact ⟨story.handOut (some route), by simp [Chronicle.note, ours], by
          simp [Chronicle.handOut, Event.order?, privateOf]⟩
      · exact ⟨story, by simp [Chronicle.note, ours], by simp [Event.order?, privateOf]⟩
  | answered other number nat route =>
      by_cases ours : other = id
      · exact ⟨(story.hear number nat).handOut route, by simp [Chronicle.note, ours], by
          simp [Chronicle.hear, Chronicle.handOut, Event.order?, privateOf]⟩
      · exact ⟨story, by simp [Chronicle.note, ours], by simp [Event.order?, privateOf]⟩

theorem privateNumbers_note_all (id : String) (story : Chronicle) {events : List Event}
    (lasting : ∀ event ∈ events, event.isDirectory = false) :
    ∃ later, events.foldl (Chronicle.note id) (some story) = some later ∧
      privateOf id later.orders.reverse =
        privateOf id story.orders.reverse ++ privateOf id (issued events) := by
  induction events generalizing story with
  | nil => exact ⟨story, rfl, by simp [privateOf, issued]⟩
  | cons event rest ih =>
      obtain ⟨middle, noted, first⟩ :=
        privateNumbers_note id story (lasting event List.mem_cons_self)
      obtain ⟨later, others, last⟩ :=
        ih middle fun event member => lasting event (List.mem_cons_of_mem _ member)
      refine ⟨later, by rw [List.foldl_cons, noted, others], ?_⟩
      have split : issued (event :: rest) = event.order?.toList ++ issued rest := by
        cases told : event.order? <;> simp [issued, told]
      rw [last, first, split, privateOf_append, List.append_assoc]

theorem privateNumbers_append {id : String} {log events : List Event} {story : Chronicle}
    (tells : chronicle id log = some story)
    (lasting : ∀ event ∈ events, event.isDirectory = false) :
    privateNumbers id (log ++ events) = privateNumbers id log ++ privateOf id (issued events) := by
  obtain ⟨later, noted, numbers⟩ := privateNumbers_note_all id story lasting
  unfold privateNumbers
  rw [chronicle_append, tells, noted]
  exact numbers

namespace Agrees
variable {log : List Event} {table : PeerTable} {id : String} {remote : Remote}

theorem privateNumbers_nodup (agrees : Agrees log table)
    (nodup : ((issued log).map (·.number)).Nodup) (id : String) :
    (privateNumbers id log).Nodup := by
  unfold privateNumbers
  cases tells : chronicle id log with
  | none => exact .nil
  | some story =>
      have part : (privateOf id story.orders.reverse).Sublist (story.orders.reverse.map (·.number)) :=
        List.filter_sublist.map _
      exact nodup.sublist (part.trans ((agrees.orders tells).map _))

theorem mem_privateNumbers (agrees : Agrees log table)
    (nodup : ((issued log).map (·.number)).Nodup) (present : table.get? id = some remote)
    {role : Role} {number : UInt32} (last : (remote.probe role).lastRequest = some number) :
    number ∈ privateNumbers id log ↔ role = .viaPrivate := by
  obtain ⟨story, tells, told⟩ := agrees.exists_story present
  rw [told.latest, Option.map_eq_some_iff] at last
  obtain ⟨order, latest, rfl⟩ := last
  have member := List.mem_of_find?_eq_some latest
  have ofRole : order.role = role := by simpa using List.find?_some latest
  have ours := (told.orders order member).1
  unfold privateNumbers
  rw [tells]
  constructor
  · intro some
    obtain ⟨other, memberToo, same⟩ := List.mem_map.1 some
    obtain ⟨asked, isPrivate⟩ := List.mem_filter.1 memberToo
    have equal := List.inj_on_of_nodup_map (agrees.different nodup tells) (List.mem_reverse.1 asked)
      member same
    rw [← ofRole, ← equal]
    simpa using (Bool.and_eq_true_iff.1 isPrivate).2
  · rintro rfl
    exact mem_privateOf (List.mem_reverse.2 member) ours ofRole

end Agrees

/-! ## What a plan and a tick do about the private address -/

section Deals
variable {table : PeerTable} {id : String} {remote : Remote} {source : Ip}

structure Deals (source : Ip) (id : String) (result : Option ProbeOrder × Remote)
    (orders : List ProbeOrder) (after : PeerTable) : Prop where
  asked : privateOf id orders = result.1.toList.map (·.number)
  remains : ∃ remote, after.get? id = some remote ∧ result.2.SamePrivate source remote

theorem privateOf_about (id : String) (round : Round) :
    privateOf id (round.about id).orders = privateOf id round.orders := by
  simp [privateOf, Round.about, List.filter_filter, Bool.and_right_comm]

theorem privateOf_takeTurns (cable : remote.endpoint.cable = id) (pacing : Pacing) (now : Nat)
    (turns : Role → Turn) (numbers : Role → UInt32) :
    privateOf id (remote.takeTurns pacing now turns numbers).1 =
      (remote.takeTurn pacing now (numbers .viaPrivate) .viaPrivate
        (turns .viaPrivate)).1.toList.map (·.number) := by
  have others : privateOf id (remote.takeTurn pacing now (numbers .viaPublic) .viaPublic
      (turns .viaPublic)).1.toList = [] := by
    refine privateOf_eq_nil fun order member _ => ?_
    rw [(Remote.order_of_takeTurn (Option.mem_toList.1 member)).2]
    decide
  rw [Remote.orders_takeTurns, privateOf_append, others, List.append_nil]
  cases asked : (remote.takeTurn pacing now (numbers .viaPrivate) .viaPrivate
      (turns .viaPrivate)).1 with
  | none => rfl
  | some order =>
      obtain ⟨ours, role⟩ := Remote.order_of_takeTurn asked
      simp [privateOf, ours, cable, role]

theorem samePrivate_takeTurns (remote : Remote) (pacing : Pacing) (now : Nat) (turns : Role → Turn)
    (numbers : Role → UInt32) :
    (remote.takeTurn pacing now (numbers .viaPrivate) .viaPrivate (turns .viaPrivate)).2.SamePrivate
      source (remote.takeTurns pacing now turns numbers).2 :=
  ⟨rfl, rfl, rfl, fun _ => rfl⟩

theorem plan_deals (keyed : Keyed table) (present : table.get? id = some remote) (now : Nat)
    (source : Ip) :
    ∃ number, Deals source id (remote.ask table.pacing now number .viaPrivate)
      (table.plan id now).1 (table.plan id now).2 := by
  obtain ⟨numbers, orders, there⟩ := plan_of_present present now
  refine ⟨numbers .viaPrivate, ?_⟩
  rw [Remote.ask_eq_takeTurn]
  refine ⟨?_, _, there, samePrivate_takeTurns ..⟩
  rw [orders, privateOf_takeTurns (keyed id remote present)]

theorem tickInOrder_deals (keyed : Keyed table) (present : table.get? id = some remote)
    {walk : List String} (once : walk.Nodup) (member : id ∈ walk) (now : Nat) (source : Ip) :
    ∃ number, Deals source id (remote.tickRole table.pacing now number .viaPrivate)
      (tickInOrder now walk table).1.orders (tickInOrder now walk table).2 := by
  obtain ⟨numbers, round, there⟩ := tickInOrder_of_present keyed present once member now
  refine ⟨numbers .viaPrivate, ?_⟩
  rw [Remote.tickRole_eq_takeTurn]
  refine ⟨?_, _, there, (samePrivate_takeTurns ..).trans (.giveUp _)⟩
  rw [← privateOf_about, round]
  exact privateOf_takeTurns (keyed id remote present) ..

end Deals

end PeerTable
end NatReach
