import NatReach.Proofs.PeerTable.PrivateRole

namespace NatReach
open PeerTable

namespace PeerTable

structure Untouched (source : Ip) (id : String) (log events : List Event) (table after : PeerTable) :
    Prop where
  numbers : privateNumbers id (log ++ events) = privateNumbers id log
  remains : Option.Rel (Remote.SamePrivate source) (table.get? id) (after.get? id)
  fixed : after.pacing = table.pacing ∧ after.family = table.family

section Untouched
variable {source : Ip} {id : String} {log events : List Event} {table after : PeerTable}

theorem remains_of_eq (same : after.get? id = table.get? id) :
    Option.Rel (Remote.SamePrivate source) (table.get? id) (after.get? id) := by
  rw [same]
  cases table.get? id with
  | none => exact .none
  | some remote => exact .some (.refl remote)

theorem Untouched.trans {more : List Event} {last : PeerTable}
    (first : Untouched source id log events table after)
    (second : Untouched source id (log ++ events) more after last) :
    Untouched source id log (events ++ more) table last where
  numbers := by
    rw [← List.append_assoc, second.numbers, first.numbers]
  remains := by
    have here := first.remains
    have there := second.remains
    generalize table.get? id = before, after.get? id = middle, last.get? id = later at here there ⊢
    cases here with
    | none => exact there
    | some same =>
        cases there with
        | some others => exact .some (same.trans others)
  fixed := ⟨second.fixed.1.trans first.fixed.1, second.fixed.2.trans first.fixed.2⟩

theorem Untouched.refl (source : Ip) (id : String) (log : List Event) (table : PeerTable) :
    Untouched source id log [] table table :=
  ⟨by rw [List.append_nil], remains_of_eq rfl, rfl, rfl⟩

theorem foldl_note_none (lasting : ∀ event ∈ events, event.isDirectory = false) :
    events.foldl (Chronicle.note id) none = none := by
  induction events with
  | nil => rfl
  | cons event rest ih =>
      have nothing : Chronicle.note id none event = none := by
        have first := lasting event List.mem_cons_self
        cases event with
        | tracked => cases first
        | dropped => cases first
        | asked order => simp [Chronicle.note]
        | gaveUp route => simp [Chronicle.note]
        | answered other number nat route => simp [Chronicle.note]
      rw [List.foldl_cons, nothing]
      exact ih fun event member => lasting event (List.mem_cons_of_mem _ member)

theorem privateNumbers_silent (lasting : ∀ event ∈ events, event.isDirectory = false)
    (silent : privateOf id (issued events) = []) (log : List Event) :
    privateNumbers id (log ++ events) = privateNumbers id log := by
  cases tells : chronicle id log with
  | none =>
      unfold privateNumbers
      rw [chronicle_append, tells, foldl_note_none lasting]
  | some story => rw [privateNumbers_append tells lasting, silent, List.append_nil]

theorem untouched_of_about {operation : Operation}
    (about : ∀ event ∈ (table.perform operation).1, event.about ≠ id)
    (same : (table.perform operation).2.get? id = table.get? id) :
    Untouched source id log (table.perform operation).1 table (table.perform operation).2 where
  numbers := by
    unfold privateNumbers
    rw [chronicle_append, note_all_of_ne about]
  remains := remains_of_eq same
  fixed := perform_fixed table operation

theorem untouched_of_silent {operation : Operation}
    (lasting : ∀ event ∈ (table.perform operation).1, event.isDirectory = false)
    (silent : privateOf id (issued (table.perform operation).1) = [])
    (remains : Option.Rel (Remote.SamePrivate source) (table.get? id)
      ((table.perform operation).2.get? id)) :
    Untouched source id log (table.perform operation).1 table (table.perform operation).2 :=
  ⟨privateNumbers_silent lasting silent log, remains, perform_fixed table operation⟩

theorem asked_lasting (orders : List ProbeOrder) :
    ∀ event ∈ orders.map Event.asked, event.isDirectory = false := by
  intro event member
  obtain ⟨order, -, rfl⟩ := List.mem_map.1 member
  rfl

theorem round_lasting (round : Round) : ∀ event ∈ round.events, event.isDirectory = false := by
  intro event member
  rcases List.mem_append.1 member with asked | given
  · exact asked_lasting _ event asked
  · obtain ⟨route, -, rfl⟩ := List.mem_map.1 given
    rfl

theorem answered_lasting (id : String) (number : UInt32) (nat : Bool) (route : Option Route) :
    ∀ event ∈ [Event.answered id number nat route], event.isDirectory = false := by
  intro event member
  rw [List.mem_singleton.1 member]
  rfl

theorem issued_round (round : Round) : issued round.events = round.orders := by
  simp [Round.events]

theorem issued_add (table : PeerTable) (endpoint : Endpoint) (now : Nat) :
    issued (table.perform (.add endpoint now)).1 = [] := by
  unfold perform
  cases admission : (table.add endpoint now).1 <;>
    simp [admission, Admission.events, issued, Event.order?]

theorem perform_untouched (keyed : Keyed table) {operation : Operation}
    (foreign : operation.Foreign id) (source : Ip) (log : List Event) :
    Untouched source id log (table.perform operation).1 table (table.perform operation).2 := by
  obtain ⟨about, same⟩ := perform_foreign keyed foreign
  exact untouched_of_about about same

theorem run_untouched (keyed : Keyed table) {operations : List Operation}
    (foreign : ∀ operation ∈ operations, operation.Foreign id) (source : Ip) (log : List Event) :
    Untouched source id log (run operations table).1 table (run operations table).2 := by
  induction operations generalizing table log with
  | nil => exact .refl source id log table
  | cons operation rest ih =>
      have first := perform_untouched keyed (foreign operation List.mem_cons_self) source log
      obtain ⟨events, changes, -⟩ := perform_changes table operation
      exact first.trans (ih (changes.keyed keyed)
        (fun operation member => foreign operation (List.mem_cons_of_mem _ member)) _)

theorem respond_untouched (agrees : Agrees log table)
    (nodup : ((issued log).map (·.number)).Nodup) {number : UInt32} {ip : Ip}
    (other : number ∈ privateNumbers id log → ip ≠ source) (nat : Bool) (now : Nat) :
    Untouched source id log (table.perform (.respond id number ip nat now)).1 table
      (table.perform (.respond id number ip nat now)).2 := by
  rcases respond_cases table id number ip nat now with
    rejected | ⟨remote, role, present, counts, same⟩
  · rw [rejected]
    exact .refl source id log table
  · refine untouched_of_silent ?_ ?_ ?_
    · rw [same]
      exact answered_lasting _ _ _ _
    · rw [same]
      rfl
    · rw [same, present, get?_put_self]
      refine .some (.accept ?_ nat now)
      rintro rfl address
      have asked : (remote.probe .viaPrivate).lastRequest = some number := counts.2.1
      have known := (agrees.mem_privateNumbers nodup present asked).2 rfl
      exact other known (Option.some.inj (counts.2.2.symm.trans address))

end Untouched

end PeerTable
end NatReach
