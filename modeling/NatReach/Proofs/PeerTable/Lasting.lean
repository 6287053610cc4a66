import NatReach.Proofs.PeerTable.Gapless

namespace NatReach
open PeerTable

namespace PeerTable
variable {log events : List Event} {table middle after : PeerTable} {id : String}

def Lasts (id : String) (table after : PeerTable) : Prop :=
  Option.Rel Remote.SameDiscovery (table.get? id) (after.get? id)

namespace Lasts

theorem of_eq (same : after.get? id = table.get? id) : Lasts id table after := by
  unfold Lasts
  rw [same]
  cases table.get? id with
  | none => exact .none
  | some remote => exact .some (.refl remote)

theorem trans (first : Lasts id table middle) (second : Lasts id middle after) : Lasts id table after := by
  unfold Lasts at first second ⊢
  cases before : table.get? id with
  | none =>
      rw [before] at first
      cases none : middle.get? id with
      | some remote => rw [none] at first; cases first
      | none => rwa [none] at second
  | some remote =>
      rw [before] at first
      obtain ⟨between, present, same⟩ := exists_right_of_rel first
      rw [present] at second
      obtain ⟨last, presentAfter, sameAfter⟩ := exists_right_of_rel second
      rw [presentAfter]
      exact .some (same.trans sameAfter)

end Lasts

theorem lasts_put {other : String} {remote changed : Remote} (present : table.get? other = some remote)
    (same : remote.SameDiscovery changed) (id : String) : Lasts id table (table.put other changed) := by
  by_cases here : other = id
  · subst here
    unfold Lasts
    rw [present, get?_put_self]
    exact .some same
  · exact .of_eq ((get?_put ..).trans (if_neg here))

theorem Change.lasts (change : Change table events after)
    (quiet : ∀ event ∈ events, event.isDirectory = true → event.about ≠ id) : Lasts id table after := by
  cases change with
  | @track endpoint port now answers news =>
      have other : endpoint.cable ≠ id := quiet _ List.mem_cons_self rfl
      exact .of_eq ((get?_put ..).trans (if_neg other))
  | drop dropped =>
      have other : dropped ≠ id := quiet _ List.mem_cons_self rfl
      exact .of_eq ((get?_forget ..).trans (if_neg other))
  | @ask asked remote role now order changed present asks =>
      obtain ⟨ip, -, -, rfl⟩ := Remote.ask_eq_some_iff.1 asks
      exact lasts_put present (.setProbe ..) id
  | move present move => exact lasts_put present move.sameDiscovery id

theorem Changes.lasts (changes : Changes table events after)
    (quiet : ∀ event ∈ events, event.isDirectory = true → event.about ≠ id) : Lasts id table after := by
  induction changes with
  | refl => exact .of_eq rfl
  | more changes change ih =>
      have before := ih fun event member => quiet event (List.mem_append_left _ member)
      exact before.trans (change.lasts fun event member => quiet event (List.mem_append_right _ member))

def Operation.Spares (id : String) : Operation → Prop
  | add endpoint _ => endpoint.cable ≠ id
  | remove other => other ≠ id
  | _ => True

theorem perform_lasts {operation : Operation} (spares : operation.Spares id) (table : PeerTable) :
    Lasts id table (table.perform operation).2 := by
  obtain ⟨events, changes, same⟩ := perform_changes table operation
  refine changes.lasts ?_
  -- what the changes begin and end is what the operation says to begin and end
  have all := same.all fun event => !(event.isDirectory && event.about == id)
  have quiet : (table.perform operation).1.all (fun event =>
      !(event.isDirectory && event.about == id)) = true := by
    rw [List.all_eq_true]
    intro event member
    have lasting (lasting : event.isDirectory = false) :
        (!(event.isDirectory && event.about == id)) = true := by rw [lasting]; rfl
    have other (other : event.about ≠ id) :
        (!(event.isDirectory && event.about == id)) = true := by simp [other]
    cases operation with
    | add endpoint now => exact other ((add_about event member).trans_ne spares)
    | remove dropped =>
        rw [List.mem_singleton.1 member] at other
        rw [List.mem_singleton.1 member]
        exact other spares
    | plan asked now => exact lasting (asked_lasting _ event member)
    | tick walk now => exact lasting (round_lasting _ event member)
    | respond other number source nat now =>
        rcases respond_cases table other number source nat now with same | ⟨_, _, -, -, same⟩
        · rw [same] at member
          cases member
        · rw [same] at member
          exact lasting (answered_lasting _ _ _ _ event member)
  rw [quiet, List.all_eq_true] at all
  intro event member directory here
  have := all event member
  simp [directory, here] at this

theorem run_lasts {operations : List Operation} (spares : ∀ operation ∈ operations, operation.Spares id)
    (table : PeerTable) : Lasts id table (run operations table).2 := by
  induction operations generalizing table with
  | nil => exact .of_eq rfl
  | cons operation rest ih =>
      have first := perform_lasts (spares operation List.mem_cons_self) table
      exact first.trans (ih (fun other member => spares other (List.mem_cons_of_mem _ member)) _)

theorem fresh_numbers {earlier later : List Event} {endpoint : Endpoint}
    (agrees : Agrees (earlier ++ .tracked endpoint :: later) table)
    (nodup : ((issued (earlier ++ .tracked endpoint :: later)).map (·.number)).Nodup) {remote : Remote}
    (present : table.get? endpoint.cable = some remote) {order : ProbeOrder}
    (before : order ∈ issued earlier) (role : Role) :
    (remote.probe role).lastRequest ≠ some order.number := by
  intro last
  obtain ⟨story, tells, told⟩ := agrees.exists_story present
  -- the chronicle begins with the discovery, and holds no request from before
  have begins : chronicle endpoint.cable (.tracked endpoint :: later) = some story := by
    rw [← tells, chronicle_append]
    simp [chronicle, Chronicle.note]
  rw [told.latest, Option.map_eq_some_iff] at last
  obtain ⟨latest, found, number⟩ := last
  have ordered : latest ∈ issued (.tracked endpoint :: later) := by
    have member := List.mem_of_find?_eq_some found
    exact (chronicle_orders begins).subset (List.mem_reverse.2 member)
  rw [issued_append, List.map_append, List.nodup_append] at nodup
  exact nodup.2.2 _ (List.mem_map_of_mem before) _ (List.mem_map_of_mem ordered) number.symm

end PeerTable
end NatReach
