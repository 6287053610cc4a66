import NatReach.Proofs.PeerTable.Correlation
import NatReach.Proofs.PeerTable.Untouched

namespace NatReach
namespace PeerTable

/-- That a request is the last one to its endpoint in its role. -/
def OnRecord (table : PeerTable) (order : ProbeOrder) : Prop :=
  ∃ remote, table.get? order.id = some remote ∧
    (remote.probe order.role).lastRequest = some order.number

def target (order : ProbeOrder) : String × Role := (order.id, order.role)

/-- Whether after an event a request is not the last one to its target any more: the target is asked
again, or the discovery of its endpoint begins anew or ends. -/
def Event.supersedes (order : ProbeOrder) : Event → Bool
  | .asked other => target other = target order
  | .tracked endpoint => endpoint.cable = order.id
  | .dropped id => id = order.id
  | _ => false

def Superseded (order : ProbeOrder) (events : List Event) : Prop :=
  ∃ event ∈ events, event.supersedes order = true

instance (order : ProbeOrder) (events : List Event) : Decidable (Superseded order events) :=
  inferInstanceAs (Decidable (∃ event ∈ events, _))

/-! ## Changes leave requests on record -/

section Record
variable {table after : PeerTable} {events : List Event} {order : ProbeOrder}

theorem not_superseded (lasting : ∀ event ∈ events, event.isDirectory = false)
    (others : ∀ other ∈ issued events, target other ≠ target order) : ¬ Superseded order events := by
  rintro ⟨event, member, supersedes⟩
  cases event with
  | tracked => cases lasting _ member
  | dropped => cases lasting _ member
  | asked other =>
      have inIssued : other ∈ issued events := List.mem_filterMap.2 ⟨_, member, rfl⟩
      exact others other inIssued (of_decide_eq_true supersedes)
  | _ => cases supersedes

theorem superseded_append (front back : List Event) :
    Superseded order (front ++ back) ↔ Superseded order front ∨ Superseded order back := by
  simp only [Superseded, List.mem_append, or_and_right, exists_or]

theorem OnRecord.change (recorded : OnRecord table order) (keyed : Keyed table)
    (change : Change table events after) (stays : ¬ Superseded order events) : OnRecord after order := by
  have kept {event : Event} (member : event ∈ events) : ¬ event.supersedes order = true :=
    fun supersedes => stays ⟨event, member, supersedes⟩
  obtain ⟨remote, present, last⟩ := recorded
  cases change with
  | @track endpoint port now answers news =>
      have other : endpoint.cable ≠ order.id :=
        fun same => kept List.mem_cons_self (decide_eq_true same)
      exact ⟨remote, (get?_put ..).trans ((if_neg other).trans present), last⟩
  | drop id =>
      have other : id ≠ order.id := fun same => kept List.mem_cons_self (decide_eq_true same)
      exact ⟨remote, (get?_forget ..).trans ((if_neg other).trans present), last⟩
  | @ask id asked role now other result presentToo asks =>
      obtain ⟨ip, -, rfl, rfl⟩ := Remote.ask_eq_some_iff.1 asks
      change ∃ remote, (table.put id _).get? order.id = some remote ∧ _
      rw [get?_put]
      split
      · rename_i same
        subst same
        rw [present] at presentToo
        cases presentToo
        refine ⟨_, rfl, ?_⟩
        -- Another request in the role of this one would supersede it.
        have otherRole : role ≠ order.role := by
          rintro rfl
          exact kept List.mem_cons_self (decide_eq_true (Prod.ext (keyed _ _ present) rfl))
        rw [Remote.probe_setProbe_of_ne _ _ otherRole, last]
      · exact ⟨remote, present, last⟩
  | @move id moved events result presentToo move =>
      unfold OnRecord
      rw [get?_put]
      split
      · rename_i same
        subst same
        rw [present] at presentToo
        cases presentToo
        exact ⟨result, rfl, by rw [move.lastRequest, last]⟩
      · exact ⟨remote, present, last⟩

theorem OnRecord.changes {start : PeerTable} {log : List Event} (recorded : OnRecord start order)
    (keyed : Keyed start) (changes : Changes start log table) (stays : ¬ Superseded order log) :
    OnRecord table order := by
  induction changes with
  | refl => exact recorded
  | more changes change ih =>
      rw [superseded_append, not_or] at stays
      exact (ih stays.1).change (changes.keyed keyed) change stays.2

theorem Change.onRecord (change : Change table events after) (keyed : Keyed table)
    (member : order ∈ issued events) : OnRecord after order := by
  cases change with
  | track => cases member
  | drop => cases member
  | @ask id remote role now other result present asks =>
      rw [show issued [.asked other] = [other] from rfl, List.mem_singleton] at member
      subst member
      obtain ⟨ip, -, rfl, rfl⟩ := Remote.ask_eq_some_iff.1 asks
      change ∃ remote, (table.put id _).get? _ = some remote ∧ _
      rw [get?_put, if_pos (keyed id remote present).symm]
      exact ⟨_, rfl, by rw [Remote.probe_setProbe]; rfl⟩
  | move present move =>
      rw [move.issued] at member
      cases member

theorem Changes.onRecord {start : PeerTable} {log : List Event} (changes : Changes start log table)
    (keyed : Keyed start) (lasting : ∀ event ∈ log, event.isDirectory = false)
    (once : ((issued log).map target).Nodup) : ∀ order ∈ issued log, OnRecord table order := by
  induction changes with
  | refl => exact fun order member => by cases member
  | more changes change ih =>
      rw [issued_append, List.map_append, List.nodup_append] at once
      obtain ⟨onceBefore, -, apart⟩ := once
      have keyed := changes.keyed keyed
      intro order member
      rw [issued_append, List.mem_append] at member
      rcases member with before | new
      · have recorded := ih (fun event member => lasting event (List.mem_append_left _ member))
          onceBefore order before
        refine recorded.change keyed change (not_superseded
          (fun event member => lasting event (List.mem_append_right _ member)) ?_)
        intro other asked same
        exact apart _ (List.mem_map_of_mem before) _ (List.mem_map_of_mem asked) same.symm
      · exact change.onRecord keyed new

end Record

/-! ## Operations ask for no address twice -/

section Once
variable {table : PeerTable}

theorem takeTurns_once (remote : Remote) (pacing : Pacing) (now : Nat) (turns : Role → Turn)
    (numbers : Role → UInt32) :
    ((remote.takeTurns pacing now turns numbers).1.map target).Nodup := by
  have different : Role.inOrder.Nodup := by decide
  have roles := different.filter fun role => decide (turns role = .ask ∧ (remote.ip? role).isSome)
  rw [← remote.roles_takeTurns pacing now turns numbers] at roles
  refine List.Nodup.of_map Prod.snd ?_
  rwa [List.map_map]

theorem plan_once (table : PeerTable) (id : String) (now : Nat) :
    ((table.plan id now).1.map target).Nodup := by
  cases present : table.get? id with
  | none =>
      rw [plan_of_absent present]
      exact .nil
  | some remote =>
      obtain ⟨numbers, orders, -⟩ := plan_of_present present now
      rw [orders]
      exact takeTurns_once ..

theorem tickRemote_once (table : PeerTable) (now : Nat) (id : String) :
    ((table.tickRemote now id).1.orders.map target).Nodup := by
  cases present : table.get? id with
  | none =>
      rw [tickRemote_of_absent present]
      exact .nil
  | some remote =>
      obtain ⟨numbers, round, -⟩ := tickRemote_of_present present now
      rw [round]
      exact takeTurns_once remote table.pacing now ..

theorem tickInOrder_orders (now : Nat) (id : String) (rest : List String) (table : PeerTable) :
    (tickInOrder now (id :: rest) table).1.orders = (table.tickRemote now id).1.orders ++
      (tickInOrder now rest (table.tickRemote now id).2).1.orders := rfl

theorem tickInOrder_ids (keyed : Keyed table) (now : Nat) (walk : List String) :
    ∀ order ∈ (tickInOrder now walk table).1.orders, order.id ∈ walk := by
  induction walk generalizing table with
  | nil => exact fun order member => by cases member
  | cons id rest ih =>
      intro order member
      rw [tickInOrder_orders, List.mem_append] at member
      rcases member with first | later
      · exact List.mem_cons.2 (.inl (tickRemote_ids keyed now id order first))
      · have changes := tickRemote_changes table now id
        exact List.mem_cons_of_mem _ (ih (changes.keyed keyed) order later)

theorem tickInOrder_once (keyed : Keyed table) (now : Nat) {walk : List String}
    (once : walk.Nodup) : ((tickInOrder now walk table).1.orders.map target).Nodup := by
  induction walk generalizing table with
  | nil => exact .nil
  | cons id rest ih =>
      rw [List.nodup_cons] at once
      have keyedAfter := (tickRemote_changes table now id).keyed keyed
      rw [tickInOrder_orders, List.map_append, List.nodup_append]
      refine ⟨tickRemote_once table now id, ih keyedAfter once.2, ?_⟩
      rintro _ first _ later same
      obtain ⟨order, asked, rfl⟩ := List.mem_map.1 first
      obtain ⟨other, askedLater, rfl⟩ := List.mem_map.1 later
      have inRest := tickInOrder_ids keyedAfter now rest other askedLater
      have sameId : order.id = other.id := congrArg Prod.fst same
      rw [← sameId, tickRemote_ids keyed now id order asked] at inRest
      exact once.1 inRest

end Once

/-- That a tick comes to no remote twice, as every walk over the names of a table does. -/
def Operation.comesOnce : Operation → Prop
  | tick walk _ => walk.Nodup
  | _ => True

theorem SameReading.all {a b : List Event} (same : SameReading a b) (test : Event → Bool) :
    a.all test = b.all test := by
  have collected (log : List Event) (so : Bool) :
      log.foldl (fun so event => so && test event) so = (so && log.all test) := by
    induction log generalizing so with
    | nil => simp
    | cons event rest ih => simp [ih, Bool.and_assoc]
  have equal := same.foldl_eq (fun so event => so && test event)
    (fun so _ _ => Bool.and_right_comm so _ _) true
  simpa [collected] using equal

theorem SameReading.superseded_iff {a b : List Event} (same : SameReading a b) (order : ProbeOrder) :
    Superseded order a ↔ Superseded order b := by
  have all := same.all fun event => !event.supersedes order
  have none (log : List Event) :
      log.all (fun event => !event.supersedes order) = true ↔ ¬ Superseded order log := by
    simp [Superseded]
  rw [← not_iff_not, ← none, ← none, all]

theorem SameReading.lasting {a b : List Event} (same : SameReading a b)
    (lasting : ∀ event ∈ b, event.isDirectory = false) : ∀ event ∈ a, event.isDirectory = false := by
  have all := same.all fun event => !event.isDirectory
  have lastingAll : b.all (fun event => !event.isDirectory) = true := by simpa using lasting
  simpa using all.trans lastingAll

theorem perform_lasting (table : PeerTable) (operation : Operation) :
    issued (table.perform operation).1 = [] ∨
      ∀ event ∈ (table.perform operation).1, event.isDirectory = false := by
  cases operation with
  | add endpoint now => exact .inl (issued_add ..)
  | remove id => exact .inl rfl
  | plan id now => exact .inr (asked_lasting _)
  | tick walk now => exact .inr (round_lasting _)
  | respond id number source nat now =>
      left
      rcases respond_cases table id number source nat now with same | ⟨_, _, -, -, same⟩
      · rw [same]
        rfl
      · rw [same]
        rfl

theorem perform_changes_lasting (table : PeerTable) (operation : Operation) :
    ∃ events, Changes table events (table.perform operation).2 ∧
      issued events = issued (table.perform operation).1 ∧
      (issued events = [] ∨ ∀ event ∈ events, event.isDirectory = false) := by
  obtain ⟨events, changes, same⟩ := perform_changes table operation
  refine ⟨events, changes, same.issued, ?_⟩
  exact (perform_lasting table operation).imp same.issued.trans same.lasting

theorem orders_once {table : PeerTable} (keyed : Keyed table) {operation : Operation}
    (comesOnce : operation.comesOnce) :
    ((issued (table.perform operation).1).map target).Nodup := by
  cases operation with
  | plan id now =>
      change ((issued ((table.plan id now).1.map .asked)).map target).Nodup
      rw [issued_asked]
      exact plan_once table id now
  | tick walk now =>
      change ((issued (tickInOrder now walk table).1.events).map target).Nodup
      rw [issued_round]
      exact tickInOrder_once keyed now comesOnce
  | add endpoint now =>
      rw [issued_add]
      exact .nil
  | remove id => exact .nil
  | respond id number source nat now =>
      rcases respond_cases table id number source nat now with same | ⟨_, _, -, -, same⟩
      · rw [same]
        exact .nil
      · rw [same]
        exact .nil

theorem perform_onRecord {table : PeerTable} (keyed : Keyed table) {operation : Operation}
    (comesOnce : operation.comesOnce) :
    ∀ order ∈ issued (table.perform operation).1, OnRecord (table.perform operation).2 order := by
  intro order member
  have once := orders_once keyed comesOnce
  obtain ⟨events, changes, same, silent | lasting⟩ := perform_changes_lasting table operation
  · rw [← same, silent] at member
    cases member
  · rw [← same] at member once
    exact changes.onRecord keyed lasting once order member

/-! ## Every run -/

theorem Agrees.exists_order {log : List Event} {table : PeerTable} (agrees : Agrees log table)
    {id : String} {remote : Remote} {role : Role} {number : UInt32}
    (present : table.get? id = some remote)
    (last : (remote.probe role).lastRequest = some number) :
    ∃ order ∈ issued log, target order = (id, role) ∧ order.number = number := by
  obtain ⟨story, tells, told⟩ := agrees.exists_story present
  rw [told.lastRequest, Chronicle.awaited?_eq_some_iff] at last
  obtain ⟨order, ofRole, latest, bears⟩ := last
  have ours := (told.orders order (List.mem_of_find?_eq_some latest)).1
  exact ⟨order, agrees.mem_issued tells latest, Prod.ext ours ofRole, bears⟩

/-- In every run with no more requests than there are numbers, the requests bear the numbers from the
first one on, in their order and with none left out, and the next request is to bear the number after
them. So all their numbers are different, no number is on record for two endpoints or two roles, and
after each operation, whatever comes later, the requests that it ordered are on record. -/
theorem numbers_without_gaps {pacing : Pacing} {family : Family} {first : UInt32}
    {operations : List Operation} {log : List Event} {table : PeerTable}
    (ran : run operations (new pacing family first) = (log, table))
    (few : (issued log).length ≤ UInt32.size) :
    (issued log).map (·.number) = (List.range (issued log).length).map (numberAt first) ∧
    table.nextNumber = numberAt first (issued log).length ∧
    ((issued log).map (·.number)).Nodup ∧
    (∀ id other remote remote' role role' number,
      table.get? id = some remote → table.get? other = some remote' →
      (remote.probe role).lastRequest = some number →
      (remote'.probe role').lastRequest = some number → id = other ∧ role = role') ∧
    ∀ before operation later, operations = before ++ operation :: later → operation.comesOnce →
      ∀ order ∈ issued ((run before (new pacing family first)).2.perform operation).1,
        OnRecord ((run before (new pacing family first)).2.perform operation).2 order := by
  obtain ⟨numbered, agrees, -⟩ := run_agrees ran few
  have nodup := numbered.nodup few
  refine ⟨numbered.numbers, numbered.next, nodup, ?_, ?_⟩
  · intro id other remote remote' role role' number present presentToo last lastToo
    obtain ⟨order, asked, about, bears⟩ := agrees.exists_order present last
    obtain ⟨order', askedToo, aboutToo, bearsToo⟩ := agrees.exists_order presentToo lastToo
    have same := List.inj_on_of_nodup_map nodup asked askedToo (bears.trans bearsToo.symm)
    rw [same, aboutToo] at about
    exact ⟨(congrArg Prod.fst about).symm, (congrArg Prod.snd about).symm⟩
  · intro before operation later split comesOnce
    obtain ⟨events, changes, -⟩ := run_changes before (new pacing family first)
    have keyed : Keyed (new pacing family first) := (Agrees.new pacing family first).keyed
    exact perform_onRecord (changes.keyed keyed) comesOnce

def aroundTheEnd : List Operation :=
  [.add twoAddresses 0, .plan "gateway" 0, .tick ["gateway"] 1000]

theorem numbers_without_gaps_aroundTheEnd :
    ∃ log table, run aroundTheEnd (new {} .v4 4294967294) = (log, table) ∧
      (issued log).length ≤ UInt32.size ∧
      (issued log).map (·.number) = [4294967294, 4294967295, 0, 1] ∧
      (issued log).map (·.number) = (List.range (issued log).length).map (numberAt 4294967294) ∧
      table.nextNumber = numberAt 4294967294 (issued log).length ∧
      (Operation.tick ["gateway"] 1000).comesOnce ∧
      ∃ order, order.number = 0 ∧ OnRecord table order := by
  have few : (issued (run aroundTheEnd (new {} .v4 4294967294)).1).length ≤ UInt32.size := by
    decide +kernel
  have numbers : (issued (run aroundTheEnd (new {} .v4 4294967294)).1).map (·.number) =
      [4294967294, 4294967295, 0, 1] := by decide +kernel
  have last : (0 : UInt32) ∈ (issued ((run [.add twoAddresses 0, .plan "gateway" 0]
      (new {} .v4 4294967294)).2.perform (.tick ["gateway"] 1000)).1).map (·.number) := by
    decide +kernel
  have once : (Operation.tick ["gateway"] 1000).comesOnce := List.nodup_singleton _
  have split : run aroundTheEnd (new {} .v4 4294967294) =
      run ([.add twoAddresses 0, .plan "gateway" 0] ++ [.tick ["gateway"] 1000])
        (new {} .v4 4294967294) := rfl
  have ends := congrArg Prod.snd split
  rw [run_append, run_singleton] at ends
  generalize ran : run aroundTheEnd (new {} .v4 4294967294) = result at few numbers ends
  obtain ⟨log, table⟩ := result
  obtain ⟨inOrder, next, -, -, recorded⟩ := numbers_without_gaps ran few
  obtain ⟨order, member, number⟩ := List.mem_map.1 last
  have onRecord := recorded [.add twoAddresses 0, .plan "gateway" 0] _ [] rfl once order member
  rw [← ends] at onRecord
  exact ⟨log, table, rfl, few, numbers, inOrder, next, once, order, number, onRecord⟩

end PeerTable
end NatReach
