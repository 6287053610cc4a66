import Mathlib.Data.List.Induction
import NatReach.Proofs.PeerTable.RouteHistory
import NatReach.Proofs.PeerTable.Standing

namespace NatReach
open PeerTable

namespace PeerTable

structure Answer where
  id : String
  number : UInt32
  source : Ip
  nat : Bool
  now : Nat
deriving DecidableEq

def Answer.operation (answer : Answer) : Operation :=
  .respond answer.id answer.number answer.source answer.nat answer.now

def Answer.respond (answer : Answer) (table : PeerTable) :
    Except ResponseRejection (Option Route) × PeerTable :=
  table.respond answer.id answer.number answer.source answer.nat answer.now

/-- Hands answers to a table, in their order. -/
def deliver (answers : List Answer) (table : PeerTable) : List Event × PeerTable :=
  run (answers.map Answer.operation) table

def Unambiguous (answers : List Answer) : Prop :=
  ∀ first ∈ answers, ∀ second ∈ answers, first.id = second.id → first.number = second.number →
    first = second

theorem Unambiguous.subset {answers others : List Answer} (clear : Unambiguous answers)
    (part : others ⊆ answers) : Unambiguous others :=
  fun first member second memberToo => clear first (part member) second (part memberToo)

theorem unambiguous_of_nodup {batch : List Answer}
    (distinct : (batch.map fun answer => (answer.id, answer.number)).Nodup) :
    Unambiguous batch := fun _ member _ memberToo sameId sameNumber =>
  List.inj_on_of_nodup_map distinct member memberToo (Prod.ext sameId sameNumber)

theorem deliver_append (front back : List Answer) (table : PeerTable) :
    deliver (front ++ back) table =
      ((deliver front table).1 ++ (deliver back (deliver front table).2).1,
        (deliver back (deliver front table).2).2) := by
  unfold deliver
  rw [List.map_append, run_append]

theorem deliver_singleton (answer : Answer) (table : PeerTable) :
    deliver [answer] table = table.perform answer.operation := run_singleton ..

end PeerTable

theorem Probe.settle_settle (probe : Probe) (nat : Bool) (now : Nat) :
    (probe.settle nat now).settle nat now = probe.settle nat now :=
  if_pos (progress_settle probe nat now)

/-! ## Remotes that have the same requests -/

namespace Remote

structure SameRequests (a b : Remote) : Prop where
  endpoint : b.endpoint = a.endpoint
  family : b.family = a.family
  last : ∀ role, (b.probe role).lastRequest = (a.probe role).lastRequest

namespace SameRequests
variable {a b : Remote} {number : UInt32} {source : Ip}

theorem symm (same : SameRequests a b) : SameRequests b a where
  endpoint := same.endpoint.symm
  family := same.family.symm
  last role := (same.last role).symm

theorem ip?_eq (same : SameRequests a b) (role : Role) : b.ip? role = a.ip? role := by
  unfold ip?
  rw [same.endpoint, same.family]

theorem counts_iff (same : SameRequests a b) {role : Role} :
    b.Counts number source role ↔ a.Counts number source role := by
  have viaPublic : b.viaPublic.lastRequest = _ := same.last .viaPublic
  have viaPrivate : b.viaPrivate.lastRequest = _ := same.last .viaPrivate
  cases role with
  | viaPublic => simp only [Counts, viaPublic, probe]
  | viaPrivate => simp only [Counts, viaPublic, viaPrivate, probe, same.ip?_eq]

theorem respond_eq_error (same : SameRequests a b) {nat : Bool} {now : Nat}
    {reason : ResponseRejection} (rejected : (a.respond number source nat now).1 = .error reason) :
    (b.respond number source nat now).1 = .error reason := by
  have viaPublic : b.viaPublic.lastRequest = a.viaPublic.lastRequest := same.last .viaPublic
  have viaPrivate : b.viaPrivate.lastRequest = a.viaPrivate.lastRequest := same.last .viaPrivate
  unfold respond at rejected ⊢
  rw [viaPublic, viaPrivate, same.ip?_eq, same.endpoint]
  split at rejected
  · cases rejected
  · rename_i notPublic
    rw [if_neg notPublic]
    split at rejected
    · rename_i isPrivate
      rw [if_pos isPrivate]
      split at rejected
      · cases rejected
      · rename_i foreign
        rw [if_neg foreign]
        exact rejected
    · rename_i notPrivate
      rw [if_neg notPrivate]
      exact rejected

end SameRequests
end Remote

/-! ## What answers leave of a remote -/

namespace PeerTable

def Answer.Informs (answer : Answer) (id : String) (remote : Remote) (role : Role) : Prop :=
  answer.id = id ∧ remote.Counts answer.number answer.source role

/-- What answers leave of the remote of a name: those that count settle their probes and bring the last
route up to date, and the others leave it alone. -/
structure Informed (id : String) (answers : List Answer) (start remote : Remote) : Prop where
  frame : remote = { start with
    viaPublic := remote.viaPublic, viaPrivate := remote.viaPrivate, lastRoute := remote.lastRoute }
  told : ∀ {answer role}, answer ∈ answers → answer.Informs id start role →
    remote.probe role = (start.probe role).settle answer.nat answer.now
  untold : ∀ {role}, (∀ answer ∈ answers, ¬ answer.Informs id start role) →
    remote.probe role = start.probe role
  best : (∃ answer ∈ answers, ∃ role, answer.Informs id start role) →
    remote.lastRoute = remote.route?
  silent : (∀ answer ∈ answers, ∀ role, ¬ answer.Informs id start role) →
    remote.lastRoute = start.lastRoute

namespace Informed
variable {id : String} {answers : List Answer} {answer : Answer} {start remote : Remote} {role : Role}

theorem refl (id : String) (remote : Remote) : Informed id [] remote remote where
  frame := rfl
  told member := by cases member
  untold _ := rfl
  best := by
    rintro ⟨answer, member, -⟩
    cases member
  silent _ := rfl

theorem endpoint (informed : Informed id answers start remote) :
    remote.endpoint = start.endpoint := by
  rw [informed.frame]

theorem family (informed : Informed id answers start remote) : remote.family = start.family := by
  rw [informed.frame]

theorem sameRequests (informed : Informed id answers start remote) :
    Remote.SameRequests start remote where
  endpoint := informed.endpoint
  family := informed.family
  last role := by
    by_cases told : ∃ answer ∈ answers, answer.Informs id start role
    · obtain ⟨answer, member, informs⟩ := told
      rw [informed.told member informs, Probe.lastRequest_settle]
    · push Not at told
      rw [informed.untold told]

theorem unique {others : List Answer} {remote' : Remote} (informed : Informed id answers start remote)
    (informed' : Informed id others start remote')
    (same : ∀ answer, answer ∈ answers ↔ answer ∈ others) : remote = remote' := by
  have probes (role : Role) : remote.probe role = remote'.probe role := by
    by_cases told : ∃ answer ∈ answers, answer.Informs id start role
    · obtain ⟨answer, member, informs⟩ := told
      rw [informed.told member informs, informed'.told ((same answer).1 member) informs]
    · push Not at told
      rw [informed.untold told,
        informed'.untold fun answer member => told answer ((same answer).2 member)]
  have viaPublic : remote.viaPublic = remote'.viaPublic := probes .viaPublic
  have viaPrivate : remote.viaPrivate = remote'.viaPrivate := probes .viaPrivate
  have lastRoute : remote.lastRoute = remote'.lastRoute := by
    by_cases told : ∃ answer ∈ answers, ∃ role, answer.Informs id start role
    · obtain ⟨answer, member, informs⟩ := told
      rw [informed.best ⟨answer, member, informs⟩,
        informed'.best ⟨answer, (same answer).1 member, informs⟩]
      exact Remote.route?_congr (informed.endpoint.trans informed'.endpoint.symm)
        (informed.family.trans informed'.family.symm) fun role => by rw [probes]
    · push Not at told
      rw [informed.silent told,
        informed'.silent fun answer member => told answer ((same answer).2 member)]
  rw [informed.frame, informed'.frame, viaPublic, viaPrivate, lastRoute]

theorem ignore (informed : Informed id answers start remote)
    (idle : ∀ role, ¬ answer.Informs id start role) :
    Informed id (answers ++ [answer]) start remote := by
  have earlier {other : Answer} {role : Role} (member : other ∈ answers ++ [answer])
      (informs : other.Informs id start role) : other ∈ answers := by
    rcases List.mem_append.1 member with member | last
    · exact member
    · rw [List.mem_singleton.1 last] at informs
      exact absurd informs (idle role)
  refine ⟨informed.frame, ?_, ?_, ?_, ?_⟩
  · exact fun member informs => informed.told (earlier member informs) informs
  · exact fun none => informed.untold fun other member => none other (List.mem_append_left _ member)
  · rintro ⟨other, member, role, informs⟩
    exact informed.best ⟨other, earlier member informs, role, informs⟩
  · exact fun none => informed.silent fun other member => none other (List.mem_append_left _ member)

theorem eq_of_informs (clear : Unambiguous answers) {other : Answer} (member : answer ∈ answers)
    (memberToo : other ∈ answers) (informs : answer.Informs id start role)
    (informsToo : other.Informs id start role) : answer = other := by
  refine clear answer member other memberToo (informs.1.trans informsToo.1.symm) ?_
  exact Option.some.inj (informs.2.lastRequest.symm.trans informsToo.2.lastRequest)

theorem settle_eq (informed : Informed id answers start remote)
    (clear : Unambiguous (answers ++ [answer])) (informs : answer.Informs id start role) :
    (remote.probe role).settle answer.nat answer.now =
      (start.probe role).settle answer.nat answer.now := by
  by_cases before : ∃ other ∈ answers, other.Informs id start role
  · obtain ⟨other, member, informsToo⟩ := before
    have same : other = answer := eq_of_informs clear (List.mem_append_left _ member)
      (List.mem_append_right _ (List.mem_singleton_self _)) informsToo informs
    rw [informed.told member informsToo, same, Probe.settle_settle]
  · push Not at before
    rw [informed.untold before]

theorem accept (informed : Informed id answers start remote) (standing : remote.Standing)
    (clear : Unambiguous (answers ++ [answer])) (informs : answer.Informs id start role) :
    Informed id (answers ++ [answer]) start (remote.accept role answer.nat answer.now).2 := by
  have counts := informed.sameRequests.counts_iff.2 informs.2
  obtain ⟨route, found, result⟩ :=
    standing.accept_eq (standing.address_of_counts counts) answer.nat answer.now
  have self : answer ∈ answers ++ [answer] := List.mem_append_right _ (List.mem_singleton_self _)
  refine ⟨?_, ?_, ?_, ?_, ?_⟩
  · rw [Remote.accept_frame, informed.frame]
    cases role <;> rfl
  · intro other role' member informsToo
    rw [Remote.probe_accept]
    by_cases same : role = role'
    · rw [if_pos same, informed.settle_eq clear informs, same]
      rw [← same] at informsToo
      rw [eq_of_informs clear self member informs informsToo]
    · rw [if_neg same]
      rcases List.mem_append.1 member with member | last
      · exact informed.told member informsToo
      · rw [List.mem_singleton.1 last] at informsToo
        exact absurd (informs.2.role_unique informsToo.2) same
  · intro role' none
    have different : role ≠ role' := by
      rintro rfl
      exact none answer self informs
    rw [Remote.probe_accept, if_neg different]
    exact informed.untold fun other member => none other (List.mem_append_left _ member)
  · intro _
    rw [result, Remote.route?_lastRoute, found]
  · intro none
    exact absurd informs (none answer self role)

theorem accept_again (informed : Informed id answers start remote) (standing : remote.Standing)
    (member : answer ∈ answers) (informs : answer.Informs id start role) :
    remote.accept role answer.nat answer.now = (none, remote) := by
  have counts := informed.sameRequests.counts_iff.2 informs.2
  obtain ⟨route, found, result⟩ :=
    standing.accept_eq (standing.address_of_counts counts) answer.nat answer.now
  have settled : (remote.probe role).settle answer.nat answer.now = remote.probe role := by
    rw [informed.told member informs, Probe.settle_settle]
  have unchanged : remote.setProbe role (remote.probe role) = remote := by
    cases role <;> rfl
  rw [settled, unchanged] at found result
  have last : remote.lastRoute = some route := by
    rw [informed.best ⟨answer, member, role, informs⟩, found]
  rw [result, if_pos last, ← last]

end Informed

/-! ## What answers leave of a table -/

structure Informs (answers : List Answer) (start table : PeerTable) : Prop where
  frame : table = { start with remotes := table.remotes }
  remotes : ∀ id, Option.Rel (Informed id answers) (start.get? id) (table.get? id)

namespace Informs
variable {answers : List Answer} {answer : Answer} {start table : PeerTable}

theorem refl (table : PeerTable) : Informs [] table table where
  frame := rfl
  remotes id := by
    cases table.get? id with
    | none => exact .none
    | some remote => exact .some (.refl id remote)

theorem unique {others : List Answer} {table' : PeerTable} (informs : Informs answers start table)
    (informs' : Informs others start table')
    (same : ∀ answer, answer ∈ answers ↔ answer ∈ others) : table = table' := by
  have remotes : table.remotes = table'.remotes := by
    refine OrderedMap.ext_get? fun id => ?_
    have left := informs.remotes id
    have right := informs'.remotes id
    change table.get? id = table'.get? id
    generalize start.get? id = before, table.get? id = here, table'.get? id = there at left right ⊢
    cases left with
    | none =>
        cases right
        rfl
    | some informed =>
        cases right with
        | some informed' => rw [informed.unique informed' same]
  rw [informs.frame, informs'.frame, remotes]

theorem exists_remote (informs : Informs answers start table) {id : String} {before : Remote}
    (present : start.get? id = some before) :
    ∃ remote, table.get? id = some remote ∧ Informed id answers before remote := by
  have rel := informs.remotes id
  rw [present] at rel
  exact exists_right_of_rel rel

theorem exists_start (informs : Informs answers start table) {id : String} {remote : Remote}
    (present : table.get? id = some remote) :
    ∃ before, start.get? id = some before ∧ Informed id answers before remote := by
  have rel := informs.remotes id
  rw [present] at rel
  exact exists_left_of_rel rel

theorem absent (informs : Informs answers start table) {id : String} (absent : start.get? id = none) :
    table.get? id = none := by
  have rel := informs.remotes id
  rw [absent] at rel
  generalize table.get? id = here at rel
  cases rel
  rfl

theorem idle (informs : Informs answers start table) {id : String}
    (idle : ∀ before, start.get? id = some before → ∀ role, ¬ answer.Informs id before role) :
    Option.Rel (Informed id (answers ++ [answer])) (start.get? id) (table.get? id) := by
  have rel := informs.remotes id
  generalize start.get? id = before, table.get? id = here at rel idle ⊢
  cases rel with
  | none => exact .none
  | some informed => exact .some (informed.ignore (idle _ rfl))

theorem perform (informs : Informs answers start table) {log : List Event} (traces : Traces log table)
    (clear : Unambiguous (answers ++ [answer])) :
    Informs (answers ++ [answer]) start (table.perform answer.operation).2 := by
  cases result : (answer.respond table).1 with
  | error reason =>
      rw [Answer.operation, perform_of_error result]
      refine ⟨informs.frame, fun id => informs.idle fun before present role informed => ?_⟩
      obtain ⟨remote, presentToo, left⟩ := informs.exists_remote present
      rw [← informed.1] at presentToo
      have counts := left.sameRequests.counts_iff.2 informed.2
      cases result.symm.trans (congrArg Prod.fst (respond_of_counts presentToo counts))
  | ok route =>
      obtain ⟨remote, role, present, counts⟩ := exists_counts_of_ok result
      obtain ⟨before, start, left⟩ := informs.exists_start present
      obtain ⟨story, -, traced⟩ := traces.exists_story present
      have informed : answer.Informs answer.id before role :=
        ⟨rfl, left.sameRequests.counts_iff.1 counts⟩
      rw [Answer.operation, perform_of_ok (respond_of_counts present counts)]
      refine ⟨?_, fun id => ?_⟩
      · rw [informs.frame]
        rfl
      · by_cases sender : answer.id = id
        · rw [← sender, start, get?_put_self]
          exact .some (left.accept traced.standing clear informed)
        · rw [get?_put, if_neg sender]
          exact informs.idle fun _ _ _ informed => sender informed.1

end Informs

theorem deliver_informs {answers : List Answer} {log : List Event} {table : PeerTable}
    (traces : Traces log table) (clear : Unambiguous answers) :
    Informs answers table (deliver answers table).2 := by
  induction answers using List.reverseRecOn with
  | nil => exact .refl table
  | append_singleton front answer ih =>
      rw [deliver_append, deliver_singleton]
      exact (ih (clear.subset (List.subset_append_left ..))).perform (traces.run _) clear

theorem respond_again {front middle : List Answer} {answer : Answer} {log : List Event}
    {table : PeerTable} (traces : Traces log table)
    (clear : Unambiguous (front ++ answer :: middle)) :
    (∀ reason, (answer.respond (deliver front table).2).1 = .error reason →
      answer.respond (deliver (front ++ answer :: middle) table).2 =
        (.error reason, (deliver (front ++ answer :: middle) table).2)) ∧
    (∀ route, (answer.respond (deliver front table).2).1 = .ok route →
      answer.respond (deliver (front ++ answer :: middle) table).2 =
        (.ok none, (deliver (front ++ answer :: middle) table).2)) := by
  have self : answer ∈ front ++ answer :: middle := by simp
  have before := deliver_informs traces (clear.subset (List.subset_append_left ..))
  have later := deliver_informs traces clear
  have tracesLater := traces.run ((front ++ answer :: middle).map Answer.operation)
  change Traces _ (deliver (front ++ answer :: middle) table).2 at tracesLater
  generalize (deliver front table).2 = first at before
  generalize (deliver (front ++ answer :: middle) table).2 = second at later tracesLater
  -- Both tables are compared with the one before all answers, and so with each other.
  constructor
  · intro reason rejected
    refine respond_of_error ?_
    cases start : table.get? answer.id with
    | none =>
        have absent := before.absent start
        have absentToo := later.absent start
        rw [Answer.respond, respond_of_absent absent] at rejected
        rwa [respond_of_absent absentToo]
    | some remote =>
        obtain ⟨earlier, present, left⟩ := before.exists_remote start
        obtain ⟨remote', presentToo, leftToo⟩ := later.exists_remote start
        have rejected := (respond_eq_error_iff present).1 rejected
        exact (respond_eq_error_iff presentToo).2
          (leftToo.sameRequests.respond_eq_error (left.sameRequests.symm.respond_eq_error rejected))
  · intro route accepted
    obtain ⟨earlier, role, present, counts⟩ := exists_counts_of_ok accepted
    obtain ⟨remote, start, left⟩ := before.exists_start present
    obtain ⟨remote', presentToo, leftToo⟩ := later.exists_remote start
    obtain ⟨story, -, traced⟩ := tracesLater.exists_story presentToo
    have countsFirst := left.sameRequests.counts_iff.1 counts
    rw [Answer.respond, respond_of_counts presentToo (leftToo.sameRequests.counts_iff.2 countsFirst),
      leftToo.accept_again traced.standing self ⟨rfl, countsFirst⟩, put_get?_self presentToo]

theorem informs_of_answered {answers : List Answer} {log : List Event} {table : PeerTable}
    (traces : Traces log table) (clear : Unambiguous answers) {id : String} {number : UInt32}
    {nat : Bool} {route : Option Route}
    (answered : .answered id number nat route ∈ (deliver answers table).1) :
    ∃ answer ∈ answers, ∃ remote role, table.get? id = some remote ∧ answer.Informs id remote role := by
  induction answers using List.reverseRecOn with
  | nil => cases answered
  | append_singleton front answer ih =>
      have clearFront := clear.subset (List.subset_append_left ..)
      rw [deliver_append, deliver_singleton] at answered
      rcases List.mem_append.1 answered with earlier | last
      · obtain ⟨other, member, informs⟩ := ih clearFront earlier
        exact ⟨other, List.mem_append_left _ member, informs⟩
      · have informs := deliver_informs traces clearFront
        generalize (deliver front table).2 = before at last informs
        rcases respond_cases before answer.id answer.number answer.source answer.nat answer.now with
          refused | ⟨remote, role, present, counts, taken⟩
        · rw [Answer.operation, refused] at last
          cases last
        · rw [Answer.operation, taken, List.mem_singleton] at last
          cases last
          obtain ⟨start, presentToo, left⟩ := informs.exists_start present
          exact ⟨answer, by simp, start, role, presentToo, rfl,
            left.sameRequests.counts_iff.1 counts⟩

/-- After every run, a batch of answers, no two of them to one request, may be delivered in any
order and each of them any number of times: the table in the end is the same. Of an answered remote
something is known, and of every remote of which something is known the route that was handed out
last is the best one known. An answer that comes again is rejected for the same reason as before, or
it is taken and hands no route out; it changes nothing. -/
theorem answers_in_any_order {pacing : Pacing} {family : Family} {first : UInt32}
    {operations : List Operation} {log : List Event} {table : PeerTable}
    (ran : run operations (new pacing family first) = (log, table)) {batch deliveries : List Answer}
    (distinct : (batch.map fun answer => (answer.id, answer.number)).Nodup)
    (same : ∀ answer, answer ∈ deliveries ↔ answer ∈ batch) :
    (deliver deliveries table).2 = (deliver batch table).2 ∧
    (∀ id number nat route, .answered id number nat route ∈ (deliver deliveries table).1 →
      ∃ remote, (deliver deliveries table).2.get? id = some remote ∧ remote.anyKnown = true) ∧
    (∀ id remote, (deliver deliveries table).2.get? id = some remote → remote.anyKnown = true →
      ∃ story route, chronicle id (log ++ (deliver deliveries table).1) = some story ∧
        remote.route? = some route ∧ story.routes.head? = some route) ∧
    ∀ front middle back answer, deliveries = front ++ answer :: (middle ++ answer :: back) →
      let before := (deliver front table).2
      let again := (deliver (front ++ answer :: middle) table).2
      (∀ reason, (answer.respond before).1 = .error reason →
        answer.respond again = (.error reason, again)) ∧
      (∀ route, (answer.respond before).1 = .ok route → answer.respond again = (.ok none, again)) ∧
      (again.perform answer.operation).2 = again := by
  have traces := run_traces ran
  have clear : Unambiguous deliveries :=
    (unambiguous_of_nodup distinct).subset fun answer member => (same answer).1 member
  have left := deliver_informs traces clear
  have tracesAfter : Traces (log ++ (deliver deliveries table).1) (deliver deliveries table).2 :=
    traces.run _
  refine ⟨?_, ?_, ?_, ?_⟩
  · exact left.unique (deliver_informs traces (unambiguous_of_nodup distinct)) same
  · intro id number nat route answered
    obtain ⟨answer, member, start, role, present, informs⟩ := informs_of_answered traces clear answered
    obtain ⟨remote, presentAfter, informed⟩ := left.exists_remote present
    refine ⟨remote, presentAfter, Remote.anyKnown_iff.2 ⟨role, ?_⟩⟩
    rw [informed.told member informs, Probe.known_settle]
    rfl
  · intro id remote present known
    obtain ⟨story, tells, traced⟩ := tracesAfter.exists_story present
    obtain ⟨route, found, last⟩ := traced.standing.exists_route known
    exact ⟨story, route, tells, found, traced.last.symm.trans last⟩
  · rintro front middle back answer rfl before again
    have part : front ++ answer :: middle ⊆ front ++ answer :: (middle ++ answer :: back) := by
      intro other
      simp only [List.mem_append, List.mem_cons]
      tauto
    obtain ⟨rejected, accepted⟩ := respond_again traces (clear.subset part)
    refine ⟨rejected, accepted, ?_⟩
    cases result : (answer.respond before).1 with
    | error reason =>
        rw [Answer.operation, perform_of_error (congrArg Prod.fst (rejected reason result))]
    | ok route => rw [Answer.operation, perform_of_ok (accepted route result)]

def threeAnswers : List Answer :=
  [⟨"gateway", 8, .v4 ⟨198, 51, 100, 7⟩, true, 5⟩, ⟨"gateway", 7, .v4 ⟨10, 0, 0, 7⟩, false, 3⟩,
    ⟨"gateway", 99, .v4 ⟨10, 0, 0, 9⟩, true, 4⟩]

def sixAnswers : List Answer := threeAnswers.reverse ++ threeAnswers.reverse

theorem answers_in_any_order_sixAnswers :
    ∃ log table, run [.add twoAddresses 0, .plan "gateway" 0] (new {} .v4 7) = (log, table) ∧
      (threeAnswers.map fun answer => (answer.id, answer.number)).Nodup ∧
      (∀ answer, answer ∈ sixAnswers ↔ answer ∈ threeAnswers) ∧
      (deliver sixAnswers table).2 = (deliver threeAnswers table).2 ∧
      (deliver sixAnswers table).1 ≠ (deliver threeAnswers table).1 ∧
      ∃ remote, (deliver sixAnswers table).2.get? "gateway" = some remote ∧
        ∃ route, remote.route? = some route ∧ route.nat = false := by
  have distinct : (threeAnswers.map fun answer => (answer.id, answer.number)).Nodup := by
    decide +kernel
  have same : ∀ answer, answer ∈ sixAnswers ↔ answer ∈ threeAnswers := by
    simp [sixAnswers]
  have nat : ((deliver sixAnswers
      (run [.add twoAddresses 0, .plan "gateway" 0] (new {} .v4 7)).2).2.get? "gateway").bind
        (·.route?.map (·.nat)) = some false := by decide +kernel
  have otherwise :
      (deliver sixAnswers (run [.add twoAddresses 0, .plan "gateway" 0] (new {} .v4 7)).2).1 ≠
        (deliver threeAnswers (run [.add twoAddresses 0, .plan "gateway" 0] (new {} .v4 7)).2).1 := by
    decide +kernel
  generalize ran : run [.add twoAddresses 0, .plan "gateway" 0] (new {} .v4 7) = result
    at nat otherwise
  obtain ⟨log, table⟩ := result
  obtain ⟨equal, -⟩ := answers_in_any_order ran distinct same
  obtain ⟨remote, present, nat⟩ := Option.bind_eq_some_iff.1 nat
  obtain ⟨route, found, nat⟩ := Option.map_eq_some_iff.1 nat
  exact ⟨log, table, rfl, distinct, same, equal, otherwise, remote, present, route, found, nat⟩

end PeerTable
end NatReach
