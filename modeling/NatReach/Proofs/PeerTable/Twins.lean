import NatReach.Proofs.PeerTable.Untouched

namespace NatReach
open PeerTable

namespace PeerTable

theorem perform_respond_private {table : PeerTable} {id : String} {log : List Event}
    {remote : Remote} (agrees : Agrees log table)
    (nodup : ((issued log).map (·.number)).Nodup) (present : table.get? id = some remote)
    {number : UInt32} (known : number ∈ privateNumbers id log) (source : Ip) (nat : Bool) (now : Nat) :
    table.perform (.respond id number source nat now) =
      if remote.viaPrivate.lastRequest = some number ∧ remote.ip? .viaPrivate = some source then
        ([.answered id number nat (remote.accept .viaPrivate nat now).1],
          table.put id (remote.accept .viaPrivate nat now).2)
      else ([], table) := by
  have notPublic : remote.viaPublic.lastRequest ≠ some number := by
    intro last
    have last : (remote.probe .viaPublic).lastRequest = some number := last
    cases (agrees.mem_privateNumbers nodup present last).1 known
  by_cases here : remote.viaPrivate.lastRequest = some number ∧ remote.ip? .viaPrivate = some source
  · rw [if_pos here]
    have counts : remote.Counts number source .viaPrivate := ⟨notPublic, here⟩
    exact perform_of_ok (respond_of_counts present counts)
  · rw [if_neg here]
    rcases respond_cases table id number source nat now with
      refused | ⟨remote', role, presentToo, counts, -⟩
    · exact refused
    · cases present.symm.trans presentToo
      cases role with
      | viaPublic => exact absurd counts notPublic
      | viaPrivate => exact absurd counts.2 here

/-- That two tables hold the same about the private address `source` of an endpoint, but for the
numbers of requests, which correspond by their places in the logs. -/
structure Twin (source : Ip) (id : String) (log log' : List Event) (table table' : PeerTable) :
    Prop where
  pacing : table.pacing = table'.pacing
  family : table.family = table'.family
  akin : Option.Rel (Remote.Akin source (privateNumbers id log) (privateNumbers id log'))
    (table.get? id) (table'.get? id)

namespace Twin
variable {source : Ip} {id : String} {log log' events events' : List Event}
  {table table' after after' : PeerTable}

theorem new (source : Ip) (id : String) (pacing : Pacing) (family : Family) (first first' : UInt32) :
    Twin source id [] [] (.new pacing family first) (.new pacing family first') :=
  ⟨rfl, rfl, .none⟩

theorem absent_or_akin (twin : Twin source id log log' table table') :
    (table.get? id = none ∧ table'.get? id = none) ∨
      ∃ first second, table.get? id = some first ∧ table'.get? id = some second ∧
        Remote.Akin source (privateNumbers id log) (privateNumbers id log') first second := by
  have akin := twin.akin
  generalize table.get? id = entry, table'.get? id = entry' at akin ⊢
  cases akin with
  | none => exact .inl ⟨rfl, rfl⟩
  | some akin => exact .inr ⟨_, _, rfl, rfl, akin⟩

theorem untouched (twin : Twin source id log log' table table')
    (alone : Untouched source id log events table after)
    (alone' : Untouched source id log' events' table' after') :
    Twin source id (log ++ events) (log' ++ events') after after' where
  pacing := by rw [alone.fixed.1, alone'.fixed.1, twin.pacing]
  family := by rw [alone.fixed.2, alone'.fixed.2, twin.family]
  akin := by
    have akin := twin.akin
    have remains := alone.remains
    have remains' := alone'.remains
    rw [alone.numbers, alone'.numbers]
    generalize table.get? id = before, table'.get? id = before', after.get? id = later,
      after'.get? id = later' at akin remains remains' ⊢
    cases akin with
    | none =>
        cases remains
        cases remains'
        exact .none
    | some akin =>
        cases remains with
        | some same =>
            cases remains' with
            | some same' => exact .some (akin.samePrivate same same')

theorem foreign (twin : Twin source id log log' table table') (keyed : Keyed table)
    (keyed' : Keyed table') {operation operation' : Operation} (foreign : operation.Foreign id)
    (foreign' : operation'.Foreign id) :
    Twin source id (log ++ (table.perform operation).1) (log' ++ (table'.perform operation').1)
      (table.perform operation).2 (table'.perform operation').2 :=
  twin.untouched (perform_untouched keyed foreign source log)
    (perform_untouched keyed' foreign' source log')

theorem dropped (twin : Twin source id log log' table table') :
    Twin source id (log ++ [.dropped id]) (log' ++ [.dropped id]) (table.forget id)
      (table'.forget id) where
  pacing := twin.pacing
  family := twin.family
  akin := by
    rw [get?_forget, get?_forget, if_pos rfl, if_pos rfl]
    exact .none

theorem tracked (twin : Twin source id log log' table table') {endpoint : Endpoint}
    (ours : endpoint.cable = id) (port : UInt16) (now : Nat) :
    Twin source id (log ++ [.tracked endpoint]) (log' ++ [.tracked endpoint])
      (table.put id { endpoint, family := table.family, port, started := now })
      (table'.put id { endpoint, family := table'.family, port, started := now }) where
  pacing := twin.pacing
  family := twin.family
  akin := by
    have begun (log : List Event) : privateNumbers id (log ++ [.tracked endpoint]) = [] := by
      simp [privateNumbers, chronicle_append, Chronicle.note, ours, privateOf]
    rw [begun, begun, get?_put_self, get?_put_self, twin.family]
    exact .some (.new source endpoint _ port now)

theorem add (twin : Twin source id log log' table table') {endpoint : Endpoint}
    (ours : endpoint.cable = id) (now : Nat) :
    (table.add endpoint now).1 = (table'.add endpoint now).1 ∧
      Twin source id (log ++ (table.add endpoint now).1.events endpoint)
        (log' ++ (table'.add endpoint now).1.events endpoint) (table.add endpoint now).2
        (table'.add endpoint now).2 := by
  subst ours
  by_cases answers : ∃ port, endpoint.discoveryPort = .ok (some port)
  · obtain ⟨port, answers⟩ := answers
    have anew := twin.tracked rfl port now
    rcases twin.absent_or_akin with ⟨absent, absent'⟩ | ⟨first, second, present, present', akin⟩
    · rw [add_tracks answers (by simp [absent]), add_tracks answers (by simp [absent']), absent,
        absent']
      exact ⟨rfl, anew⟩
    · by_cases same : first.endpoint = endpoint
      · rw [add_unchanged answers present same,
          add_unchanged answers present' (akin.endpoint.symm.trans same)]
        refine ⟨rfl, ?_⟩
        simpa only [Admission.events, List.append_nil] using twin
      · have same' : second.endpoint ≠ endpoint := akin.endpoint ▸ same
        rw [add_tracks answers (by simpa [present] using same),
          add_tracks answers (by simpa [present'] using same'), present, present']
        exact ⟨rfl, anew⟩
  · rw [not_exists] at answers
    rw [add_legacy answers, add_legacy answers, twin.family]
    exact ⟨rfl, twin.dropped⟩

theorem deals (twin : Twin source id log log' table table') {operation operation' : Operation}
    (lasting : ∀ event ∈ (table.perform operation).1, event.isDirectory = false)
    (lasting' : ∀ event ∈ (table'.perform operation').1, event.isDirectory = false)
    {story story' : Chronicle} (tells : chronicle id log = some story)
    (tells' : chronicle id log' = some story') {result result' : Option ProbeOrder × Remote}
    (deals : Deals source id result (issued (table.perform operation).1) (table.perform operation).2)
    (deals' : Deals source id result' (issued (table'.perform operation').1)
      (table'.perform operation').2)
    (akin : Remote.Akin source (privateNumbers id log ++ result.1.toList.map (·.number))
      (privateNumbers id log' ++ result'.1.toList.map (·.number)) result.2 result'.2) :
    Twin source id (log ++ (table.perform operation).1) (log' ++ (table'.perform operation').1)
      (table.perform operation).2 (table'.perform operation').2 where
  pacing := by rw [(perform_fixed ..).1, (perform_fixed ..).1, twin.pacing]
  family := by rw [(perform_fixed ..).2, (perform_fixed ..).2, twin.family]
  akin := by
    obtain ⟨asked, remote, present, same⟩ := deals
    obtain ⟨asked', remote', present', same'⟩ := deals'
    rw [privateNumbers_append tells lasting, privateNumbers_append tells' lasting', asked, asked',
      present, present']
    exact .some (akin.samePrivate same same')

theorem plan (twin : Twin source id log log' table table') (agrees : Agrees log table)
    (agrees' : Agrees log' table') (now : Nat) :
    Twin source id (log ++ (table.perform (.plan id now)).1)
      (log' ++ (table'.perform (.plan id now)).1) (table.perform (.plan id now)).2
      (table'.perform (.plan id now)).2 := by
  rcases twin.absent_or_akin with ⟨absent, absent'⟩ | ⟨first, second, present, present', akin⟩
  · have rests := Untouched.refl source id log table
    have rests' := Untouched.refl source id log' table'
    rw [perform_plan_of_absent absent, perform_plan_of_absent absent']
    exact twin.untouched rests rests'
  · obtain ⟨story, tells, -⟩ := agrees.exists_story present
    obtain ⟨story', tells', -⟩ := agrees'.exists_story present'
    obtain ⟨number, deals⟩ := plan_deals agrees.keyed present now source
    obtain ⟨number', deals'⟩ := plan_deals agrees'.keyed present' now source
    rw [← issued_asked (table.plan id now).1] at deals
    rw [← issued_asked (table'.plan id now).1] at deals'
    refine twin.deals (asked_lasting _) (asked_lasting _) tells tells' deals deals' ?_
    rw [← twin.pacing]
    exact akin.ask table.pacing now number number'

theorem tick (twin : Twin source id log log' table table') (agrees : Agrees log table)
    (agrees' : Agrees log' table') {walk walk' : List String} (all : walk.Perm table.remotes.keys)
    (all' : walk'.Perm table'.remotes.keys) (now : Nat) :
    Twin source id (log ++ (table.perform (.tick walk now)).1)
      (log' ++ (table'.perform (.tick walk' now)).1) (table.perform (.tick walk now)).2
      (table'.perform (.tick walk' now)).2 := by
  rcases twin.absent_or_akin with ⟨absent, absent'⟩ | ⟨first, second, present, present', akin⟩
  · have foreign : (Operation.tick walk now).Foreign id := not_mem_walk all absent
    have foreign' : (Operation.tick walk' now).Foreign id := not_mem_walk all' absent'
    exact twin.foreign agrees.keyed agrees'.keyed foreign foreign'
  · obtain ⟨story, tells, -⟩ := agrees.exists_story present
    obtain ⟨story', tells', -⟩ := agrees'.exists_story present'
    obtain ⟨once, member⟩ := mem_walk all present
    obtain ⟨once', member'⟩ := mem_walk all' present'
    obtain ⟨number, deals⟩ := tickInOrder_deals agrees.keyed present once member now source
    obtain ⟨number', deals'⟩ := tickInOrder_deals agrees'.keyed present' once' member' now source
    rw [← issued_round (tickInOrder now walk table).1] at deals
    rw [← issued_round (tickInOrder now walk' table').1] at deals'
    refine twin.deals (round_lasting _) (round_lasting _) tells tells' deals deals' ?_
    rw [← twin.pacing]
    exact akin.tickRole table.pacing now number number'

theorem answer (twin : Twin source id log log' table table') (agrees : Agrees log table)
    (agrees' : Agrees log' table') (nodup : ((issued log).map (·.number)).Nodup)
    (nodup' : ((issued log').map (·.number)).Nodup) {number number' : UInt32}
    (there : SamePlace (privateNumbers id log) (privateNumbers id log') number number') (nat : Bool)
    (now : Nat) :
    Twin source id (log ++ (table.perform (.respond id number source nat now)).1)
      (log' ++ (table'.perform (.respond id number' source nat now)).1)
      (table.perform (.respond id number source nat now)).2
      (table'.perform (.respond id number' source nat now)).2 := by
  have ⟨place, here, here'⟩ := there
  have known := List.mem_of_getElem? here
  have known' := List.mem_of_getElem? here'
  rcases twin.absent_or_akin with ⟨absent, -⟩ | ⟨first, second, present, present', akin⟩
  · have nothing : privateNumbers id log = [] := by
      unfold privateNumbers
      rw [(agrees.absent_iff id).2 absent]
    rw [nothing] at known
    cases known
  · have both : first.viaPrivate.lastRequest = some number ∧ first.ip? .viaPrivate = some source ↔
        second.viaPrivate.lastRequest = some number' ∧ first.ip? .viaPrivate = some source := by
      refine and_congr_left fun address => ?_
      exact (akin.alike address).2.lastRequest_iff (agrees.privateNumbers_nodup nodup id)
        (agrees'.privateNumbers_nodup nodup' id) there
    rw [perform_respond_private agrees nodup present known,
      perform_respond_private agrees' nodup' present' known', ← akin.ip?_eq]
    by_cases counts : first.viaPrivate.lastRequest = some number ∧
        first.ip? .viaPrivate = some source
    · rw [if_pos counts, if_pos (both.1 counts)]
      refine ⟨twin.pacing, twin.family, ?_⟩
      rw [privateNumbers_silent (answered_lasting _ _ _ _) rfl,
        privateNumbers_silent (answered_lasting _ _ _ _) rfl,
        get?_put_self, get?_put_self]
      exact .some (akin.settle nat now)
    · rw [if_neg counts, if_neg fun counts' => counts (both.2 counts')]
      simpa only [List.append_nil] using twin

end Twin

end PeerTable
end NatReach
