import NatReach.Proofs.PeerTable.RouteHistory

namespace NatReach

namespace PeerTable

def Chronicle.awaited? (story : Chronicle) (role : Role) : Option UInt32 :=
  (story.latest? role).map (·.number)

theorem Chronicle.awaited?_eq_some_iff {story : Chronicle} {role : Role} {number : UInt32} :
    story.awaited? role = some number ↔
      ∃ order, order.role = role ∧ story.latest? role = some order ∧ order.number = number := by
  unfold awaited?
  rw [Option.map_eq_some_iff]
  constructor
  · rintro ⟨order, latest, bears⟩
    have ofRole : order.role = role := by simpa using List.find?_some latest
    exact ⟨order, ofRole, latest, bears⟩
  · rintro ⟨order, -, latest, bears⟩
    exact ⟨order, latest, bears⟩

theorem Agrees.mem_issued {log : List Event} {table : PeerTable} (agrees : Agrees log table)
    {id : String} {story : Chronicle} (tells : chronicle id log = some story) {role : Role}
    {order : ProbeOrder} (latest : story.latest? role = some order) : order ∈ issued log := by
  have member := List.mem_of_find?_eq_some latest
  exact (agrees.orders tells).subset (List.mem_reverse.2 member)

namespace Told
variable {id : String} {family : Family} {story : Chronicle} {remote : Remote}

theorem lastRequest (told : Told id family story remote) (role : Role) :
    (remote.probe role).lastRequest = story.awaited? role := told.latest role

theorem privateIp (told : Told id family story remote) :
    remote.ip? .viaPrivate = story.endpoint.privateIp? family := by
  rw [← told.endpoint, ← told.sameFamily]
  rfl

theorem role_unique (told : Told id family story remote)
    (different : (story.orders.map (·.number)).Nodup) {number : UInt32} {role other : Role}
    (awaited : story.awaited? role = some number) (awaitedToo : story.awaited? other = some number) :
    role = other := by
  rw [← told.lastRequest] at awaited awaitedToo
  have first := (told.roleOf?_eq different awaited).1
  have second := (told.roleOf?_eq different awaitedToo).1
  exact Option.some.inj (first.symm.trans second)

theorem counts_iff (told : Told id family story remote)
    (different : (story.orders.map (·.number)).Nodup) {number : UInt32} {source : Ip} {role : Role} :
    remote.Counts number source role ↔
      story.awaited? role = some number ∧
        (role = .viaPrivate → story.endpoint.privateIp? family = some source) := by
  have lastPublic := told.lastRequest .viaPublic
  have lastPrivate := told.lastRequest .viaPrivate
  simp only [Remote.probe] at lastPublic lastPrivate
  cases role with
  | viaPublic => simp [Remote.Counts, lastPublic]
  | viaPrivate =>
      simp only [Remote.Counts, lastPublic, lastPrivate, told.privateIp, forall_const]
      constructor
      · exact And.right
      · rintro ⟨awaited, fromThere⟩
        refine ⟨?_, awaited, fromThere⟩
        intro awaitedToo
        cases told.role_unique different awaited awaitedToo

theorem respond_eq_error_iff (told : Told id family story remote)
    (different : (story.orders.map (·.number)).Nodup) {number : UInt32} {source : Ip} {nat : Bool}
    {now : Nat} {reason : ResponseRejection} :
    (remote.respond number source nat now).1 = .error reason ↔
      ((∀ role, story.awaited? role ≠ some number) ∧
        reason = .unknownNumber id number (story.awaited? .viaPublic)
          (story.awaited? .viaPrivate)) ∨
      (story.awaited? .viaPrivate = some number ∧ story.endpoint.privateIp? family ≠ some source ∧
        reason = .foreignSource id (story.endpoint.privateIp? family) source) := by
  have cable : remote.endpoint.cable = id := by rw [told.endpoint, told.cable]
  have lastPublic : remote.viaPublic.lastRequest = _ := told.lastRequest .viaPublic
  have lastPrivate : remote.viaPrivate.lastRequest = _ := told.lastRequest .viaPrivate
  unfold Remote.respond
  rw [lastPublic, lastPrivate, told.privateIp, cable]
  by_cases viaPublic : story.awaited? .viaPublic = some number
  · -- the answer counts, so there is no error
    have notPrivate : story.awaited? .viaPrivate ≠ some number := by
      intro viaPrivate
      cases told.role_unique different viaPublic viaPrivate
    have known : ¬ ∀ role, story.awaited? role ≠ some number := fun none => none _ viaPublic
    rw [if_pos viaPublic]
    simp [known, notPrivate]
  · rw [if_neg viaPublic]
    by_cases viaPrivate : story.awaited? .viaPrivate = some number
    · have known : ¬ ∀ role, story.awaited? role ≠ some number := fun none => none _ viaPrivate
      rw [if_pos viaPrivate]
      by_cases fromThere : story.endpoint.privateIp? family = some source
      · simp [known, fromThere]
      · rw [if_neg fromThere]
        simp only [known, viaPrivate, fromThere, false_and, false_or, ne_eq, not_false_iff, true_and,
          Except.error.injEq]
        exact eq_comm
    · have unknown : ∀ role, story.awaited? role ≠ some number := by
        intro role
        cases role
        · exact viaPublic
        · exact viaPrivate
      rw [if_neg viaPrivate]
      simp [unknown, eq_comm]

end Told

/-- After every run, an answer counts exactly if it bears the number of the latest request in a role
to the endpoint in its present discovery, and, in the private role, comes from the private address.
The numbers of all requests are different. An answer that does not count is rejected with the reason
that fits and leaves the table as it was; one that counts changes the probe of its role and the last
route, and nothing else. -/
theorem correlation {pacing : Pacing} {family : Family} {first : UInt32}
    {operations : List Operation} {log : List Event} {table : PeerTable}
    (ran : run operations (new pacing family first) = (log, table))
    (few : (issued log).length < UInt32.size) (id : String) (number : UInt32) (source : Ip)
    (nat : Bool) (now : Nat) :
    ((issued log).map (·.number)).Nodup ∧
    ((∃ route, (table.respond id number source nat now).1 = .ok route) ↔
      ∃ story order, chronicle id log = some story ∧ order ∈ issued log ∧ order.number = number ∧
        story.latest? order.role = some order ∧
        (order.role = .viaPrivate → story.endpoint.privateIp? family = some source)) ∧
    (∀ reason, (table.respond id number source nat now).1 = .error reason ↔
      (chronicle id log = none ∧ reason = .unknownEndpoint id) ∨
      ∃ story, chronicle id log = some story ∧
        (((∀ role, story.awaited? role ≠ some number) ∧
          reason = .unknownNumber id number (story.awaited? .viaPublic)
            (story.awaited? .viaPrivate)) ∨
        (story.awaited? .viaPrivate = some number ∧
          story.endpoint.privateIp? family ≠ some source ∧
          reason = .foreignSource id (story.endpoint.privateIp? family) source))) ∧
    (∀ reason, (table.respond id number source nat now).1 = .error reason →
      (table.respond id number source nat now).2 = table ∧
        table.perform (.respond id number source nat now) = ([], table)) ∧
    (∀ route after, table.respond id number source nat now = (.ok route, after) →
      ∃ story order remote lastRoute, chronicle id log = some story ∧ order.number = number ∧
        story.latest? order.role = some order ∧ table.get? id = some remote ∧
        after = table.put id { remote.setProbe order.role
          ((remote.probe order.role).settle nat now) with lastRoute }) := by
  obtain ⟨numbered, agrees, rfl⟩ := run_agrees ran (Nat.le_of_lt few)
  have nodup := numbered.nodup (Nat.le_of_lt few)
  refine ⟨nodup, ?_⟩
  cases tells : chronicle id log with
  | none =>
      have absent := (agrees.absent_iff id).1 tells
      have rejected : table.respond id number source nat now =
          (.error (.unknownEndpoint id), table) := respond_of_absent absent
      simp [rejected, perform, eq_comm]
  | some story =>
      obtain ⟨remote, present, told⟩ := agrees.exists_remote tells
      have different := agrees.different nodup tells
      refine ⟨?_, ?_, ?_, ?_⟩
      · constructor
        · rintro ⟨route, accepted⟩
          obtain ⟨remote', role, presentToo, counts⟩ := exists_counts_of_ok accepted
          cases present.symm.trans presentToo
          obtain ⟨awaited, fromThere⟩ := (told.counts_iff different).1 counts
          obtain ⟨order, rfl, latest, bears⟩ := Chronicle.awaited?_eq_some_iff.1 awaited
          exact ⟨story, order, rfl, agrees.mem_issued tells latest, bears, latest, fromThere⟩
        · rintro ⟨story', order, same, -, bears, latest, fromThere⟩
          cases same
          have awaited := Chronicle.awaited?_eq_some_iff.2 ⟨order, rfl, latest, bears⟩
          have counts := (told.counts_iff different).2 ⟨awaited, fromThere⟩
          exact ⟨_, congrArg Prod.fst (respond_of_counts present counts)⟩
      · intro reason
        rw [respond_eq_error_iff present, told.respond_eq_error_iff different]
        simp
      · intro reason rejected
        exact ⟨congrArg Prod.snd (respond_of_error rejected), perform_of_error rejected⟩
      · intro route after accepted
        obtain ⟨role, counts, same⟩ := (respond_eq_ok_iff present).1 accepted
        obtain ⟨awaited, -⟩ := (told.counts_iff different).1 counts
        obtain ⟨order, rfl, latest, bears⟩ := Chronicle.awaited?_eq_some_iff.1 awaited
        obtain ⟨-, rfl⟩ := Prod.mk.inj same
        exact ⟨story, order, remote, _, rfl, bears, latest, present,
          congrArg (table.put id) (Remote.accept_frame ..)⟩

theorem correlation_twoAddresses :
    ∃ log table, run [.add twoAddresses 0, .plan "gateway" 0] (new {} .v4 7) = (log, table) ∧
      (issued log).length < UInt32.size ∧
      (∃ story order, chronicle "gateway" log = some story ∧ order.number = 7 ∧
        story.latest? order.role = some order ∧
        (order.role = .viaPrivate →
          story.endpoint.privateIp? .v4 = some (.v4 ⟨10, 0, 0, 7⟩))) ∧
      table.perform (.respond "gateway" 7 (.v4 ⟨10, 0, 0, 9⟩) true 5) = ([], table) := by
  have few : (issued (run [.add twoAddresses 0, .plan "gateway" 0] (new {} .v4 7)).1).length <
      UInt32.size := by decide +kernel
  have counts : ((run [.add twoAddresses 0, .plan "gateway" 0] (new {} .v4 7)).2.respond
      "gateway" 7 (.v4 ⟨10, 0, 0, 7⟩) true 5).1.isOk = true := by decide +kernel
  have foreign : ((run [.add twoAddresses 0, .plan "gateway" 0] (new {} .v4 7)).2.respond
      "gateway" 7 (.v4 ⟨10, 0, 0, 9⟩) true 5).1.isOk = false := by decide +kernel
  generalize ran : run [.add twoAddresses 0, .plan "gateway" 0] (new {} .v4 7) = result
    at few counts foreign
  obtain ⟨log, table⟩ := result
  refine ⟨log, table, rfl, few, ?_, ?_⟩
  · cases answer : (table.respond "gateway" 7 (.v4 ⟨10, 0, 0, 7⟩) true 5).1 with
    | error reason => simp [answer, Except.isOk, Except.toBool] at counts
    | ok route =>
        obtain ⟨-, accepted, -⟩ := correlation ran few "gateway" 7 (.v4 ⟨10, 0, 0, 7⟩) true 5
        obtain ⟨story, order, tells, -, bears, latest, fromThere⟩ := accepted.1 ⟨route, answer⟩
        exact ⟨story, order, tells, bears, latest, fromThere⟩
  · cases answer : (table.respond "gateway" 7 (.v4 ⟨10, 0, 0, 9⟩) true 5).1 with
    | error reason =>
        obtain ⟨-, -, -, rejected, -⟩ :=
          correlation ran few "gateway" 7 (.v4 ⟨10, 0, 0, 9⟩) true 5
        exact (rejected reason answer).2
    | ok route => simp [answer, Except.isOk, Except.toBool] at foreign

end PeerTable
end NatReach
