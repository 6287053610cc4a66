import NatReach.Proofs.Engine.Exchange
import NatReach.Proofs.PeerTable.RouteHistory

namespace NatReach
open PeerTable

/-- That the other gateway confirmed a verdict: it received a request of this discovery in the role, and
its answer says so. -/
def Confirmed (mine theirs : Side) (story : Chronicle) (role : Role) (nat : Bool) : Prop :=
  story.endpoint.identity = theirs.engine.home.identity ∧
    ∃ order ∈ story.orders, order.role = role ∧
      ∃ reception ∈ theirs.received, reception.request.number = order.number ∧
        (∃ attempt ∈ mine.sent,
          attempt.outgoing = ⟨.request reception.request, order.destination⟩) ∧
        reception.answer.verdict = if nat then .altered else .direct

def Learnt (mine theirs : Side) : Prop :=
  ∀ id story role nat, chronicle id mine.log = some story → (role, nat) ∈ story.verdicts →
    Confirmed mine theirs story role nat

theorem Learnt.grow {mine theirs after : Side} (learnt : Learnt mine theirs)
    (grows : Grows theirs after) : Learnt mine after := by
  intro id story role nat tells heard
  obtain ⟨identity, order, asked, sameRole, reception, received, confirmed⟩ :=
    learnt id story role nat tells heard
  exact ⟨identity.trans grows.identity.symm, order, asked, sameRole, reception,
    grows.received received, confirmed⟩

/-! ## Answers teach, and nothing else does -/

section Deed
variable {mine theirs : Side} {network : Network} {now : Nat} {deed : Deed}

theorem Confirmed.mono {story later : Chronicle} {role : Role} {nat : Bool} {after : Side}
    (confirmed : Confirmed mine theirs story role nat) (endpoint : later.endpoint = story.endpoint)
    (orders : story.orders ⊆ later.orders) (sent : mine.sent ⊆ after.sent) :
    Confirmed after theirs later role nat := by
  obtain ⟨identity, order, asked, sameRole, reception, received, number, ⟨attempt, tried, carries⟩,
    verdict⟩ := confirmed
  exact ⟨by rw [endpoint, identity], order, orders asked, sameRole, reception, received, number,
    ⟨attempt, sent tried, carries⟩, verdict⟩

theorem Learnt.silent (learnt : Learnt mine theirs) {events : List Event}
    (silent : ∀ event ∈ events, event.isAnswer = false) {after : Side}
    (log : after.log = mine.log ++ events) (sent : mine.sent ⊆ after.sent) :
    Learnt after theirs := by
  intro id story role nat tells heard
  rw [log, chronicle_append] at tells
  have some : story.verdicts ≠ [] := List.ne_nil_of_mem heard
  obtain ⟨earlier, told, endpoint, verdicts, orders⟩ := Chronicle.note_all_silent silent tells some
  rw [← verdicts] at heard
  exact (learnt id earlier role nat told heard).mono endpoint.symm orders sent

theorem confirmed_of_answer (sound : Sound mine theirs) (soundTheirs : Sound theirs mine)
    (few : (issued mine.log).length ≤ UInt32.size) {reception : Reception}
    (received : reception ∈ theirs.received) {sender : String} {nat : Bool}
    (parts : Engine.usable reception.answer = .ok (sender, nat)) {story : Chronicle}
    (tells : chronicle sender mine.log = some story) {role : Role}
    (ours : story.roleOf? reception.answer.number = some role) :
    Confirmed mine theirs story role nat := by
  obtain ⟨nodup, agrees⟩ := sound.ran.agrees few
  obtain ⟨remote, -, told⟩ := agrees.exists_remote tells
  obtain ⟨order, found, sameRole⟩ := Option.map_eq_some_iff.1 ours
  have asked := List.mem_of_find?_eq_some found
  have number : order.number = reception.answer.number := by simpa using List.find?_some found
  obtain ⟨-, -, -, -, -, verdict⟩ := Engine.usable_eq_ok_iff.1 parts
  obtain ⟨home, attempt, sent, carries⟩ := soundTheirs.received reception received
  have acknowledged : reception.answer.number = reception.request.number :=
    Endpoint.answer_acknowledges.1
  have success : reception.answer.verdict.isSuccess = true := by
    rw [verdict]
    cases nat <;> rfl
  have meant := Endpoint.receiver_of_isSuccess success
  rcases sound.sent attempt sent with ⟨order', ordered, request, outgoing, bears, receiver⟩ |
    ⟨other, -, reply⟩
  · rw [outgoing] at carries
    cases carries
    -- An answer bears the number of its request, and no two requests on the log have one number.
    have same : order' = order := by
      have member := (agrees.orders tells).subset (List.mem_reverse.2 asked)
      refine List.inj_on_of_nodup_map nodup ordered member ?_
      rw [← bears, number, acknowledged]
    subst same
    have identity := (told.orders order' asked).2.1
    rw [receiver] at meant
    refine ⟨?_, order', asked, sameRole, reception, received, bears, ⟨attempt, sent, outgoing⟩,
      verdict⟩
    rw [← identity, Option.some.inj meant, home]
  · rw [reply] at carries
    cases carries

theorem Learnt.answer (learnt : Learnt mine theirs) (sound : Sound mine theirs)
    (soundTheirs : Sound theirs mine) (few : (issued mine.log).length ≤ UInt32.size)
    {reception : Reception} (received : reception ∈ theirs.received) {sender : String} {nat : Bool}
    (parts : Engine.usable reception.answer = .ok (sender, nat)) {route : Option Route} {after : Side}
    (log : after.log = mine.log ++ [.answered sender reception.answer.number nat route])
    (sent : mine.sent ⊆ after.sent) : Learnt after theirs := by
  intro id later role known tells heard
  rw [log, chronicle_append] at tells
  simp only [List.foldl_cons, List.foldl_nil, Chronicle.note] at tells
  split at tells
  · rename_i same
    subst same
    obtain ⟨story, told, rfl⟩ := Option.map_eq_some_iff.1 tells
    rcases List.mem_append.1 heard with new | old
    · obtain ⟨ofRole, ours, same⟩ := Option.map_eq_some_iff.1 (Option.mem_toList.1 new)
      cases same
      have confirmed := confirmed_of_answer sound soundTheirs few received parts told ours
      exact confirmed.mono rfl (List.Subset.refl _) sent
    · exact (learnt sender story role known told old).mono rfl (List.Subset.refl _) sent
  · exact (learnt id later role known tells heard).mono rfl (List.Subset.refl _) sent

theorem Learnt.strike (learnt : Learnt mine theirs) (sound : Sound mine theirs)
    (soundTheirs : Sound theirs mine) (few : (issued mine.log).length ≤ UInt32.size)
    (carried : ∀ datagram source, deed = .call (.receive datagram source) →
      ∃ attempt ∈ theirs.sent, attempt.datagram = datagram) :
    Learnt (mine.strike network now deed) theirs := by
  have sent : mine.sent ⊆ (mine.strike network now deed).sent := List.subset_append_left ..
  cases receives : deed.isReceive with
  | false =>
      have silent := run_silent (mine.engine.operations_silent now receives) mine.engine.table
      exact learnt.silent silent rfl sent
  | true =>
      obtain ⟨datagram, source, rfl⟩ := Deed.exists_of_isReceive receives
      obtain ⟨attempt, tried, decoded⟩ := carried_message soundTheirs carried rfl
      have log : (mine.strike network now (.call (.receive datagram source))).log = mine.log ++
          (PeerTable.run (Engine.receptions source now (.ok attempt.outgoing.message))
            mine.engine.table).1 := by
        rw [← decoded]
        rfl
      rcases soundTheirs.sent attempt tried with ⟨order, -, request, outgoing, -⟩ |
        ⟨reception, received, reply⟩
      · rw [outgoing] at log
        exact learnt.silent (fun event member => by cases member) log sent
      · rw [reply] at log
        have noted := Engine.response_events reception.answer source now mine.engine.table
        rcases noted with nothing | ⟨sender, nat, route, parts, answered⟩
        · rw [show reception.reply.message = .response reception.answer from rfl, nothing] at log
          exact learnt.silent (fun event member => by cases member) log sent
        · rw [show reception.reply.message = .response reception.answer from rfl, answered] at log
          exact learnt.answer sound soundTheirs few received parts log sent

end Deed

/-! ## Everything that two gateways reach -/

theorem Reachable.learnt {sides : Party → Side} (reached : Reachable sides) (party : Party)
    (few : (issued (sides party).log).length ≤ UInt32.size) :
    Learnt (sides party) (sides party.other) := by
  let holds (mine theirs : Side) : Prop :=
    (issued mine.log).length ≤ UInt32.size → Learnt mine theirs
  -- A step of one gateway draws on what the other has sent, so the induction is on both at once.
  suffices all : ∀ party, holds (sides party) (sides party.other) from all party few
  clear few party
  induction reached with
  | start fresh =>
      intro party few id story role nat tells
      cases tells
  | @strike sides reached acting network now deed carried ih =>
      have sound := reached.sound acting
      have soundTheirs := reached.sound acting.other
      have theirs := ih acting.other
      rw [acting.other_other] at soundTheirs theirs
      refine both_parties ?_ ?_
      · intro few
        have fewBefore : (issued (sides acting).log).length ≤ UInt32.size := few_before few
        exact (ih acting fewBefore).strike sound soundTheirs fewBefore carried
      · intro few
        exact (theirs few).grow (grows_strike ..)
  | revise reached acting edits same ih =>
      have theirs := ih acting.other
      rw [acting.other_other] at theirs
      refine both_parties ?_ ?_
      · exact ih acting
      · intro few
        exact (theirs few).grow (grows_engine same)
  | reroute reached acting sourceFor ih =>
      have theirs := ih acting.other
      rw [acting.other_other] at theirs
      refine both_parties ?_ ?_
      · exact ih acting
      · intro few
        exact (theirs few).grow (grows_engine rfl)

/-- What a gateway knows about an address was confirmed by the other gateway: the endpoint is that
gateway, a request to the address was sent in the present discovery, the other gateway received it, from
wherever it seemed to come, and the answer that it gave, being what it was then, has the verdict that is
known. About an endpoint that is not the other gateway, nothing is ever known. -/
theorem known_is_confirmed {sides : Party → Side} (reached : Reachable sides) (party : Party)
    (few : (issued (sides party).log).length < UInt32.size) {id : String} {remote : Remote}
    (present : (sides party).engine.table.get? id = some remote) {role : Role} {nat : Bool}
    (known : (remote.probe role).known = some nat) :
    remote.endpoint.identity = (sides party.other).engine.home.identity ∧
      ∃ story order ip attempt reception, chronicle id (sides party).log = some story ∧
        order ∈ story.orders ∧ order.role = role ∧
        remote.ip? role = some ip ∧ order.destination = .ofIp ip remote.port ∧
        attempt ∈ (sides party).sent ∧
        attempt.outgoing = ⟨.request reception.request, order.destination⟩ ∧
        reception.request.number = order.number ∧
        reception ∈ (sides party.other).received ∧
        reception.home.identity = (sides party.other).engine.home.identity ∧
        (reception.home.answer reception.request reception.source reception.family).verdict =
          if nat then .altered else .direct := by
  obtain ⟨-, agrees⟩ := (reached.sound party).ran.agrees (Nat.le_of_lt few)
  obtain ⟨story, tells, told⟩ := agrees.exists_story present
  rw [told.known] at known
  have heard : (role, nat) ∈ story.verdicts := by
    obtain ⟨verdict, found, rfl⟩ := Option.map_eq_some_iff.1 known
    have sameRole : verdict.1 = role := by simpa using List.find?_some found
    rw [← sameRole]
    exact List.mem_of_find?_eq_some found
  obtain ⟨identity, order, asked, sameRole, reception, received, number, ⟨attempt, sent, outgoing⟩,
    verdict⟩ := reached.learnt party (Nat.le_of_lt few) id story role nat tells heard
  obtain ⟨-, -, ip, address, destination⟩ := told.orders order asked
  rw [sameRole] at address
  have home := ((reached.sound party.other).received reception received).1
  exact ⟨by rw [told.endpoint, identity], story, order, ip, attempt, reception, tells, asked, sameRole,
    address, destination, sent, outgoing, number, received, home, verdict⟩

/-! ## Two gateways that meet -/

namespace Meeting

def hub : Endpoint where
  cluster := "east"
  cable := "hub"
  privateIps := .ofList [.v4 ⟨10, 0, 0, 1⟩]

def engines : Party → Engine
  | .left => {
      home := hub
      port := 4490
      sourceFor := fun _ => some (.v4 ⟨10, 0, 0, 1⟩)
      table := new {} .v4 7 }
  | .right => { home := twoAddresses, port := 4490, sourceFor := fun _ => none, table := new {} .v4 1 }

def network : Network := fun _ datagram => .sent datagram.length

def firstSent (side : Side) : List UInt8 := (side.sent.map (·.datagram)).headD []

def asked : Party → Side :=
  let sides := fun party => { engine := engines party : Side }
  Function.update sides .left ((sides .left).strike network 0 (.call (.add twoAddresses)))

def answered : Party → Side :=
  Function.update asked .right ((asked .right).strike network 3
    (.call (.receive (firstSent (asked .left)) (.v4 ⟨10, 0, 0, 1⟩ 4490))))

def learnt : Party → Side :=
  Function.update answered .left ((answered .left).strike network 5
    (.call (.receive (firstSent (answered .right)) (.v4 ⟨10, 0, 0, 7⟩ 4490))))

theorem reachable_delivery {sides : Party → Side} (reached : Reachable sides) (party : Party)
    (some : 0 < (sides party.other).sent.length) (now : Nat) (source : SocketAddress) :
    Reachable (Function.update sides party ((sides party).strike network now
      (.call (.receive (firstSent (sides party.other)) source)))) := by
  refine reached.strike party network now _ ?_
  intro datagram from' same
  cases same
  unfold firstSent
  cases sent : (sides party.other).sent with
  | nil => simp [sent] at some
  | cons attempt rest => exact ⟨attempt, List.mem_cons_self, rfl⟩

theorem reachable_learnt : Reachable learnt := by
  have fresh (party : Party) : ∃ pacing family first,
      (engines party).table = new pacing family first := by
    cases party <;> exact ⟨_, _, _, rfl⟩
  have requests : 0 < (asked .left).sent.length := by decide +kernel
  have answers : 0 < (answered .right).sent.length := by decide +kernel
  have afterAsking : Reachable asked := by
    refine .strike (.start fresh) .left _ _ _ ?_
    rintro datagram source ⟨⟩
  have afterAnswering : Reachable answered := reachable_delivery afterAsking .right requests _ _
  exact reachable_delivery afterAnswering .left answers _ _

theorem known_is_confirmed_learnt :
    Reachable learnt ∧ (issued (learnt .left).log).length < UInt32.size ∧
      ∃ remote, (learnt .left).engine.table.get? "gateway" = some remote ∧
        (remote.probe .viaPrivate).known = some false ∧
        remote.endpoint.identity = (learnt .right).engine.home.identity ∧
        ∃ reception ∈ (learnt .right).received,
          (reception.home.answer reception.request reception.source reception.family).verdict =
            .direct := by
  have few : (issued (learnt .left).log).length < UInt32.size := by decide +kernel
  have knows : ((learnt .left).engine.table.get? "gateway").map
      (fun remote => (remote.probe .viaPrivate).known) = some (some false) := by decide +kernel
  obtain ⟨remote, present, known⟩ := Option.map_eq_some_iff.1 knows
  obtain ⟨identity, -, -, -, -, reception, -, -, -, -, -, -, -, -, received, -, verdict⟩ :=
    known_is_confirmed reachable_learnt .left few present known
  exact ⟨reachable_learnt, few, remote, present, known, identity, reception, received, verdict⟩

end Meeting
end NatReach
