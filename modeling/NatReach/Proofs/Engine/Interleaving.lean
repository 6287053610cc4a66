import NatReach.Proofs.Engine.Delivery
import NatReach.Proofs.Engine.Independence
import NatReach.Proofs.Engine.Rejection
import NatReach.Proofs.PeerTable.Gapless

/-!
# Calls at the same time

Several calls may be under way on one gateway. Each goes through its stroke on the table at once, and then
sends one message after the other, while other calls do the same. So between a stroke and the messages
that it asks for, anything may happen to the table. Still every request is on record from before it is
sent until it is repeated, or the discovery of its endpoint begins anew or ends.
-/
namespace NatReach
open PeerTable

/-! ## Requests stay on record -/

namespace PeerTable
variable {log : List Event} {table : PeerTable}

def Kept (log : List Event) (table : PeerTable) : Prop :=
  ∀ before order later, log = before ++ .asked order :: later →
    OnRecord table order ∨ Superseded order later

theorem OnRecord.perform {order : ProbeOrder} (recorded : OnRecord table order) (keyed : Keyed table)
    (operation : Operation) :
    OnRecord (table.perform operation).2 order ∨ Superseded order (table.perform operation).1 := by
  by_cases superseded : Superseded order (table.perform operation).1
  · exact .inr superseded
  · obtain ⟨events, changes, same⟩ := perform_changes table operation
    rw [← same.superseded_iff] at superseded
    exact .inl (recorded.changes keyed changes superseded)

theorem Kept.perform (kept : Kept log table) (keyed : Keyed table) {operation : Operation}
    (comesOnce : operation.comesOnce) :
    Kept (log ++ (table.perform operation).1) (table.perform operation).2 := by
  intro before order later split
  have new (asked : .asked order ∈ (table.perform operation).1) :
      OnRecord (table.perform operation).2 order :=
    perform_onRecord keyed comesOnce order (List.mem_filterMap.2 ⟨_, asked, rfl⟩)
  -- the request is one of this operation, or an older one that the operation may supersede
  rcases List.append_eq_append_iff.1 split with ⟨more, -, events⟩ | ⟨more, old, rest⟩
  · exact .inl (new (by rw [events]; simp))
  · cases more with
    | nil => exact .inl (new (by rw [List.nil_append] at rest; rw [← rest]; exact List.mem_cons_self))
    | cons event more =>
        rw [List.cons_append, List.cons.injEq] at rest
        obtain ⟨rfl, rfl⟩ := rest
        rw [superseded_append]
        rcases kept before order more old with recorded | superseded
        · exact (recorded.perform keyed operation).imp_right .inr
        · exact .inr (.inl superseded)

theorem Kept.run (kept : Kept log table) (keyed : Keyed table) {operations : List Operation}
    (once : ∀ operation ∈ operations, operation.comesOnce) :
    Kept (log ++ (PeerTable.run operations table).1) (PeerTable.run operations table).2 := by
  induction operations generalizing log table with
  | nil => simpa [PeerTable.run] using kept
  | cons operation rest ih =>
      have here := kept.perform keyed (once operation List.mem_cons_self)
      obtain ⟨events, changes, -⟩ := perform_changes table operation
      have later := ih here (changes.keyed keyed) fun other member =>
        once other (List.mem_cons_of_mem _ member)
      rw [List.append_assoc] at later
      exact later

theorem Ran.keyed (ran : Ran log table) : Keyed table := by
  obtain ⟨pacing, family, first, operations, ran⟩ := ran
  obtain ⟨events, changes, -⟩ := run_changes operations (.new pacing family first)
  rw [ran] at changes
  exact changes.keyed (Agrees.new pacing family first).keyed

theorem Ran.counts (ran : Ran log table) (few : (issued log).length ≤ UInt32.size) {order : ProbeOrder}
    {remote : Remote} (present : table.get? order.id = some remote)
    (last : (remote.probe order.role).lastRequest = some order.number) {source : Ip}
    (here : order.role = .viaPrivate → remote.ip? .viaPrivate = some source) :
    remote.Counts order.number source order.role := by
  obtain ⟨nodup, agrees⟩ := ran.agrees few
  cases role : order.role with
  | viaPublic =>
      rw [role] at last
      exact last
  | viaPrivate =>
      rw [role] at last
      refine ⟨fun lastToo => ?_, last, here role⟩
      -- the number is on record for one role, so the answer cannot be taken for one to the public role
      have lastToo : (remote.probe .viaPublic).lastRequest = some order.number := lastToo
      obtain ⟨story, tells, told⟩ := agrees.exists_story present
      have different := agrees.different nodup tells
      have ofPrivate := (told.roleOf?_eq different last).1
      rw [(told.roleOf?_eq different lastToo).1] at ofPrivate
      cases ofPrivate

end PeerTable

/-! ## What is under way -/

/-- What a call has still to send. A request is put together when its turn comes. -/
inductive Parcel where
  | probe (order : ProbeOrder)
  | reply (outgoing : Outgoing)
deriving DecidableEq

def Parcel.outgoing (view : Engine) : Parcel → Outgoing
  | .probe order => view.outgoing order
  | .reply outgoing => outgoing

namespace Engine

def parcels (engine : Engine) (now : Nat) (deed : Deed) : List Parcel :=
  (issued (PeerTable.run (engine.operations now deed) engine.table).1).map .probe ++
    (engine.heard deed).map fun reception => .reply reception.reply

theorem outgoing_parcels (engine : Engine) (now : Nat) (deed : Deed) :
    (engine.parcels now deed).map (Parcel.outgoing engine) = (engine.strike now deed).outgoing := by
  rw [(engine.strike_amounts now deed).sends, parcels, List.map_append, List.map_map, List.map_map]
  rfl

end Engine

/-- What all calls share, what each has still to send, and what was handed to the network. -/
structure Shared where
  table : PeerTable
  log : List Event := []
  errands : List (List Parcel) := []
  sent : List (Parcel × Attempt) := []

/-- What one of the calls does. What it sees of the gateway beside the table may be out of date. -/
inductive Move where
  | enter (view : Engine) (now : Nat) (deed : Deed)
  | send (errand : Nat) (view : Engine)

namespace Move

def isEnter : Move → Bool
  | enter .. => true
  | send .. => false

def comesOnce : Move → Prop
  | enter _ _ (.tickAlong walk) => walk.Nodup
  | _ => True

end Move

namespace Shared

def engine (shared : Shared) (view : Engine) : Engine :=
  { view with table := shared.table }

def step (network : Network) (shared : Shared) : Move → Shared
  | .enter view now deed =>
    let engine := shared.engine view
    { shared with
      table := (engine.strike now deed).engine.table
      log := shared.log ++ (PeerTable.run (engine.operations now deed) engine.table).1
      errands := shared.errands ++ [engine.parcels now deed] }
  | .send errand view =>
    match shared.errands[errand]? with
    | some (parcel :: rest) =>
      let outgoing := parcel.outgoing view
      { shared with
        errands := shared.errands.set errand rest
        sent := shared.sent ++
          if outgoing.fits then [(parcel, outgoing.attempt network shared.sent.length)] else [] }
    | _ => shared

def after (network : Network) (shared : Shared) (moves : List Move) : Shared :=
  moves.foldl (step network) shared

/-- That a request was planned by one of the calls, and is to be sent or was sent. -/
def Planned (shared : Shared) (order : ProbeOrder) : Prop :=
  (∃ errand ∈ shared.errands, .probe order ∈ errand) ∨
    ∃ attempt, (.probe order, attempt) ∈ shared.sent

/-- What holds of the table and of all that is under way. -/
structure Orderly (shared : Shared) : Prop where
  ran : Ran shared.log shared.table
  kept : Kept shared.log shared.table
  told : ∀ order, shared.Planned order → order ∈ issued shared.log
  tried : ∀ parcel attempt, (parcel, attempt) ∈ shared.sent →
    ∃ view, attempt.outgoing = parcel.outgoing view

section
variable {network : Network} {shared : Shared}

theorem table_enter (network : Network) (shared : Shared) (view : Engine) (now : Nat) (deed : Deed) :
    (shared.step network (.enter view now deed)).table =
      (PeerTable.run ((shared.engine view).operations now deed) shared.table).2 :=
  congrArg Engine.table ((shared.engine view).strike_amounts now deed).changed

theorem comesOnce_operations {engine view : Engine} {now : Nat} {deed : Deed}
    (once : (Move.enter view now deed).comesOnce) :
    ∀ operation ∈ engine.operations now deed, operation.comesOnce := by
  apply Engine.forall_operations
  · exact fun _ _ _ => trivial
  · exact fun _ _ => trivial
  · exact fun _ => trivial
  · rintro walk (rfl | rfl)
    · exact once
    · exact nodup_walk (.refl _)
  · exact fun _ _ _ _ _ => trivial

theorem Orderly.new (pacing : Pacing) (family : Family) (first : UInt32) :
    Orderly { table := .new pacing family first } := by
  refine ⟨.new pacing family first, ?_, ?_, fun _ _ member => absurd member List.not_mem_nil⟩
  · intro before order later split
    simp at split
  · rintro order (⟨errand, member, -⟩ | ⟨attempt, member⟩)
    · cases member
    · cases member

theorem Orderly.enter (orderly : shared.Orderly) {view : Engine} {now : Nat} {deed : Deed}
    (once : (Move.enter view now deed).comesOnce) :
    (shared.step network (.enter view now deed)).Orderly where
  ran := by
    rw [table_enter]
    exact orderly.ran.run _
  kept := by
    rw [table_enter]
    exact orderly.kept.run orderly.ran.keyed (comesOnce_operations once)
  told := by
    intro order planned
    change order ∈ issued (shared.log ++ _)
    rw [issued_append, List.mem_append]
    rcases planned with ⟨errand, member, inside⟩ | ⟨attempt, member⟩
    · rcases List.mem_append.1 member with before | new
      · exact .inl (orderly.told order (.inl ⟨errand, before, inside⟩))
      · rw [List.mem_singleton.1 new, Engine.parcels] at inside
        exact .inr (by simpa using inside)
    · exact .inl (orderly.told order (.inr ⟨attempt, member⟩))
  tried := orderly.tried

theorem step_send {errand : Nat} {parcel : Parcel} {rest : List Parcel}
    (found : shared.errands[errand]? = some (parcel :: rest)) (view : Engine) :
    shared.step network (.send errand view) =
      { shared with
        errands := shared.errands.set errand rest
        sent := shared.sent ++ if (parcel.outgoing view).fits then
          [(parcel, (parcel.outgoing view).attempt network shared.sent.length)] else [] } := by
  simp only [step, found]

theorem step_idle {errand : Nat}
    (idle : ∀ parcel rest, shared.errands[errand]? ≠ some (parcel :: rest)) (view : Engine) :
    shared.step network (.send errand view) = shared := by
  simp only [step]

theorem Orderly.send (orderly : shared.Orderly) (errand : Nat) (view : Engine) :
    (shared.step network (.send errand view)).Orderly := by
  by_cases waits : ∃ parcel rest, shared.errands[errand]? = some (parcel :: rest)
  · obtain ⟨parcel, rest, found⟩ := waits
    have listed := List.mem_of_getElem? found
    have tried (other : Parcel) (attempt : Attempt) (member : (other, attempt) ∈ shared.sent ++
        if (parcel.outgoing view).fits then
          [(parcel, (parcel.outgoing view).attempt network shared.sent.length)] else []) :
        (other, attempt) ∈ shared.sent ∨ other = parcel ∧ attempt.outgoing = parcel.outgoing view := by
      rcases List.mem_append.1 member with before | new
      · exact .inl before
      · split at new
        · cases List.mem_singleton.1 new
          exact .inr ⟨rfl, rfl⟩
        · cases new
    rw [step_send found]
    refine ⟨orderly.ran, orderly.kept, ?_, ?_⟩
    · rintro order (⟨other, member, inside⟩ | ⟨attempt, member⟩)
      · rcases List.mem_or_eq_of_mem_set member with before | rfl
        · exact orderly.told order (.inl ⟨other, before, inside⟩)
        · exact orderly.told order (.inl ⟨_, listed, List.mem_cons_of_mem _ inside⟩)
      · rcases tried _ attempt member with before | ⟨rfl, -⟩
        · exact orderly.told order (.inr ⟨attempt, before⟩)
        · exact orderly.told order (.inl ⟨_, listed, List.mem_cons_self⟩)
    · intro other attempt member
      rcases tried other attempt member with before | ⟨rfl, sent⟩
      · exact orderly.tried other attempt before
      · exact ⟨view, sent⟩
  · rw [step_idle fun parcel rest found => waits ⟨parcel, rest, found⟩]
    exact orderly

theorem after_orderly (orderly : shared.Orderly) {moves : List Move}
    (once : ∀ move ∈ moves, move.comesOnce) : (shared.after network moves).Orderly := by
  induction moves generalizing shared with
  | nil => exact orderly
  | cons move rest ih =>
      refine ih ?_ fun other member => once other (List.mem_cons_of_mem _ member)
      cases move with
      | enter view now deed => exact orderly.enter (once _ List.mem_cons_self)
      | send errand view => exact orderly.send errand view

theorem Orderly.accepts (orderly : shared.Orderly) (few : (issued shared.log).length ≤ UInt32.size)
    {order : ProbeOrder} {remote : Remote} (present : shared.table.get? order.id = some remote)
    (last : (remote.probe order.role).lastRequest = some order.number) {view : Engine} {now : Nat}
    {datagram : List UInt8} {source : SocketAddress} {response : Response} {nat : Bool}
    (decoded : Datagram.decode datagram = .ok (.response response))
    (usable : Engine.usable response = .ok (order.id, nat)) (number : response.number = order.number)
    (here : order.role = .viaPrivate → remote.ip? .viaPrivate = some source.ip.canonical) :
    let stroke := (shared.engine view).receive datagram source now
    stroke.error = none ∧ ∃ after, stroke.engine.table.get? order.id = some after ∧
      (after.probe order.role).progress = .resolved nat := by
  have counts := orderly.ran.counts few present last here
  rw [← number] at counts
  have taken : shared.table.respond order.id response.number source.ip.canonical nat now = _ :=
    respond_of_counts present counts
  rw [Engine.receive_of_taken decoded usable taken]
  refine ⟨rfl, _, get?_put_self .., ?_⟩
  rw [Remote.probe_accept, if_pos rfl]
  exact Probe.progress_settle ..

theorem after_enters (network network' : Network) {other : Shared} (table : shared.table = other.table)
    (log : shared.log = other.log) (moves : List Move) :
    (shared.after network moves).table = (other.after network' (moves.filter Move.isEnter)).table ∧
      (shared.after network moves).log = (other.after network' (moves.filter Move.isEnter)).log := by
  induction moves generalizing shared other with
  | nil => exact ⟨table, log⟩
  | cons move rest ih =>
      cases move with
      | enter view now deed =>
          refine ih ?_ ?_
          · rw [table_enter, table_enter, engine, engine, table]
          · simp only [step, engine, table, log]
      | send errand view =>
          have same : (shared.step network (.send errand view)).table = shared.table ∧
              (shared.step network (.send errand view)).log = shared.log := by
            simp only [step]
            split <;> exact ⟨rfl, rfl⟩
          exact ih (same.1.trans table) (same.2.trans log)

/-! ## One call after the other -/

theorem after_sends {errand : Nat} {parcels : List Parcel}
    (found : shared.errands[errand]? = some parcels) (view : Engine) :
    let later := shared.after network (List.replicate parcels.length (.send errand view))
    later.table = shared.table ∧
      later.sent.map Prod.snd = shared.sent.map Prod.snd ++
        ((parcels.map (Parcel.outgoing view)).filter Outgoing.fits).mapIdx fun index outgoing =>
          outgoing.attempt network (shared.sent.length + index) := by
  induction parcels generalizing shared with
  | nil => exact ⟨rfl, by simp [after]⟩
  | cons parcel rest ih =>
      have inside := (List.getElem?_eq_some_iff.1 found).1
      have next := @step_send network _ _ _ _ found view
      have left : (shared.step network (.send errand view)).errands[errand]? = some rest := by
        rw [next]
        exact List.getElem?_set_self inside
      obtain ⟨table, sent⟩ := ih left
      refine ⟨table.trans (by rw [next]), sent.trans ?_⟩
      rw [next, List.map_append, List.append_assoc, List.map_cons]
      congr 1
      cases fits : (parcel.outgoing view).fits with
      | false => simp [fits]
      | true => simp [fits, List.mapIdx_cons, Nat.add_assoc, Nat.add_comm 1]

theorem after_alone (network : Network) (shared : Shared) (view : Engine) (now : Nat) (call : Call) :
    let engine := shared.engine view
    let entered := shared.step network (.enter view now (.call call))
    let sends := List.replicate (engine.parcels now (.call call)).length
      (Move.send shared.errands.length engine)
    let report := engine.run (network.after shared.sent.length) now call
    (entered.after network sends).table = report.engine.table ∧
      (entered.after network sends).sent.map Prod.snd = shared.sent.map Prod.snd ++ report.attempts := by
  intro engine entered sends report
  have found : entered.errands[shared.errands.length]? = some (engine.parcels now (.call call)) :=
    List.getElem?_concat_length
  obtain ⟨same, sent⟩ := @after_sends network _ _ _ found engine
  refine ⟨same, sent.trans ?_⟩
  have tried : report.attempts = _ := sendAll_attempts _ 0 (engine.stroke now call).outgoing
  rw [tried, engine.outgoing_parcels]
  simp only [Nat.zero_add]
  rfl

end
end Shared

/-- However calls are interleaved, every request that was sent or waits to be sent is on record, unless its
target was asked again since, or the discovery of its endpoint began anew or ended. As long as that is so,
and as long as no number has come round, an answer to the request is accepted at any time and
resolves its role; an answer from a private address must be seen to come from that address. What is
on record follows from the strokes of the calls alone, whatever is sent in between. -/
theorem recorded_before_sent {pacing : Pacing} {family : Family} {first : UInt32} (network : Network)
    {moves : List Move} (once : ∀ move ∈ moves, move.comesOnce) :
    let shared := Shared.after network { table := new pacing family first } moves
    (∀ order, shared.Planned order →
      ∃ before later, shared.log = before ++ .asked order :: later ∧
        (OnRecord shared.table order ∨ Superseded order later)) ∧
    (∀ parcel attempt, (parcel, attempt) ∈ shared.sent →
      ∃ view, attempt.outgoing = parcel.outgoing view) ∧
    ((issued shared.log).length ≤ UInt32.size → ∀ before order later,
      shared.log = before ++ .asked order :: later → ¬ Superseded order later →
      ∃ remote, shared.table.get? order.id = some remote ∧
        ∀ (view : Engine) now datagram source response nat,
          Datagram.decode datagram = .ok (.response response) →
          Engine.usable response = .ok (order.id, nat) → response.number = order.number →
          (order.role = .viaPrivate → remote.ip? .viaPrivate = some source.ip.canonical) →
          let stroke := (shared.engine view).receive datagram source now
          stroke.error = none ∧ ∃ after, stroke.engine.table.get? order.id = some after ∧
            (after.probe order.role).progress = .resolved nat) ∧
    ∀ network', (Shared.after network' { table := new pacing family first }
        (moves.filter Move.isEnter)).table = shared.table ∧
      (Shared.after network' { table := new pacing family first }
        (moves.filter Move.isEnter)).log = shared.log := by
  intro shared
  have orderly : shared.Orderly := Shared.after_orderly (.new pacing family first) once
  refine ⟨?_, orderly.tried, ?_, ?_⟩
  · intro order planned
    obtain ⟨event, member, asked⟩ := List.mem_filterMap.1 (orderly.told order planned)
    obtain ⟨before, later, split⟩ := List.append_of_mem member
    cases event with
    | asked other =>
        cases asked
        exact ⟨before, later, split, orderly.kept before order later split⟩
    | _ => cases asked
  · intro few before order later split stands
    obtain ⟨remote, present, last⟩ := (orderly.kept before order later split).resolve_right stands
    exact ⟨remote, present, fun view now datagram source response nat =>
      orderly.accepts few present last⟩
  · intro network'
    obtain ⟨table, log⟩ := Shared.after_enters network network' rfl rfl moves
    exact ⟨table.symm, log.symm⟩

namespace Rush
open Forgery

def moves : List Move :=
  [.enter (hub 7) 0 (.call (.add twoAddresses)),
    .enter (hub 7) 1 (.call (.add { twoAddresses with cable := "branch" })), .send 0 (hub 7),
    .enter (hub 7) 2 (.call (.check "branch")), .send 1 (hub 7),
    .enter (hub 7) 3 (.tickAlong ["gateway", "branch"]), .send 2 (hub 7),
    .enter (hub 7) 4 (.call (.remove "branch")), .send 2 (hub 7)]

def shared : Shared := Shared.after network { table := new {} .v4 7 } moves

def early : ProbeOrder := ⟨"gateway", ⟨"west", "gateway"⟩, .viaPrivate, 7, .v4 ⟨10, 0, 0, 7⟩ 4490⟩

def late : ProbeOrder := ⟨"branch", ⟨"west", "branch"⟩, .viaPublic, 10, .v4 ⟨198, 51, 100, 7⟩ 4490⟩

theorem recorded_before_sent_rush :
    (∀ move ∈ moves, move.comesOnce) ∧ (∃ errand ∈ shared.errands, .probe late ∈ errand) ∧
      (∃ before later, shared.log = before ++ .asked late :: later ∧ Superseded late later) ∧
      let stroke := (shared.engine (hub 7)).receive (datagram 7 .direct) (.v4 ⟨10, 0, 0, 7⟩ 4490) 5
      stroke.error = none ∧ ∃ after, stroke.engine.table.get? "gateway" = some after ∧
        (after.probe .viaPrivate).progress = .resolved false := by
  have once : ∀ move ∈ moves, move.comesOnce := by
    simp [moves, Move.comesOnce]
  have waits : ∃ errand ∈ shared.errands, .probe late ∈ errand := by decide +kernel
  have few : (issued shared.log).length ≤ UInt32.size := by decide +kernel
  have split : shared.log = shared.log.take 1 ++ .asked early :: shared.log.drop 2 := by decide +kernel
  have stands : ¬ Superseded early (shared.log.drop 2) := by decide +kernel
  have gone : (shared.table.get? "branch").isNone = true := by decide +kernel
  have address : (shared.table.get? "gateway").map (fun remote => remote.ip? .viaPrivate) =
      some (some (.v4 ⟨10, 0, 0, 7⟩)) := by decide +kernel
  have direct : Verdict.direct.isLasting := by
    intro code unrecognized
    cases unrecognized
  have decoded := decode_datagram 7 direct (by decide +kernel)
  obtain ⟨planned, -, accepted, -⟩ := @recorded_before_sent {} .v4 7 network moves once
  rw [show Shared.after network { table := new {} .v4 7 } moves = shared from rfl] at planned accepted
  generalize shared = shared at waits few split stands gone address planned accepted ⊢
  refine ⟨once, waits, ?_, ?_⟩
  · obtain ⟨before, later, told, recorded | superseded⟩ := planned late (.inl waits)
    · obtain ⟨remote, present, -⟩ := recorded
      rw [show shared.table.get? "branch" = some remote from present] at gone
      cases gone
    · exact ⟨before, later, told, superseded⟩
  · obtain ⟨remote, present, takes⟩ := accepted few _ early _ split stands
    rw [show shared.table.get? "gateway" = some remote from present] at address
    have usable : Engine.usable (reply 7 .direct) = .ok ("gateway", false) := rfl
    have source : remote.ip? .viaPrivate = some (.v4 ⟨10, 0, 0, 7⟩) := Option.some.inj address
    exact takes (hub 7) 5 (datagram 7 .direct) (.v4 ⟨10, 0, 0, 7⟩ 4490) (reply 7 .direct) false
      decoded usable rfl fun _ => source

def mapped : Endpoint :=
  { twoAddresses with privateIps := .ofList [.v6 (Ipv4.mapped ⟨10, 0, 0, 7⟩)] }

/-- The answer to a request on record is refused if it comes from such an address. -/
theorem mapped_address_refused :
    let source : SocketAddress := .ofIp (.v6 (Ipv4.mapped ⟨10, 0, 0, 7⟩)) 4490
    let shared := Shared.after network { table := new {} .v6 7 }
      [.enter (hub 7) 0 (.call (.add mapped)), .send 0 (hub 7)]
    shared.sent.map (fun entry => entry.2.outgoing.destination) = [source] ∧
      (shared.table.get? "gateway").map (fun remote =>
        (remote.viaPrivate.lastRequest, remote.ip? .viaPrivate)) = some (some 7, some source.ip) ∧
      Engine.usable (reply 7 .direct) = .ok ("gateway", false) ∧
      ((shared.engine (hub 7)).receive (datagram 7 .direct) source 5).error =
        some (.rejected (.foreignSource "gateway" (some source.ip) (.v4 ⟨10, 0, 0, 7⟩))) := by
  refine ⟨by decide +kernel, by decide +kernel, rfl, by decide +kernel⟩

end Rush

end NatReach
