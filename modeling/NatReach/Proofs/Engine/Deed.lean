import NatReach.Engine.Basic
import NatReach.Proofs.PeerTable.Chronicle

namespace NatReach
open PeerTable

/-- What an engine is made to do: a call, or a tick that comes to the remotes in any order. -/
inductive Deed where
  | call (call : Call)
  | tickAlong (walk : List String)

def Deed.isReceive : Deed → Bool
  | call (.receive ..) => true
  | _ => false

theorem Deed.exists_of_isReceive {deed : Deed} (receives : deed.isReceive = true) :
    ∃ datagram source, deed = call (.receive datagram source) := by
  cases deed with
  | tickAlong => cases receives
  | call call => cases call <;> first | exact ⟨_, _, rfl⟩ | cases receives

structure Reception where
  request : Request
  source : SocketAddress
  home : Endpoint
  family : Family

def Reception.answer (reception : Reception) : Response :=
  reception.home.answer reception.request reception.source reception.family

def Reception.reply (reception : Reception) : Outgoing :=
  ⟨.response reception.answer, reception.source⟩

namespace Engine

def tickAlong (engine : Engine) (walk : List String) (now : Nat) : Stroke :=
  let (round, table) := tickInOrder now walk engine.table
  { engine := { engine with table }
    routes := engine.publish round.fallbacks
    outgoing := round.orders.map engine.outgoing }

theorem tick_eq_tickAlong (engine : Engine) (now : Nat) :
    engine.tick now = engine.tickAlong engine.table.remotes.keys now := rfl

def strike (engine : Engine) (now : Nat) : Deed → Stroke
  | .call call => engine.stroke now call
  | .tickAlong walk => engine.tickAlong walk now

def additions (table : PeerTable) (endpoint : Endpoint) (now : Nat) : List Operation :=
  match (table.add endpoint now).1 with
  | .added | .replaced => [.add endpoint now, .plan endpoint.cable now]
  | _ => [.add endpoint now]

def receptions (source : SocketAddress) (now : Nat) : Except DatagramError Message → List Operation
  | .ok (.response response) =>
    match usable response with
    | .ok (sender, nat) => [.respond sender response.number source.ip.canonical nat now]
    | .error _ => []
  | _ => []

def operations (engine : Engine) (now : Nat) : Deed → List Operation
  | .call (.add endpoint) =>
    if endpoint.cluster = engine.home.cluster then [] else additions engine.table endpoint now
  | .call (.remove id) => [.remove id]
  | .call (.check id) => [.plan id now]
  | .call .tick => [.tick engine.table.remotes.keys now]
  | .call (.receive datagram source) => receptions source now (Datagram.decode datagram)
  | .tickAlong walk => [.tick walk now]

def hearings (engine : Engine) (source : SocketAddress) :
    Except DatagramError Message → List Reception
  | .ok (.request request) => [⟨request, source, engine.home, engine.table.family⟩]
  | _ => []

def heard (engine : Engine) : Deed → List Reception
  | .call (.receive datagram source) => engine.hearings source (Datagram.decode datagram)
  | _ => []

theorem operations_receive (engine : Engine) (now : Nat) (datagram : List UInt8)
    (source : SocketAddress) :
    engine.operations now (.call (.receive datagram source)) =
      receptions source now (Datagram.decode datagram) := rfl

theorem receptions_of_usable {response : Response} {sender : String} {nat : Bool}
    (parts : usable response = .ok (sender, nat)) (source : SocketAddress) (now : Nat) :
    receptions source now (.ok (.response response)) =
      [.respond sender response.number source.ip.canonical nat now] := by
  simp only [receptions, parts]

theorem receptions_of_unusable {response : Response} {reason : EngineError}
    (parts : usable response = .error reason) (source : SocketAddress) (now : Nat) :
    receptions source now (.ok (.response response)) = [] := by
  simp only [receptions, parts]

theorem additions_shape (table : PeerTable) (endpoint : Endpoint) (now : Nat) :
    additions table endpoint now = [.add endpoint now] ∨
      additions table endpoint now = [.add endpoint now, .plan endpoint.cable now] := by
  unfold additions
  split
  · exact .inr rfl
  · exact .inr rfl
  · exact .inl rfl

theorem receptions_shape (source : SocketAddress) (now : Nat) (decoded : Except DatagramError Message) :
    receptions source now decoded = [] ∨ ∃ id number nat,
      receptions source now decoded = [.respond id number source.ip.canonical nat now] := by
  unfold receptions
  split
  · split
    · exact .inr ⟨_, _, _, rfl⟩
    · exact .inl rfl
  · exact .inl rfl

theorem mem_additions {table : PeerTable} {endpoint : Endpoint} {now : Nat} {operation : Operation}
    (member : operation ∈ additions table endpoint now) :
    operation = .add endpoint now ∨ operation = .plan endpoint.cable now := by
  rcases additions_shape table endpoint now with alone | asked
  · rw [alone, List.mem_singleton] at member
    exact .inl member
  · rw [asked] at member
    simpa using member

theorem mem_receptions {source : SocketAddress} {now : Nat} {decoded : Except DatagramError Message}
    {operation : Operation} (member : operation ∈ receptions source now decoded) :
    ∃ id number nat, operation = .respond id number source.ip.canonical nat now := by
  rcases receptions_shape source now decoded with nothing | ⟨id, number, nat, single⟩
  · rw [nothing] at member
    cases member
  · rw [single, List.mem_singleton] at member
    exact ⟨id, number, nat, member⟩

/-! ## What a deed amounts to -/

/-- That operations on the table and requests that came in account for an outcome. -/
structure Amounts (engine : Engine) (operations : List Operation) (heard : List Reception)
    (stroke : Stroke) : Prop where
  changed : stroke.engine = { engine with table := (PeerTable.run operations engine.table).2 }
  sends : stroke.outgoing =
    (issued (PeerTable.run operations engine.table).1).map engine.outgoing ++ heard.map Reception.reply

variable {engine : Engine}

theorem amounts_nothing {stroke : Stroke} (same : stroke.engine = engine)
    (silent : stroke.outgoing = []) : Amounts engine [] [] stroke :=
  ⟨same, silent⟩

theorem amounts_single {operation : Operation} {stroke : Stroke}
    (changed : stroke.engine = { engine with table := (engine.table.perform operation).2 })
    (sends : stroke.outgoing =
      (issued (engine.table.perform operation).1).map engine.outgoing) :
    Amounts engine [operation] [] stroke := by
  constructor
  · rw [run_singleton]
    exact changed
  · rw [run_singleton, List.map_nil, List.append_nil]
    exact sends

theorem check_amounts (id : String) (now : Nat) :
    Amounts engine [.plan id now] [] (engine.check id now) := by
  refine amounts_single rfl ?_
  simp [check, perform]

theorem tickAlong_amounts (walk : List String) (now : Nat) :
    Amounts engine [.tick walk now] [] (engine.tickAlong walk now) := by
  refine amounts_single rfl ?_
  simp [tickAlong, perform, Round.events]

theorem add_amounts (endpoint : Endpoint) (now : Nat) :
    Amounts engine
      (if endpoint.cluster = engine.home.cluster then [] else additions engine.table endpoint now) []
      (engine.add endpoint now) := by
  unfold add
  split
  · exact amounts_nothing rfl rfl
  · unfold additions
    dsimp only
    have planned : Amounts { engine with table := (engine.table.add endpoint now).2 }
        [.plan endpoint.cable now] [] _ := check_amounts endpoint.cable now
    have both (asks : (engine.table.add endpoint now).1.events endpoint = [.tracked endpoint]) :
        Amounts engine [.add endpoint now, .plan endpoint.cable now] []
          ({ engine with table := (engine.table.add endpoint now).2 }.check endpoint.cable now) := by
      refine ⟨planned.changed, planned.sends.trans ?_⟩
      have silent : issued ((engine.table.add endpoint now).1.events endpoint) = [] := by
        rw [asks]
        rfl
      have later : (PeerTable.run [.add endpoint now, .plan endpoint.cable now] engine.table).1 =
          (engine.table.add endpoint now).1.events endpoint ++
            (PeerTable.run [.plan endpoint.cable now] (engine.table.add endpoint now).2).1 := rfl
      rw [later, issued_append, silent]
      rfl
    cases admission : (engine.table.add endpoint now).1 with
    | added => exact both (by rw [admission]; rfl)
    | replaced => exact both (by rw [admission]; rfl)
    | unchanged =>
        refine amounts_single rfl ?_
        simp [perform, admission, Admission.events, issued]
    | legacy route =>
        refine amounts_single rfl ?_
        simp [perform, admission, Admission.events, issued, Event.order?]

theorem respond_of_usable {response : Response} {sender : String} {nat : Bool}
    (parts : usable response = .ok (sender, nat)) (source : SocketAddress) (now : Nat) :
    engine.respond response source now =
      let result := engine.table.respond sender response.number source.ip.canonical nat now
      (result.1.mapError .rejected, result.2) := by
  unfold respond
  rw [parts]

theorem respond_of_unusable {response : Response} {reason : EngineError}
    (parts : usable response = .error reason) (source : SocketAddress) (now : Nat) :
    engine.respond response source now = (.error reason, engine.table) := by
  unfold respond
  rw [parts]

theorem takeResponse_of_ok {response : Response} {source : SocketAddress} {now : Nat}
    {route : Option Route} {table : PeerTable}
    (accepted : engine.respond response source now = (.ok route, table)) :
    engine.takeResponse response source now =
      { engine := { engine with table }, routes := engine.publish route.toList } := by
  unfold takeResponse
  rw [accepted]
  rfl

theorem takeResponse_of_error {response : Response} {source : SocketAddress} {now : Nat}
    {reason : EngineError} {table : PeerTable}
    (refused : engine.respond response source now = (.error reason, table)) :
    engine.takeResponse response source now =
      { engine := { engine with table }, error := some reason } := by
  unfold takeResponse
  rw [refused]

theorem receive_of_taken {datagram : List UInt8} {response : Response} {name : String} {nat : Bool}
    {source : SocketAddress} {now : Nat} {route : Option Route} {table : PeerTable}
    (decoded : Datagram.decode datagram = .ok (.response response))
    (parts : usable response = .ok (name, nat))
    (taken : engine.table.respond name response.number source.ip.canonical nat now =
      (.ok route, table)) :
    engine.receive datagram source now =
      { engine := { engine with table }, routes := engine.publish route.toList } := by
  have accepted : engine.respond response source now = (.ok route, table) := by
    rw [respond_of_usable parts, taken]
    rfl
  unfold receive
  rw [decoded]
  exact takeResponse_of_ok accepted

/-- A response cannot be used, or the table rejects it, or it changes the table. -/
theorem takeResponse_cases (engine : Engine) (response : Response) (source : SocketAddress) (now : Nat) :
    (∃ reason, usable response = .error reason ∧
      engine.takeResponse response source now = { engine, error := some reason }) ∨
    ∃ sender nat, usable response = .ok (sender, nat) ∧
      ((∃ reason,
        (engine.table.respond sender response.number source.ip.canonical nat now).1 = .error reason ∧
        engine.takeResponse response source now = { engine, error := some (.rejected reason) }) ∨
      ∃ route table,
        engine.table.respond sender response.number source.ip.canonical nat now = (.ok route, table) ∧
        engine.takeResponse response source now =
          { engine := { engine with table }, routes := engine.publish route.toList }) := by
  cases parts : usable response with
  | error reason =>
      exact .inl ⟨reason, rfl, takeResponse_of_error (respond_of_unusable parts source now)⟩
  | ok part =>
      obtain ⟨sender, nat⟩ := part
      have taken : engine.respond response source now = _ := respond_of_usable parts source now
      refine .inr ⟨sender, nat, rfl, ?_⟩
      cases answer : engine.table.respond sender response.number source.ip.canonical nat now with
      | mk result table =>
          rw [answer] at taken
          cases result with
          | error reason =>
              have same := respond_of_error (congrArg Prod.fst answer)
              obtain rfl := congrArg Prod.snd (answer.symm.trans same)
              exact .inl ⟨reason, rfl, takeResponse_of_error taken⟩
          | ok route => exact .inr ⟨route, table, rfl, takeResponse_of_ok taken⟩

theorem takeResponse_amounts (response : Response) (source : SocketAddress) (now : Nat) :
    Amounts engine (receptions source now (.ok (.response response))) []
      (engine.takeResponse response source now) := by
  rcases engine.takeResponse_cases response source now with
    ⟨reason, parts, outcome⟩ | ⟨sender, nat, parts, ⟨reason, rejected, outcome⟩ |
      ⟨route, table, answer, outcome⟩⟩
  · rw [outcome, receptions_of_unusable parts]
    exact amounts_nothing rfl rfl
  · rw [outcome, receptions_of_usable parts]
    refine amounts_single ?_ ?_
    · rw [perform_of_error rejected]
    · rw [perform_of_error rejected]
      rfl
  · rw [outcome, receptions_of_usable parts]
    refine amounts_single ?_ ?_
    · rw [perform_of_ok answer]
    · rw [perform_of_ok answer]
      rfl

theorem receive_amounts (datagram : List UInt8) (source : SocketAddress) (now : Nat) :
    Amounts engine (receptions source now (Datagram.decode datagram))
      (engine.hearings source (Datagram.decode datagram)) (engine.receive datagram source now) := by
  unfold receive
  cases Datagram.decode datagram with
  | error reason => exact amounts_nothing rfl rfl
  | ok message =>
      cases message with
      | request request => exact ⟨rfl, rfl⟩
      | response response => exact takeResponse_amounts response source now

theorem strike_amounts (engine : Engine) (now : Nat) (deed : Deed) :
    Amounts engine (engine.operations now deed) (engine.heard deed) (engine.strike now deed) := by
  cases deed with
  | tickAlong walk => exact tickAlong_amounts walk now
  | call call =>
      cases call with
      | add endpoint => exact add_amounts endpoint now
      | remove id => exact amounts_single rfl rfl
      | check id => exact check_amounts id now
      | tick =>
          rw [strike, stroke, tick_eq_tickAlong]
          exact tickAlong_amounts engine.table.remotes.keys now
      | receive datagram source => exact receive_amounts datagram source now

/-! ## Requests and answers that come in -/

theorem mem_heard {deed : Deed} {reception : Reception} (member : reception ∈ engine.heard deed) :
    ∃ datagram source, deed = .call (.receive datagram source) ∧
      Datagram.decode datagram = .ok (.request reception.request) ∧
      reception.home = engine.home := by
  unfold heard at member
  split at member
  · rename_i datagram source
    unfold hearings at member
    split at member
    · rename_i request decoded
      rw [List.mem_singleton] at member
      subst member
      exact ⟨datagram, source, rfl, decoded, rfl⟩
    · cases member
  · cases member

theorem forall_operations {P : Operation → Prop} {engine : Engine} {now : Nat} {deed : Deed}
    (add : ∀ endpoint, deed = .call (.add endpoint) → endpoint.cluster ≠ engine.home.cluster →
      P (.add endpoint now))
    (remove : ∀ id, deed = .call (.remove id) → P (.remove id)) (plan : ∀ id, P (.plan id now))
    (tick : ∀ walk, deed = .tickAlong walk ∨ walk = engine.table.remotes.keys → P (.tick walk now))
    (respond : deed.isReceive = true →
      ∀ id number source nat, P (.respond id number source nat now)) :
    ∀ operation ∈ engine.operations now deed, P operation := by
  intro operation member
  cases deed with
  | tickAlong walk =>
      rw [List.mem_singleton.1 member]
      exact tick walk (.inl rfl)
  | call call =>
      cases call with
      | add endpoint =>
          simp only [operations] at member
          split at member
          · cases member
          · rename_i foreign
            rcases mem_additions member with rfl | rfl
            · exact add endpoint rfl foreign
            · exact plan _
      | receive datagram source =>
          obtain ⟨id, number, nat, rfl⟩ := mem_receptions member
          exact respond rfl ..
      | remove id =>
          rw [List.mem_singleton.1 member]
          exact remove id rfl
      | check id =>
          rw [List.mem_singleton.1 member]
          exact plan id
      | tick =>
          rw [List.mem_singleton.1 member]
          exact tick _ (.inr rfl)

theorem operations_silent (engine : Engine) (now : Nat) {deed : Deed}
    (receives : deed.isReceive = false) :
    ∀ operation ∈ engine.operations now deed, operation.isAnswer = false := by
  apply forall_operations
  · exact fun _ _ _ => rfl
  · exact fun _ _ => rfl
  · exact fun _ => rfl
  · exact fun _ _ => rfl
  · exact fun receivesToo => absurd receivesToo (Bool.eq_false_iff.1 receives)

theorem response_events (response : Response) (source : SocketAddress) (now : Nat)
    (table : PeerTable) :
    (PeerTable.run (receptions source now (.ok (.response response))) table).1 = [] ∨
      ∃ sender nat route, usable response = .ok (sender, nat) ∧
        (PeerTable.run (receptions source now (.ok (.response response))) table).1 =
          [.answered sender response.number nat route] := by
  cases parts : usable response with
  | error reason =>
      left
      rw [receptions_of_unusable parts]
      rfl
  | ok part =>
      obtain ⟨sender, nat⟩ := part
      rw [receptions_of_usable parts, run_singleton]
      rcases respond_cases table sender response.number source.ip.canonical nat now with
        refused | ⟨remote, role, -, -, accepted⟩
      · exact .inl (congrArg Prod.fst refused)
      · exact .inr ⟨sender, nat, _, rfl, congrArg Prod.fst accepted⟩

end Engine
end NatReach
