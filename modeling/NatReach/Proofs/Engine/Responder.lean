import Mathlib.Algebra.BigOperators.Group.Multiset.Basic
import NatReach.Proofs.Engine.Delivery
import NatReach.Proofs.Engine.Exchange
import NatReach.Proofs.Engine.Rejection

namespace NatReach

namespace Datagram

def isResponse (datagram : List UInt8) : Bool :=
  match decode datagram with
  | .ok (.response _) => true
  | _ => false

theorem isResponse_of_isRequest {datagram : List UInt8} (asks : isRequest datagram = true) :
    isResponse datagram = false := by
  obtain ⟨request, decoded⟩ := isRequest_iff.1 asks
  rw [isResponse, decoded]

theorem isRequest_of_encode {request : Request} {datagram : List UInt8}
    (encoded : encode (.request request) = .ok datagram) : isRequest datagram = true := by
  have lasting : (Message.request request).isLasting := trivial
  exact isRequest_iff.2 ⟨request, decode_encode lasting encoded⟩

end Datagram

/-! ## One engine -/

def Act.isReceive : Act → Bool
  | .deed _ done => done.isReceive
  | _ => false

def Act.isRequest : Act → Bool
  | .deed _ (.call (.receive datagram _)) => Datagram.isRequest datagram
  | _ => false

namespace Engine
variable {engine : Engine} {network : Network} {now : Nat} {datagram : List UInt8}
  {source : SocketAddress}

theorem run_of_request (engine : Engine) (network : Network) (now : Nat) (source : SocketAddress)
    {request : Request} (decoded : Datagram.decode datagram = .ok (.request request)) :
    let reply : Outgoing := ⟨.response (engine.home.answer request source engine.table.family), source⟩
    engine.run network now (.receive datagram source) =
      if reply.fits then
        ⟨engine, [], [reply.attempt network 0], (reply.attempt network 0).error?⟩
      else ⟨engine, [], [], some (.datagram (.tooLarge reply.octets.length))⟩ := by
  intro reply
  have received : engine.stroke now (.receive datagram source) = { engine, outgoing := [reply] } := by
    simp only [stroke, receive, decoded, takeRequest, reply]
  cases fits : reply.fits with
  | true =>
      have tried : sendAll network 0 [reply] = _ := sendAll_of_fits fits
      simp only [run, received, tried, sendAll, reportsErrors, ↓reduceIte, List.append_nil,
        Option.none_or, Option.head?_toList]
  | false =>
      have tried : sendAll network 0 [reply] = _ := sendAll_of_not_fits fits
      simp only [run, received, tried, sendAll, reportsErrors, ↓reduceIte, Option.none_or,
        List.head?_cons, Bool.false_eq_true]

theorem attempts_receive (noRequest : Datagram.isRequest datagram = false) :
    (engine.run network now (.receive datagram source)).attempts = [] := by
  have silent : (engine.stroke now (.receive datagram source)).outgoing = [] :=
    outgoing_receive fun request decoded =>
      Bool.eq_false_iff.1 noRequest (Datagram.isRequest_iff.2 ⟨request, decoded⟩)
  simp only [run, silent, sendAll]

theorem length_attempts_receive (engine : Engine) (network : Network) (now : Nat)
    (datagram : List UInt8) (source : SocketAddress) :
    (engine.run network now (.receive datagram source)).attempts.length ≤
      if Datagram.isRequest datagram then 1 else 0 := by
  cases asks : Datagram.isRequest datagram with
  | false => rw [attempts_receive asks]; rfl
  | true =>
      obtain ⟨request, decoded⟩ := Datagram.isRequest_iff.1 asks
      rw [engine.run_of_request network now source decoded]
      split <;> simp

theorem isRequest_of_receive {attempt : Attempt}
    (sent : attempt ∈ (engine.run network now (.receive datagram source)).attempts) :
    Datagram.isRequest attempt.datagram = false := by
  cases asks : Datagram.isRequest datagram with
  | false =>
      rw [attempts_receive asks] at sent
      cases sent
  | true =>
      obtain ⟨request, decoded⟩ := Datagram.isRequest_iff.1 asks
      rw [Datagram.isRequest, mem_attempts_of_request decoded sent]

theorem isRequest_of_own {act : Act} (own : act.isReceive = false) {attempt : Attempt}
    (sent : attempt ∈ (engine.undergo network act).attempts) :
    Datagram.isRequest attempt.datagram = true := by
  cases act with
  | deed now deed =>
      have told : deed.isReceive = false := own
      rw [undergo, carryOut_eq] at sent
      obtain ⟨member, encoded⟩ := mem_sendAll sent
      rw [outgoing_strike told, List.mem_map] at member
      obtain ⟨order, -, asks⟩ := member
      rw [← asks] at encoded
      exact Datagram.isRequest_of_encode encoded
  | revise edits => cases sent
  | reroute sourceFor listening => cases sent

theorem responses_undergo (engine : Engine) (network : Network) (act : Act) :
    ((engine.undergo network act).attempts.countP fun attempt =>
      Datagram.isResponse attempt.datagram) ≤ if act.isRequest then 1 else 0 := by
  cases own : act.isReceive with
  | false =>
      have none : ∀ attempt ∈ (engine.undergo network act).attempts,
          ¬ Datagram.isResponse attempt.datagram = true := by
        intro attempt sent
        rw [Datagram.isResponse_of_isRequest (isRequest_of_own own sent)]
        exact Bool.false_ne_true
      rw [List.countP_eq_zero.2 none]
      exact Nat.zero_le _
  | true =>
      cases act with
      | deed now deed =>
          have receives : deed.isReceive = true := own
          obtain ⟨datagram, source, rfl⟩ := Deed.exists_of_isReceive receives
          exact Nat.le_trans List.countP_le_length (engine.length_attempts_receive ..)
      | revise edits => cases own
      | reroute sourceFor listening => cases own

theorem responses_history (engine : Engine) (networks : Nat → Network) (acts : List Act) :
    (((engine.history networks acts).flatMap Report.attempts).countP fun attempt =>
      Datagram.isResponse attempt.datagram) ≤ acts.countP Act.isRequest := by
  -- every request that comes in accounts for the response that it may be answered with
  induction acts generalizing engine networks with
  | nil => exact Nat.le_refl 0
  | cons act rest ih =>
      have first := engine.responses_undergo (networks 0) act
      have later := ih (engine.undergo (networks 0) act).engine fun step => networks (step + 1)
      simp only [history, List.flatMap_cons, List.countP_append, List.countP_cons]
      omega

end Engine

/-! ## Some engines -/

structure Swarm (ι : Type) where
  engines : ι → Engine
  inFlight : Multiset (List UInt8)

/-- How often a datagram can be delivered, together with the one that it is answered with. -/
def Datagram.burden (datagram : List UInt8) : Nat := if isRequest datagram then 2 else 1

namespace Swarm
variable {ι : Type}

/-- How often datagrams can be delivered to the engines, if none sends a request. -/
def burden (swarm : Swarm ι) : Nat := (swarm.inFlight.map Datagram.burden).sum

theorem burden_cons (engines : ι → Engine) (datagram : List UInt8) (others : Multiset (List UInt8)) :
    burden ⟨engines, datagram ::ₘ others⟩ = Datagram.burden datagram + burden ⟨engines, others⟩ := by
  simp only [burden, Multiset.map_cons, Multiset.sum_cons]

variable [DecidableEq ι] {start swarm : Swarm ι} {delivered asked : Nat}

def after (swarm : Swarm ι) (one : ι) (report : Report) : Swarm ι where
  engines := Function.update swarm.engines one report.engine
  inFlight := ↑(report.attempts.map Attempt.datagram) + swarm.inFlight

/-- What can become of some engines if no datagram is delivered twice. Counted are the datagrams that
were delivered and those that an engine sent of its own accord. Any datagram can go to any engine, from
wherever it seems to come. -/
inductive Comes (start : Swarm ι) : (delivered asked : Nat) → Swarm ι → Prop
  | start : Comes start 0 0 start
  | deliver {delivered asked : Nat} {engines : ι → Engine} {datagram : List UInt8}
      {others : Multiset (List UInt8)} (comes : Comes start delivered asked ⟨engines, datagram ::ₘ others⟩)
      (one : ι) (network : Network) (now : Nat) (source : SocketAddress) :
      Comes start (delivered + 1) asked
        (after ⟨engines, others⟩ one ((engines one).run network now (.receive datagram source)))
  | lose {delivered asked : Nat} {engines : ι → Engine} {datagram : List UInt8}
      {others : Multiset (List UInt8)}
      (comes : Comes start delivered asked ⟨engines, datagram ::ₘ others⟩) :
      Comes start delivered asked ⟨engines, others⟩
  | act {delivered asked : Nat} {swarm : Swarm ι} (comes : Comes start delivered asked swarm) (one : ι)
      (network : Network) (act : Act) (own : act.isReceive = false) :
      Comes start delivered (asked + ((swarm.engines one).undergo network act).attempts.length)
        (swarm.after one ((swarm.engines one).undergo network act))

theorem burden_after (one : ι) {report : Report} {each : Nat}
    (same : ∀ attempt ∈ report.attempts, Datagram.burden attempt.datagram = each) :
    (swarm.after one report).burden = report.attempts.length * each + swarm.burden := by
  have sent : (report.attempts.map Attempt.datagram).map Datagram.burden =
      List.replicate report.attempts.length each := by
    rw [List.map_map, ← List.map_const']
    exact List.map_congr_left same
  simp only [burden, after, Multiset.map_add, Multiset.sum_add, Multiset.map_coe, Multiset.sum_coe, sent,
    List.sum_replicate_nat]

/-- What was delivered and what can still be is never more than what could be at first, and what came to
that because an engine sent a request. -/
theorem Comes.bounded (comes : Comes start delivered asked swarm) :
    delivered + swarm.burden ≤ start.burden + 2 * asked := by
  induction comes with
  | start => exact Nat.le_of_eq (Nat.zero_add _)
  | @deliver delivered asked engines datagram others comes one network now source ih =>
      -- a request is worth two deliveries, its own and that of its answer
      have answers : ∀ attempt ∈ ((engines one).run network now (.receive datagram source)).attempts,
          Datagram.burden attempt.datagram = 1 := by
        intro attempt sent
        rw [Datagram.burden, Engine.isRequest_of_receive sent]
        rfl
      have few := (engines one).length_attempts_receive network now datagram source
      rw [burden_cons, Datagram.burden] at ih
      rw [burden_after one answers]
      split at few <;> rename_i asks <;> simp only [asks, ↓reduceIte, Bool.false_eq_true] at ih <;> omega
  | lose comes ih =>
      rw [burden_cons] at ih
      omega
  | @act delivered asked swarm comes one network act own ih =>
      have requests : ∀ attempt ∈ ((swarm.engines one).undergo network act).attempts,
          Datagram.burden attempt.datagram = 2 := by
        intro attempt sent
        rw [Datagram.burden, Engine.isRequest_of_own own sent]
        rfl
      rw [burden_after one requests]
      omega

theorem Comes.silent (comes : Comes start delivered asked swarm) (nobody : asked = 0)
    (quiet : ∀ datagram ∈ start.inFlight, Datagram.isRequest datagram = false) :
    swarm.inFlight ≤ start.inFlight := by
  induction comes with
  | start => exact le_rfl
  | @deliver delivered asked engines datagram others comes one network now source ih =>
      have before := ih nobody
      have noRequest := quiet datagram (Multiset.mem_of_le before (Multiset.mem_cons_self ..))
      simp only [after, Engine.attempts_receive noRequest, List.map_nil, Multiset.coe_nil, zero_add]
      exact le_trans (Multiset.le_cons_self ..) before
  | lose comes ih => exact le_trans (Multiset.le_cons_self ..) (ih nobody)
  | @act delivered asked swarm comes one network act own ih =>
      obtain ⟨before, none⟩ := Nat.add_eq_zero_iff.1 nobody
      simp only [after, List.length_eq_zero_iff.1 none, List.map_nil, Multiset.coe_nil, zero_add]
      exact ih before

end Swarm

/-- A request that comes in from anywhere leaves the engine as it is and hands no route out. If the
answer fits in a datagram, it is sent just once, to where the request came from, and the datagram is
read as the answer; if not, nothing is sent and the call says so. What comes in and is no request makes
an engine send nothing. Whatever an engine goes through, it sends no more responses than it gets
requests. And whatever becomes of some engines, if no datagram is delivered twice, each delivery is that
of a datagram which was on its way at first, of a request that an engine sent of its own accord, or of an
answer to one of these. So if no request is about, nothing is sent. -/
theorem requests_answered_only {ι : Type} [DecidableEq ι] :
    (∀ (engine : Engine) (network : Network) (now : Nat) (datagram : List UInt8)
      (source : SocketAddress) (request : Request), Datagram.decode datagram = .ok (.request request) →
      let answer := engine.home.answer request source engine.table.family
      let octets := Datagram.header ++ Datagram.body (.response answer)
      let attempt : Attempt := ⟨⟨.response answer, source⟩, octets, network 0 octets⟩
      let report := engine.run network now (.receive datagram source)
      (octets.length ≤ Datagram.maxSize →
        report = ⟨engine, [], [attempt], attempt.error?⟩ ∧
          Datagram.decode octets = .ok (.response answer)) ∧
      (Datagram.maxSize < octets.length →
        report = ⟨engine, [], [], some (.datagram (.tooLarge octets.length))⟩)) ∧
    (∀ (engine : Engine) (network : Network) (now : Nat) (datagram : List UInt8)
      (source : SocketAddress), Datagram.isRequest datagram = false →
      (engine.run network now (.receive datagram source)).attempts = []) ∧
    (∀ (engine : Engine) (networks : Nat → Network) (acts : List Act),
      (((engine.history networks acts).flatMap Report.attempts).countP fun attempt =>
        Datagram.isResponse attempt.datagram) ≤ acts.countP Act.isRequest) ∧
    ∀ (start swarm : Swarm ι) (delivered asked : Nat), start.Comes delivered asked swarm →
      delivered + swarm.burden ≤ start.burden + 2 * asked ∧
      (asked = 0 → (∀ datagram ∈ start.inFlight, Datagram.isRequest datagram = false) →
        swarm.inFlight ≤ start.inFlight) := by
  refine ⟨?_, ?_, Engine.responses_history, ?_⟩
  · intro engine network now datagram source request decoded answer octets attempt report
    have outcome : report = if (⟨.response answer, source⟩ : Outgoing).fits then
        ⟨engine, [], [attempt], attempt.error?⟩
      else ⟨engine, [], [], some (.datagram (.tooLarge octets.length))⟩ :=
      engine.run_of_request network now source decoded
    constructor
    · intro small
      have encoded : Datagram.encode (.response answer) = .ok octets :=
        Datagram.encode_eq_ok_iff.2 ⟨rfl, small⟩
      have fits : (⟨.response answer, source⟩ : Outgoing).fits = true := decide_eq_true small
      rw [if_pos fits] at outcome
      have lasting : (Message.response answer).isLasting := Endpoint.isLasting_answer
      exact ⟨outcome, Datagram.decode_encode lasting encoded⟩
    · intro large
      have tooLarge : ¬ (⟨.response answer, source⟩ : Outgoing).fits = true := fun fits =>
        Nat.not_le.2 large (of_decide_eq_true fits)
      rw [if_neg tooLarge] at outcome
      exact outcome
  · intro engine network now datagram source noRequest
    exact Engine.attempts_receive noRequest
  · intro start swarm delivered asked comes
    exact ⟨comes.bounded, comes.silent⟩

namespace Echo

def hub : Engine where
  home := { cluster := "east", cable := "hub" }
  port := 4490
  sourceFor := fun _ => none
  table := .new {} .v4 7

def network : Network := fun _ datagram => .sent datagram.length

def request : Request where
  number := 7
  sender := some ⟨"west", "gateway"⟩
  receiver := some ⟨"east", "hub"⟩
  source := some ⟨"10.0.0.9", 4490⟩
  destination := some ⟨"10.0.0.1", 4490⟩

def source : SocketAddress := .v4 ⟨10, 0, 0, 7⟩ 50000

def octets (message : Message) : List UInt8 := Datagram.header ++ Datagram.body message

theorem requests_answered_only_echo :
    let asked := octets (.request request)
    let answer := hub.home.answer request source .v4
    let answered := octets (.response answer)
    Datagram.decode asked = .ok (.request request) ∧ answered.length ≤ Datagram.maxSize ∧
      (hub.run network 0 (.receive asked source)).attempts =
        [⟨⟨.response answer, source⟩, answered, .sent answered.length⟩] ∧
      Datagram.isRequest answered = false ∧
      (hub.run network 5 (.receive answered source)).attempts = [] ∧
      ∃ swarm : Swarm Party, Swarm.Comes ⟨fun _ => hub, {answered}⟩ 1 0 swarm ∧
        swarm.inFlight ≤ {answered} := by
  intro asked answer answered
  have encoded : Datagram.encode (.request request) = .ok asked :=
    Datagram.encode_eq_ok_iff.2 ⟨rfl, by decide +kernel⟩
  have lasting : (Message.request request).isLasting := trivial
  have decoded : Datagram.decode asked = .ok (.request request) := Datagram.decode_encode lasting encoded
  have small : answered.length ≤ Datagram.maxSize := by decide +kernel
  obtain ⟨answers, silent, -, falls⟩ := requests_answered_only (ι := Party)
  obtain ⟨outcome, read⟩ := (answers hub network 0 asked source request decoded).1 small
  have read : Datagram.decode answered = .ok (.response answer) := read
  have noRequest : Datagram.isRequest answered = false := by rw [Datagram.isRequest, read]
  have fresh : Swarm.Comes ⟨fun _ : Party => hub, {answered}⟩ 0 0 ⟨fun _ => hub, answered ::ₘ 0⟩ := .start
  have comes := fresh.deliver .left network 5 source
  have quiet : ∀ datagram ∈ ({answered} : Multiset (List UInt8)), Datagram.isRequest datagram = false := by
    intro datagram member
    rw [Multiset.mem_singleton.1 member]
    exact noRequest
  refine ⟨decoded, small, congrArg Report.attempts outcome, noRequest, silent _ _ _ _ _ noRequest, _,
    comes, (falls _ _ 1 0 comes).2 rfl quiet⟩

end Echo
end NatReach
