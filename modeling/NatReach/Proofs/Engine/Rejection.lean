import NatReach.Engine.Loop
import NatReach.Proofs.Engine.Deed
import NatReach.Proofs.PeerTable.RouteHistory

namespace NatReach

/-- Whether an error says that a datagram was rejected, and not that sending one failed. -/
def EngineError.isRejection : EngineError → Bool
  | datagram _ | rejected _ | incomplete _ | refused .. => true
  | shortWrite .. | network _ => false

def Datagram.isRequest (datagram : List UInt8) : Bool :=
  match decode datagram with
  | .ok (.request _) => true
  | _ => false

theorem Datagram.isRequest_iff {datagram : List UInt8} :
    isRequest datagram = true ↔ ∃ request, decode datagram = .ok (.request request) := by
  unfold isRequest
  split
  · rename_i request decoded
    exact ⟨fun _ => ⟨request, decoded⟩, fun _ => rfl⟩
  · rename_i other
    exact ⟨nofun, fun ⟨request, decoded⟩ => absurd decoded (other request)⟩

def Network.after (network : Network) (count : Nat) : Network := fun position =>
  network (count + position)

namespace Network

@[simp] theorem after_zero (network : Network) : network.after 0 = network := by
  funext position
  rw [after, Nat.zero_add]

theorem after_after (network : Network) (first second : Nat) :
    (network.after first).after second = network.after (first + second) := by
  funext position
  simp only [after, Nat.add_assoc]

end Network

/-! ## Calls -/

namespace Engine
variable {engine : Engine} {network : Network} {now : Nat} {datagram : List UInt8}
  {source : SocketAddress} {error : EngineError}

/-- Whether a datagram is no request, and taking it in fails with a rejection. -/
def rejects (engine : Engine) (network : Network) (now : Nat) (datagram : List UInt8)
    (source : SocketAddress) : Bool :=
  !Datagram.isRequest datagram &&
    (engine.run network now (.receive datagram source)).error.any EngineError.isRejection

theorem isRejection_of_usable {response : Response} (unusable : usable response = .error error) :
    error.isRejection = true := by
  unfold usable at unusable
  cases sender : response.sender with
  | none =>
      rw [sender] at unusable
      cases unusable
      rfl
  | some identity =>
      simp only [sender] at unusable
      split at unusable
      · cases unusable
        rfl
      · split at unusable
        · cases unusable
          rfl
        · split at unusable
          · cases unusable
          · cases unusable
            rfl

theorem takeResponse_of_failure {response : Response}
    (failed : (engine.takeResponse response source now).error = some error) :
    engine.takeResponse response source now = { engine, error := some error } ∧
      error.isRejection = true := by
  rcases engine.takeResponse_cases response source now with
    ⟨reason, parts, outcome⟩ | ⟨sender, nat, -, ⟨reason, -, outcome⟩ | ⟨route, table, -, outcome⟩⟩
  · rw [outcome] at failed ⊢
    cases failed
    exact ⟨rfl, isRejection_of_usable parts⟩
  · rw [outcome] at failed ⊢
    cases failed
    exact ⟨rfl, rfl⟩
  · rw [outcome] at failed
    cases failed

theorem outgoing_takeResponse (engine : Engine) (response : Response) (source : SocketAddress)
    (now : Nat) : (engine.takeResponse response source now).outgoing = [] := by
  rcases engine.takeResponse_cases response source now with
    ⟨reason, -, outcome⟩ | ⟨sender, nat, -, ⟨reason, -, outcome⟩ | ⟨route, table, -, outcome⟩⟩
  · rw [outcome]
  · rw [outcome]
  · rw [outcome]

theorem receive_of_error (noRequest : ∀ request, Datagram.decode datagram ≠ .ok (.request request))
    (failed : (engine.receive datagram source now).error = some error) :
    engine.receive datagram source now = { engine, error := some error } ∧
      error.isRejection = true := by
  unfold receive at failed ⊢
  split at failed
  · rename_i request decoded
    exact absurd decoded (noRequest request)
  · rename_i response decoded
    exact takeResponse_of_failure failed
  · rename_i reason decoded
    cases failed
    exact ⟨rfl, rfl⟩

theorem outgoing_receive (noRequest : ∀ request, Datagram.decode datagram ≠ .ok (.request request)) :
    (engine.receive datagram source now).outgoing = [] := by
  unfold receive
  split
  · rename_i request decoded
    exact absurd decoded (noRequest request)
  · exact outgoing_takeResponse ..
  · rfl

theorem run_of_rejection (noRequest : ∀ request, Datagram.decode datagram ≠ .ok (.request request))
    (failed : (engine.run network now (.receive datagram source)).error = some error) :
    engine.run network now (.receive datagram source) = ⟨engine, [], [], some error⟩ ∧
      error.isRejection = true := by
  have silent : (engine.stroke now (.receive datagram source)).outgoing = [] :=
    outgoing_receive noRequest
  simp only [run, silent, sendAll, List.head?_nil, Option.or_none, reportsErrors, ↓reduceIte]
    at failed ⊢
  obtain ⟨nothing, rejection⟩ := receive_of_error noRequest failed
  rw [show engine.stroke now (.receive datagram source) = _ from nothing]
  exact ⟨rfl, rejection⟩

theorem run_of_rejects (rejected : engine.rejects network now datagram source = true) :
    ∃ error, engine.run network now (.receive datagram source) = ⟨engine, [], [], some error⟩ := by
  unfold rejects at rejected
  rw [Bool.and_eq_true, Bool.not_eq_true'] at rejected
  obtain ⟨noRequest, failed⟩ := rejected
  cases found : (engine.run network now (.receive datagram source)).error with
  | none => simp [found] at failed
  | some error =>
      refine ⟨error, (run_of_rejection ?_ found).1⟩
      intro request decoded
      exact Bool.eq_false_iff.1 noRequest (Datagram.isRequest_iff.2 ⟨request, decoded⟩)

theorem rejects_of_tooLarge (tooLarge : Datagram.maxSize < datagram.length) :
    engine.rejects network now datagram source = true := by
  have decoded : Datagram.decode datagram = .error (.tooLarge datagram.length) := by
    unfold Datagram.decode
    exact if_pos tooLarge
  have noRequest : Datagram.isRequest datagram = false := by
    rw [Datagram.isRequest, decoded]
  have failed : (engine.run network now (.receive datagram source)).error =
      some (.datagram (.tooLarge datagram.length)) := by
    simp [run, stroke, receive, decoded, sendAll, reportsErrors]
  rw [rejects, noRequest, failed]
  rfl

end Engine

/-! ## Loops -/

def LoopReport.andThen (first later : LoopReport) : LoopReport where
  loop := later.loop
  routes := first.routes ++ later.routes
  attempts := first.attempts ++ later.attempts

namespace LoopReport

theorem nothing_andThen (loop : Loop) (later : LoopReport) :
    (LoopReport.mk loop [] []).andThen later = later := rfl

theorem andThen_assoc (first second third : LoopReport) :
    (first.andThen second).andThen third = first.andThen (second.andThen third) := by
  simp only [andThen, List.append_assoc]

end LoopReport

namespace Loop

/-- Serves inputs one after the other. What the network does with a datagram may depend on how many were
handed to it before. -/
def serve (network : Network) : List LoopInput → Loop → LoopReport
  | [], loop => { loop }
  | input :: rest, loop =>
    let first := loop.step network input
    first.andThen (serve (network.after first.attempts.length) rest first.loop)

def ignores (loop : Loop) (network : Network) : LoopInput → Bool
  | .received datagram source =>
    loop.engine.rejects network loop.now (datagram.take bufferSize) source
  | .receiveFailed => true
  | _ => false

/-- The inputs without those that are ignored when their turn comes. -/
def relevant (network : Network) : List LoopInput → Loop → List LoopInput
  | [], _ => []
  | input :: rest, loop =>
    let first := loop.step network input
    let later := relevant (network.after first.attempts.length) rest first.loop
    if loop.ignores network input then later else input :: later

section
variable {loop : Loop} {network : Network} {input : LoopInput}

theorem step_of_ignores (ignored : loop.ignores network input = true) :
    loop.step network input = { loop } := by
  unfold step
  split
  · rfl
  · cases input with
    | received datagram source =>
        obtain ⟨error, nothing⟩ := Engine.run_of_rejects ignored
        simp only [call, nothing]
    | receiveFailed => rfl
    | _ => cases ignored

theorem serve_relevant (network : Network) (inputs : List LoopInput) (loop : Loop) :
    serve network (relevant network inputs loop) loop = serve network inputs loop := by
  induction inputs generalizing network loop with
  | nil => rfl
  | cons input rest ih =>
      simp only [relevant]
      split
      · rename_i ignored
        rw [serve, step_of_ignores ignored, LoopReport.nothing_andThen, List.length_nil,
          Network.after_zero]
        exact ih network loop
      · simp only [serve, ih]

theorem serve_append (network : Network) (front back : List LoopInput) (loop : Loop) :
    serve network (front ++ back) loop =
      (serve network front loop).andThen
        (serve (network.after (serve network front loop).attempts.length) back
          (serve network front loop).loop) := by
  induction front generalizing network loop with
  | nil => simp [serve, LoopReport.nothing_andThen]
  | cons input rest ih =>
      simp only [List.cons_append, serve, ih, Network.after_after, LoopReport.andThen_assoc]
      simp only [LoopReport.andThen, List.length_append]

theorem ignores_of_tooLarge {datagram : List UInt8} (source : SocketAddress)
    (tooLarge : Datagram.maxSize < datagram.length) :
    loop.ignores network (.received datagram source) = true := by
  refine Engine.rejects_of_tooLarge ?_
  rw [List.length_take, bufferSize]
  omega

/-! ## What keeps a loop going -/

theorem tickUpTo_frame (most : Nat) (loop : Loop) (network : Network) :
    ∃ engine nextTick, (tickUpTo most loop network).loop = { loop with engine, nextTick } := by
  induction most generalizing loop network with
  | zero => exact ⟨loop.engine, loop.nextTick, rfl⟩
  | succ most ih =>
      simp only [tickUpTo]
      split
      · exact ih ..
      · exact ⟨loop.engine, loop.nextTick, rfl⟩

theorem passed_frame (loop : Loop) (network : Network) (time : Nat) :
    ∃ engine nextTick, (tickWhileDue { loop with now := loop.now + time } network).loop =
      { loop with now := loop.now + time, engine, nextTick } :=
  tickUpTo_frame ..

theorem step_keeps (loop : Loop) (network : Network) (lasting : input ≠ .shutdown) :
    (loop.step network input).loop.running = loop.running ∧
      (loop.step network input).loop.period = loop.period := by
  unfold step
  split
  · exact ⟨rfl, rfl⟩
  · cases input with
    | added endpoint =>
        dsimp only
        split <;> exact ⟨rfl, rfl⟩
    | removed id =>
        dsimp only
        split <;> exact ⟨rfl, rfl⟩
    | passed time =>
        obtain ⟨engine, nextTick, same⟩ := passed_frame loop network time
        dsimp only
        rw [same]
        exact ⟨rfl, rfl⟩
    | shutdown => exact absurd rfl lasting
    | _ => exact ⟨rfl, rfl⟩

theorem directoryOpen_step (running : loop.running = true) :
    (loop.step network input).loop.directoryOpen = true ↔
      loop.directoryOpen = true ∧ input ≠ .directoryClosed := by
  have going : ¬ (!loop.running) = true := by simp [running]
  unfold step
  rw [if_neg going]
  cases input with
  | added endpoint =>
      dsimp only
      split <;> simp [call]
  | removed id =>
      dsimp only
      split <;> simp [call]
  | passed time =>
      obtain ⟨engine, nextTick, same⟩ := passed_frame loop network time
      dsimp only
      rw [same]
      simp
  | directoryClosed => simp
  | _ => simp [call]

theorem serve_keeps (network : Network) {inputs : List LoopInput} (lasting : .shutdown ∉ inputs)
    (running : loop.running = true) :
    (serve network inputs loop).loop.running = true ∧
      (serve network inputs loop).loop.period = loop.period ∧
      ((serve network inputs loop).loop.directoryOpen = true ↔
        loop.directoryOpen = true ∧ .directoryClosed ∉ inputs) := by
  induction inputs generalizing network loop with
  | nil => simp [serve, running]
  | cons input rest ih =>
      rw [List.mem_cons, not_or] at lasting
      obtain ⟨going, period⟩ := step_keeps loop network (Ne.symm lasting.1)
      obtain ⟨later, periodLater, opened⟩ :=
        ih (network.after (loop.step network input).attempts.length) lasting.2 (going.trans running)
      rw [directoryOpen_step running] at opened
      refine ⟨later, periodLater.trans period, ?_⟩
      simp only [serve, LoopReport.andThen, opened, List.mem_cons, not_or, and_assoc, ne_comm]

end

def after (loop : Loop) (report : Report) : LoopReport :=
  ⟨{ loop with engine := report.engine }, report.routes, report.attempts⟩

/-- What a loop does until no tick is due: each tick is a call to the engine that the ones before
it left. -/
inductive Ticks : Loop → Network → LoopReport → Prop
  | rest {loop network} (early : loop.now < loop.nextTick) : Ticks loop network { loop }
  | tick {loop network} {first later : LoopReport} (due : loop.nextTick ≤ loop.now)
      (call : first = { loop with nextTick := tickAfter loop.nextTick loop.now loop.period }.after
        (loop.engine.run network loop.now .tick))
      (others : Ticks first.loop (network.after first.attempts.length) later) :
      Ticks loop network (first.andThen later)

theorem ticks_tickUpTo {most : Nat} {loop : Loop} {network : Network}
    (none : (tickUpTo most loop network).loop.now < (tickUpTo most loop network).loop.nextTick) :
    Ticks loop network (tickUpTo most loop network) := by
  induction most generalizing loop network with
  | zero => exact .rest none
  | succ most ih =>
      unfold tickUpTo at none ⊢
      split
      · rename_i due
        rw [if_pos due] at none
        exact .tick due rfl (ih none)
      · rename_i early
        exact .rest (Nat.lt_of_not_le early)

/-- That a loop does at once what comes in: it takes datagrams in, notices endpoints as long as it
is told of them, and ticks until no tick is due. -/
structure Serves (loop : Loop) (network : Network) : Prop where
  running : loop.running = true
  received : ∀ datagram source, loop.step network (.received datagram source) =
    loop.after (loop.engine.run network loop.now (.receive (datagram.take bufferSize) source))
  added : ∀ endpoint, loop.step network (.added endpoint) =
    if loop.directoryOpen then loop.after (loop.engine.run network loop.now (.add endpoint))
    else { loop }
  removed : ∀ id, loop.step network (.removed id) =
    if loop.directoryOpen then loop.after (loop.engine.run network loop.now (.remove id))
    else { loop }
  closed : loop.step network .directoryClosed = { loop := { loop with directoryOpen := false } }
  passed : 0 < loop.period → ∀ time,
    (loop.step network (.passed time)).loop.now = loop.now + time ∧
      loop.now + time < (loop.step network (.passed time)).loop.nextTick ∧
      Ticks { loop with now := loop.now + time } network (loop.step network (.passed time))
  shutdown : loop.step network .shutdown = { loop := { loop with running := false } }

theorem serves_of_running {loop : Loop} (running : loop.running = true) (network : Network) :
    loop.Serves network := by
  have going : ¬ (!loop.running) = true := by simp [running]
  refine ⟨running, ?_, ?_, ?_, if_neg going, ?_, if_neg going⟩
  · exact fun datagram source => if_neg going
  · exact fun endpoint => if_neg going
  · exact fun id => if_neg going
  · intro positive time
    have passed : loop.step network (.passed time) =
        tickWhileDue { loop with now := loop.now + time } network := if_neg going
    have none : (tickWhileDue { loop with now := loop.now + time } network).loop.now < _ :=
      nextTick_tickWhileDue network positive
    have ticks := ticks_tickUpTo none
    obtain ⟨engine, nextTick, same⟩ := passed_frame loop network time
    rw [same] at none
    rw [passed]
    exact ⟨by rw [same], by rw [same]; exact none, ticks⟩

/-- A call that takes in a datagram which is no request, and fails, fails with a rejection; it
leaves the engine as it is, sends nothing and hands no route out. A loop that is fed without the
datagrams that are rejected so, among them all that are too large, and without the failures to
receive one, ends with the same table, the same routes and the same datagrams sent. And whatever has
come in, as long as that is no shutdown, a loop serves what comes next, be it a datagram, time in
which ticks fall due or, until the directory is closed, an endpoint. -/
theorem rejections_unseen :
    (∀ (engine : Engine) (network : Network) (now : Nat) (datagram : List UInt8)
      (source : SocketAddress) (error : EngineError),
      (∀ request, Datagram.decode datagram ≠ .ok (.request request)) →
      (engine.run network now (.receive datagram source)).error = some error →
      engine.run network now (.receive datagram source) = ⟨engine, [], [], some error⟩ ∧
        error.isRejection = true) ∧
    ∀ (loop : Loop) (network : Network),
      (∀ inputs, serve network (relevant network inputs loop) loop = serve network inputs loop) ∧
      (∀ datagram source, Datagram.maxSize < datagram.length →
        loop.ignores network (.received datagram source) = true) ∧
      ∀ inputs, loop.running = true → .shutdown ∉ inputs →
        let soFar := serve network inputs loop
        let network' := network.after soFar.attempts.length
        soFar.loop.Serves network' ∧ soFar.loop.period = loop.period ∧
        (soFar.loop.directoryOpen = true ↔ loop.directoryOpen = true ∧ .directoryClosed ∉ inputs) ∧
        ∀ rest, serve network (inputs ++ rest) loop =
          soFar.andThen (serve network' rest soFar.loop) := by
  refine ⟨?_, fun loop network => ⟨?_, ?_, ?_⟩⟩
  · intro engine network now datagram source error noRequest failed
    exact Engine.run_of_rejection noRequest failed
  · exact fun inputs => serve_relevant network inputs loop
  · exact fun datagram source tooLarge => ignores_of_tooLarge source tooLarge
  · intro inputs running lasting
    obtain ⟨going, period, opened⟩ := serve_keeps network lasting running
    exact ⟨serves_of_running going _, period, opened,
      fun rest => serve_append network inputs rest loop⟩

namespace Noise

def hub : Loop where
  engine := {
    home := { cluster := "east", cable := "hub" }
    port := 4490
    sourceFor := fun _ => none
    table := .new {} .v4 7 }
  period := 1000
  now := 0
  nextTick := 1000

def network : Network := fun _ datagram => .sent datagram.length

def source : SocketAddress := .v4 ⟨10, 0, 0, 7⟩ 4490

def answer (number : UInt32) : List UInt8 :=
  match Datagram.encode (.response {
    number
    sender := some PeerTable.twoAddresses.identity
    receiver := some ⟨"east", "hub"⟩
    observed := some ⟨"10.0.0.1", 4490⟩ }) with
  | .ok octets => octets
  | .error _ => []

def oversized : List UInt8 := answer 7 ++ List.replicate 2048 32

def early : List LoopInput :=
  [.added PeerTable.twoAddresses, .received [0, 1, 2] source, .receiveFailed,
    .received (answer 99) source, .directoryClosed, .received oversized source]

def inputs : List LoopInput :=
  early ++ [.passed 1000, .received (answer 7) source, .received (answer 9) source]

def asked (attempts : List Attempt) : List UInt32 :=
  attempts.filterMap fun attempt =>
    match attempt.outgoing.message with
    | .request request => some request.number
    | .response _ => none

theorem rejections_unseen_inputs :
    (relevant network inputs hub).length = 4 ∧
      (serve network (relevant network inputs hub) hub).routes.map (·.nat) = [false] ∧
      (serve network inputs hub).loop.running = true ∧
      (serve network inputs hub).loop.directoryOpen = false ∧
      ∃ report, Ticks { (serve network early hub).loop with now := 1000 } (network.after 2) report ∧
        asked report.attempts = [9, 10] := by
  have kept : (relevant network inputs hub).length = 4 := by decide +kernel
  have routes : (serve network inputs hub).routes.map (·.nat) = [false] := by decide +kernel
  have before : (serve network early hub).attempts.length = 2 ∧
      (serve network early hub).loop.now = 0 := by decide +kernel
  have asks : asked (((serve network early hub).loop.step (network.after 2) (.passed 1000)).attempts) =
      [9, 10] := by decide +kernel
  have lasting : LoopInput.shutdown ∉ inputs := by
    simp [inputs, early]
  have lastingEarly : LoopInput.shutdown ∉ early := by
    simp [early]
  have closed : LoopInput.directoryClosed ∈ inputs := by
    simp [inputs, early]
  obtain ⟨-, all⟩ := rejections_unseen
  obtain ⟨same, -, serves⟩ := all hub network
  obtain ⟨servesEarly, period, -⟩ := serves early rfl lastingEarly
  obtain ⟨serves, -, opened, -⟩ := serves inputs rfl lasting
  refine ⟨kept, by rw [same, routes], serves.running, ?_, ?_⟩
  · rw [Bool.eq_false_iff, ne_eq, opened]
    exact fun both => both.2 closed
  · have positive : 0 < (serve network early hub).loop.period := by
      rw [period]
      decide
    obtain ⟨-, -, ticks⟩ := servesEarly.passed positive 1000
    rw [before.1, before.2] at ticks
    exact ⟨_, ticks, asks⟩

end Noise

end Loop
end NatReach
