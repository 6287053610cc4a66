import NatReach.Proofs.Engine.Deed
import NatReach.Proofs.PeerTable.RouteHistory

namespace NatReach
open PeerTable

/-! ## Batches -/

namespace Outgoing

def octets (outgoing : Outgoing) : List UInt8 := Datagram.header ++ Datagram.body outgoing.message

def fits (outgoing : Outgoing) : Bool := outgoing.octets.length ≤ Datagram.maxSize

def attempt (outgoing : Outgoing) (network : Network) (position : Nat) : Attempt :=
  ⟨outgoing, outgoing.octets, network position outgoing.octets⟩

/-- Why a message is not wholly on its way, if its datagram is at a position. -/
def failure? (outgoing : Outgoing) (network : Network) (position : Nat) : Option EngineError :=
  if outgoing.fits then (outgoing.attempt network position).error?
  else some (.datagram (.tooLarge outgoing.octets.length))

theorem encode_message (outgoing : Outgoing) :
    Datagram.encode outgoing.message =
      if outgoing.fits then .ok outgoing.octets else .error (.tooLarge outgoing.octets.length) := by
  by_cases small : outgoing.octets.length ≤ Datagram.maxSize
  · have fits : outgoing.fits = true := decide_eq_true small
    rw [if_pos fits]
    exact if_pos small
  · have large : ¬ outgoing.fits = true := fun fits => small (of_decide_eq_true fits)
    rw [if_neg large]
    exact if_neg small

end Outgoing

/-- Why the message at a place of a batch is not wholly on its way. Its datagram comes after those of
the messages before it that have one. -/
def failureAt (network : Network) (first : Nat) (batch : List Outgoing) (place : Nat) :
    Option EngineError :=
  batch[place]?.bind fun outgoing =>
    outgoing.failure? network (first + (batch.take place).countP Outgoing.fits)

/-- That a failure is the first one in a batch, or that there is none. -/
inductive FirstFailure (network : Network) (first : Nat) (batch : List Outgoing) :
    Option EngineError → Prop
  | nothing (all : ∀ place, failureAt network first batch place = none) :
      FirstFailure network first batch none
  | found {error : EngineError} {place : Nat} (fails : failureAt network first batch place = some error)
      (before : ∀ earlier < place, failureAt network first batch earlier = none) :
      FirstFailure network first batch (some error)

section
variable {network : Network} {first : Nat} {outgoing : Outgoing} {rest : List Outgoing}

theorem sendAll_of_fits (fits : outgoing.fits = true) :
    sendAll network first (outgoing :: rest) =
      (outgoing.attempt network first :: (sendAll network (first + 1) rest).1,
        (outgoing.attempt network first).error?.toList ++ (sendAll network (first + 1) rest).2) := by
  have encoded := outgoing.encode_message
  rw [if_pos fits] at encoded
  simp only [sendAll, encoded]
  rfl

theorem sendAll_of_not_fits (large : outgoing.fits = false) :
    sendAll network first (outgoing :: rest) =
      ((sendAll network first rest).1,
        .datagram (.tooLarge outgoing.octets.length) :: (sendAll network first rest).2) := by
  have encoded := outgoing.encode_message
  rw [if_neg (Bool.eq_false_iff.1 large)] at encoded
  simp only [sendAll, encoded]

theorem sendAll_attempts (network : Network) (first : Nat) (batch : List Outgoing) :
    (sendAll network first batch).1 =
      (batch.filter Outgoing.fits).mapIdx fun index outgoing =>
        outgoing.attempt network (first + index) := by
  induction batch generalizing first with
  | nil => rfl
  | cons outgoing rest ih =>
      cases fits : outgoing.fits with
      | true =>
          rw [sendAll_of_fits fits, ih, List.filter_cons_of_pos fits, List.mapIdx_cons]
          simp only [Nat.add_zero, Nat.add_assoc, Nat.add_comm 1]
      | false => rw [sendAll_of_not_fits fits, ih, List.filter_cons_of_neg (by simp [fits])]

theorem sendAll_datagrams (network : Network) (first : Nat) (batch : List Outgoing) :
    (sendAll network first batch).1.map (fun attempt => (attempt.outgoing, attempt.datagram)) =
      (batch.filter Outgoing.fits).map fun outgoing => (outgoing, outgoing.octets) := by
  rw [sendAll_attempts]
  refine List.ext_getElem? fun place => ?_
  rw [List.getElem?_map, List.getElem?_mapIdx, List.getElem?_map, Option.map_map]
  rfl

theorem failureAt_zero :
    failureAt network first (outgoing :: rest) 0 = outgoing.failure? network first := by
  simp [failureAt]

theorem failureAt_succ (place : Nat) :
    failureAt network first (outgoing :: rest) (place + 1) =
      failureAt network (first + if outgoing.fits then 1 else 0) rest place := by
  simp only [failureAt, List.getElem?_cons_succ, List.take_succ_cons, List.countP_cons]
  congr 2
  funext other
  congr 1
  omega

theorem FirstFailure.here {error : EngineError}
    (fails : outgoing.failure? network first = some error) :
    FirstFailure network first (outgoing :: rest) (some error) :=
  .found (failureAt_zero.trans fails) nofun

theorem FirstFailure.later {failure : Option EngineError}
    (goes : outgoing.failure? network first = none)
    (firstLater : FirstFailure network (first + if outgoing.fits then 1 else 0) rest failure) :
    FirstFailure network first (outgoing :: rest) failure := by
  cases firstLater with
  | nothing all =>
      refine .nothing fun place => ?_
      cases place with
      | zero => exact failureAt_zero.trans goes
      | succ place => exact (failureAt_succ place).trans (all place)
  | found fails before =>
      refine .found ((failureAt_succ _).trans fails) fun earlier less => ?_
      cases earlier with
      | zero => exact failureAt_zero.trans goes
      | succ earlier => exact (failureAt_succ earlier).trans (before earlier (by omega))

theorem firstFailure_sendAll (network : Network) (first : Nat) (batch : List Outgoing) :
    FirstFailure network first batch (sendAll network first batch).2.head? := by
  induction batch generalizing first with
  | nil => exact .nothing fun place => rfl
  | cons outgoing rest ih =>
      cases fits : outgoing.fits with
      | false =>
          rw [sendAll_of_not_fits fits, List.head?_cons]
          refine .here ?_
          rw [Outgoing.failure?, fits]
          rfl
      | true =>
          have failure : outgoing.failure? network first = (outgoing.attempt network first).error? := by
            rw [Outgoing.failure?, if_pos fits]
          rw [sendAll_of_fits fits]
          cases outcome : (outgoing.attempt network first).error? with
          | some error => exact .here (failure.trans outcome)
          | none =>
              refine .later (failure.trans outcome) ?_
              rw [if_pos fits]
              exact ih (first + 1)

end

/-! ## Histories -/

/-- What happens to an engine: it is made to do something, its gateway changes its description, other
addresses are used on the way to others, or somebody begins or ceases to take routes. -/
inductive Act where
  | deed (now : Nat) (deed : Deed)
  | revise (edits : List Edit)
  | reroute (sourceFor : Ip → Option Ip) (listening : Bool)

/-- Whether anybody waits for what is done. -/
def Deed.reports : Deed → Bool
  | .call made => Engine.reportsErrors made
  | .tickAlong _ => false

/-- What is seen of a report by everybody but the caller and the network. -/
def Report.seen (report : Report) : Engine × List Route × List (Outgoing × List UInt8) :=
  (report.engine, report.routes, report.attempts.map fun attempt => (attempt.outgoing, attempt.datagram))

namespace Engine

def carryOut (engine : Engine) (network : Network) (now : Nat) : Deed → Report
  | .call made => engine.run network now made
  | .tickAlong walk =>
    let stroke := engine.tickAlong walk now
    ⟨stroke.engine, stroke.routes, (sendAll network 0 stroke.outgoing).1, none⟩

theorem carryOut_eq (engine : Engine) (network : Network) (now : Nat) (deed : Deed) :
    engine.carryOut network now deed =
      let stroke := engine.strike now deed
      let (attempts, errors) := sendAll network 0 stroke.outgoing
      { engine := stroke.engine
        routes := stroke.routes
        attempts
        error := if deed.reports then stroke.error.or errors.head? else none } := by
  cases deed <;> rfl

def undergo (engine : Engine) (network : Network) : Act → Report
  | .deed now deed => engine.carryOut network now deed
  | .revise edits => ⟨(engine.revise edits).1, [], [], none⟩
  | .reroute sourceFor listening => ⟨{ engine with sourceFor, listening }, [], [], none⟩

def history (engine : Engine) (networks : Nat → Network) : List Act → List Report
  | [] => []
  | act :: rest =>
    let report := engine.undergo (networks 0) act
    report :: report.engine.history (fun step => networks (step + 1)) rest

section
variable {engine : Engine}

theorem seen_undergo (engine : Engine) (network network' : Network) (act : Act) :
    (engine.undergo network act).seen = (engine.undergo network' act).seen := by
  cases act with
  | deed now deed =>
      simp only [undergo, carryOut_eq, Report.seen, sendAll_datagrams]
  | revise edits => rfl
  | reroute sourceFor listening => rfl

theorem history_seen (engine : Engine) (networks networks' : Nat → Network) (acts : List Act) :
    (engine.history networks acts).map Report.seen =
      (engine.history networks' acts).map Report.seen := by
  induction acts generalizing engine networks networks' with
  | nil => rfl
  | cons act rest ih =>
      have same := engine.seen_undergo (networks 0) (networks' 0) act
      have engines : (engine.undergo (networks 0) act).engine =
          (engine.undergo (networks' 0) act).engine := congrArg Prod.fst same
      simp only [history, List.map_cons, same, engines, ih _ (fun step => networks (step + 1))
        fun step => networks' (step + 1)]

theorem error_strike {deed : Deed} (told : deed.isReceive = false) (now : Nat) :
    (engine.strike now deed).error = none := by
  cases deed with
  | tickAlong walk => rfl
  | call made =>
      cases made with
      | add endpoint =>
          simp only [strike, stroke, add]
          split
          · rfl
          · split <;> rfl
      | receive datagram source => cases told
      | _ => rfl

theorem outgoing_strike {deed : Deed} (told : deed.isReceive = false) (now : Nat) :
    (engine.strike now deed).outgoing =
      (issued (PeerTable.run (engine.operations now deed) engine.table).1).map engine.outgoing := by
  have heard : engine.heard deed = [] := by
    cases deed with
    | tickAlong walk => rfl
    | call made => cases made <;> first | rfl | cases told
  rw [(engine.strike_amounts now deed).sends, heard, List.map_nil, List.append_nil]

end
end Engine

/-- Two histories of an engine in which the network does with the datagrams whatever it likes are the
same to everybody else: after each step the engine is the same, and so are the routes handed out and
what was tried. Whatever an engine is made to do, every request that is ordered and fits in a datagram is
handed to the network once, in order and for its destination. The call reports the first failure among
them, be it that a request is too large, that the network refuses it or that it takes too few or too
many octets; a tick reports none. -/
theorem deliveries_unseen (engine : Engine) :
    (∀ networks networks' acts, (engine.history networks acts).map Report.seen =
      (engine.history networks' acts).map Report.seen) ∧
    ∀ network now deed,
      let report := engine.carryOut network now deed
      let batch := (engine.strike now deed).outgoing
      report.attempts = (batch.filter Outgoing.fits).mapIdx (fun position outgoing =>
        outgoing.attempt network position) ∧
      (deed.isReceive = false →
        batch = (issued (PeerTable.run (engine.operations now deed) engine.table).1).map
          engine.outgoing ∧
        (deed.reports = true → FirstFailure network 0 batch report.error)) ∧
      (deed.reports = false → report.error = none) := by
  refine ⟨engine.history_seen, fun network now deed => ?_⟩
  refine ⟨?_, fun told => ⟨engine.outgoing_strike told now, fun reports => ?_⟩, fun silent => ?_⟩
  · have tried := sendAll_attempts network 0 (engine.strike now deed).outgoing
    simp only [Nat.zero_add] at tried
    rw [Engine.carryOut_eq]
    exact tried
  · simp only [Engine.carryOut_eq, reports, ↓reduceIte, engine.error_strike told now, Option.none_or]
    exact firstFailure_sendAll ..
  · simp only [Engine.carryOut_eq, silent, Bool.false_eq_true, ↓reduceIte]

namespace Unheeded

def hub : Engine where
  home := { cluster := "east", cable := "hub" }
  port := 4490
  sourceFor := fun _ => none
  table := .new {} .v4 7

def refusing : Network := fun _ _ => .failed "network unreachable"

def cutting : Network := fun position datagram =>
  if position = 0 then .sent datagram.length else .sent 10

def acts : List Act :=
  [.deed 0 (.call (.add twoAddresses)), .reroute (fun _ => some (.v4 ⟨10, 0, 0, 1⟩)) true,
    .deed 1000 (.tickAlong ["gateway"]), .deed 1500 (.call (.check "gateway"))]

theorem deliveries_unseen_refused :
    (hub.history (fun _ => refusing) acts).map Report.seen =
        (hub.history (fun _ => cutting) acts).map Report.seen ∧
      (hub.history (fun _ => refusing) acts).map (fun report => report.attempts.length) =
        [2, 0, 2, 2] ∧
      (hub.carryOut cutting 0 (.call (.add twoAddresses))).error = some (.shortWrite 10 225) ∧
      FirstFailure cutting 0 (hub.strike 0 (.call (.add twoAddresses))).outgoing
        (hub.carryOut cutting 0 (.call (.add twoAddresses))).error := by
  obtain ⟨same, each⟩ := deliveries_unseen hub
  have first := ((each cutting 0 (.call (.add twoAddresses))).2.1 rfl).2 rfl
  refine ⟨same _ _ acts, by decide +kernel, by decide +kernel, ?_⟩
  exact first

/-- Nobody learns from a tick that nothing was sent. -/
theorem tick_reports_nothing :
    let asked := (hub.run refusing 0 (.add twoAddresses)).engine
    ((asked.run refusing 1000 .tick).attempts.map Attempt.error? =
        [some (.network "network unreachable"), some (.network "network unreachable")]) ∧
      ¬ FirstFailure refusing 0 (asked.stroke 1000 .tick).outgoing
        (asked.run refusing 1000 .tick).error := by
  refine ⟨by decide +kernel, fun first => ?_⟩
  have fails : failureAt refusing 0 ((hub.run refusing 0 (.add twoAddresses)).engine.stroke 1000
      .tick).outgoing 0 = some (.network "network unreachable") := by decide +kernel
  have silent (asked : Engine) : (asked.run refusing 1000 .tick).error = none := rfl
  rw [silent] at first
  cases first with
  | nothing all =>
      rw [all 0] at fails
      cases fails

end Unheeded
end NatReach
