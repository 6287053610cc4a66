import NatReach.Proofs.Engine.Side
import NatReach.Proofs.PeerTable.Room
import NatReach.Proofs.PeerTable.Standing

namespace NatReach
open PeerTable

namespace Side

/-- What a gateway can come to from some state. -/
inductive Leads (start : Side) : Side → Prop
  | refl : Leads start start
  | strike {side : Side} (leads : Leads start side) (network : Network) (now : Nat) (deed : Deed)
      (room : HasRoom (side.strike network now deed).engine.table) :
      Leads start (side.strike network now deed)
  | revise {side : Side} (leads : Leads start side) (edits : List Edit) :
      Leads start { side with engine := (side.engine.revise edits).1 }
  | reroute {side : Side} (leads : Leads start side) (sourceFor : Ip → Option Ip) (listening : Bool) :
      Leads start { side with engine := { side.engine with sourceFor, listening } }

structure Fit (side : Side) : Prop where
  traces : Traces side.log side.engine.table
  apart : Apart side.engine.table

theorem Fit.new {engine : Engine} {pacing : Pacing} {family : Family} {first : UInt32}
    (fresh : engine.table = .new pacing family first) : Fit { engine } := by
  constructor
  · change Traces [] engine.table
    rw [fresh]
    exact .new pacing family first
  · change Apart engine.table
    rw [fresh]
    exact .new pacing family first

theorem operations_shape (engine : Engine) (now : Nat) (deed : Deed) :
    engine.operations now deed = [] ∨ (∃ operation, engine.operations now deed = [operation]) ∨
      ∃ endpoint, engine.operations now deed =
        [.add endpoint now, .plan endpoint.cable now] := by
  cases deed with
  | tickAlong walk => exact .inr (.inl ⟨_, rfl⟩)
  | call call =>
      cases call with
      | add endpoint =>
          simp only [Engine.operations]
          split
          · exact .inl rfl
          · rcases Engine.additions_shape engine.table endpoint now with alone | asked
            · exact .inr (.inl ⟨_, alone⟩)
            · exact .inr (.inr ⟨endpoint, asked⟩)
      | receive datagram source =>
          rw [Engine.operations_receive]
          rcases Engine.receptions_shape source now (Datagram.decode datagram) with
            nothing | ⟨id, number, nat, single⟩
          · exact .inl nothing
          · exact .inr (.inl ⟨_, single⟩)
      | remove id => exact .inr (.inl ⟨_, rfl⟩)
      | check id => exact .inr (.inl ⟨_, rfl⟩)
      | tick => exact .inr (.inl ⟨_, rfl⟩)

theorem apart_strike {side : Side} (apart : Apart side.engine.table) {network : Network} {now : Nat}
    {deed : Deed} (room : HasRoom (side.strike network now deed).engine.table) :
    Apart (side.strike network now deed).engine.table := by
  rw [engine_strike] at room ⊢
  dsimp only at room ⊢
  rcases operations_shape side.engine now deed with none | ⟨operation, single⟩ | ⟨endpoint, both⟩
  · rw [none]
    exact apart
  · rw [single, run_singleton] at room ⊢
    exact perform_apart apart fun _ => room
  · rw [both, run_pair] at room ⊢
    have added : Apart (side.engine.table.perform (.add endpoint now)).2 :=
      perform_apart apart fun asks => absurd (issued_add ..) asks
    exact perform_apart added fun _ => room

variable {start side : Side}

theorem Fit.strike (fit : side.Fit) {network : Network} {now : Nat} {deed : Deed}
    (room : HasRoom (side.strike network now deed).engine.table) :
    (side.strike network now deed).Fit where
  traces := by
    rw [engine_strike]
    exact fit.traces.run _
  apart := apart_strike fit.apart room

theorem Leads.fit (leads : start.Leads side) (fit : start.Fit) : side.Fit := by
  induction leads with
  | refl => exact fit
  | strike leads network now deed room ih => exact ih.strike room
  | revise leads edits ih => exact ⟨ih.traces, ih.apart⟩
  | reroute leads sourceFor listening ih => exact ⟨ih.traces, ih.apart⟩

theorem Leads.family (leads : start.Leads side) :
    side.engine.table.family = start.engine.table.family := by
  induction leads with
  | refl => rfl
  | @strike side leads network now deed room ih => exact (side.family_strike network now deed).trans ih
  | revise leads edits ih => exact ih
  | reroute leads sourceFor listening ih => exact ih

end Side
end NatReach
