import NatReach.Proofs.Engine.Deed
import NatReach.Proofs.PeerTable.Told

namespace NatReach
open PeerTable

namespace PeerTable
variable {log events : List Event} {table : PeerTable}

def Ran (log : List Event) (table : PeerTable) : Prop :=
  ∃ pacing family first operations, run operations (new pacing family first) = (log, table)

theorem Ran.new (pacing : Pacing) (family : Family) (first : UInt32) :
    Ran [] (.new pacing family first) := ⟨pacing, family, first, [], rfl⟩

theorem Ran.run (ran : Ran log table) (operations : List Operation) :
    Ran (log ++ (PeerTable.run operations table).1) (PeerTable.run operations table).2 := by
  obtain ⟨pacing, family, first, before, ran⟩ := ran
  refine ⟨pacing, family, first, before ++ operations, ?_⟩
  rw [run_append, ran]

theorem Ran.agrees (ran : Ran log table) (few : (issued log).length ≤ UInt32.size) :
    ((issued log).map (·.number)).Nodup ∧ Agrees log table := by
  obtain ⟨pacing, family, first, operations, ran⟩ := ran
  obtain ⟨numbered, agrees, -⟩ := run_agrees ran few
  exact ⟨numbered.nodup few, agrees⟩

theorem few_before (few : (issued (log ++ events)).length ≤ UInt32.size) :
    (issued log).length ≤ UInt32.size := by
  rw [issued_append, List.length_append] at few
  omega

end PeerTable

/-- A gateway, with the log of its table, what it handed to the network and which requests it took
in. -/
structure Side where
  engine : Engine
  log : List Event := []
  sent : List Attempt := []
  received : List Reception := []

namespace Side

def strike (side : Side) (network : Network) (now : Nat) (deed : Deed) : Side where
  engine := (side.engine.strike now deed).engine
  log := side.log ++ (PeerTable.run (side.engine.operations now deed) side.engine.table).1
  sent := side.sent ++ (sendAll network 0 (side.engine.strike now deed).outgoing).1
  received := side.received ++ side.engine.heard deed

theorem engine_strike (side : Side) (network : Network) (now : Nat) (deed : Deed) :
    (side.strike network now deed).engine = { side.engine with
      table := (PeerTable.run (side.engine.operations now deed) side.engine.table).2 } :=
  (Engine.strike_amounts side.engine now deed).changed

theorem family_strike (side : Side) (network : Network) (now : Nat) (deed : Deed) :
    (side.strike network now deed).engine.table.family = side.engine.table.family := by
  rw [engine_strike]
  obtain ⟨events, changes, -⟩ := run_changes (side.engine.operations now deed) side.engine.table
  exact changes.fixed.2

theorem ran_strike {side : Side} (ran : Ran side.log side.engine.table) (network : Network)
    (now : Nat) (deed : Deed) :
    Ran (side.strike network now deed).log (side.strike network now deed).engine.table := by
  rw [engine_strike]
  exact ran.run _

end Side
end NatReach
