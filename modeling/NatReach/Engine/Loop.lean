import NatReach.Engine.Basic

/-!
# The loop of a gateway

One loop serves a gateway: datagrams come in, endpoints come and go, and the clock ticks in a fixed
period. Nothing that comes in ends the loop, and what fails is not reported; only a shutdown ends
it.

A tick that comes a little late does not move the ticks after it, so with a short period some ticks
may come at once. After one that comes too late the period starts anew, and ticks that were missed
are not made up for.
-/
namespace NatReach

inductive LoopInput where
  | added (endpoint : Endpoint)
  | removed (id : String)
  /-- Nobody will tell of endpoints any more. -/
  | directoryClosed
  | received (datagram : List UInt8) (source : SocketAddress)
  | receiveFailed
  | passed (time : Nat)
  | shutdown

structure Loop where
  engine : Engine
  period : Nat
  now : Nat
  nextTick : Nat
  directoryOpen : Bool := true
  running : Bool := true

structure LoopReport where
  loop : Loop
  routes : List Route := []
  attempts : List Attempt := []

namespace Loop

def tolerance : Nat := 5

/-- How many octets of a datagram are received: one more than any may have, so that one that is too
large is seen to be. -/
def bufferSize : Nat := Datagram.maxSize + 1

/-- When the tick after the one that was due at a time comes, if that one comes now. -/
def tickAfter (due now period : Nat) : Nat :=
  if due + tolerance < now then now + period else due + period

def call (loop : Loop) (network : Network) (call : Call) : LoopReport :=
  let report := loop.engine.run network loop.now call
  { loop := { loop with engine := report.engine }
    routes := report.routes
    attempts := report.attempts }

def tick (loop : Loop) (network : Network) : LoopReport :=
  call { loop with nextTick := tickAfter loop.nextTick loop.now loop.period } network .tick

def tickUpTo : (most : Nat) → Loop → Network → LoopReport
  | 0, loop, _ => { loop }
  | most + 1, loop, network =>
    if loop.nextTick ≤ loop.now then
      let first := loop.tick network
      let later := tickUpTo most first.loop fun position =>
        network (first.attempts.length + position)
      { loop := later.loop
        routes := first.routes ++ later.routes
        attempts := first.attempts ++ later.attempts }
    else { loop }

/-- Ticks as long as that is due. Ticks come at once only within the tolerance, and a loop does not
start with a period shorter than a millisecond. -/
def tickWhileDue (loop : Loop) (network : Network) : LoopReport :=
  tickUpTo (tolerance + 1) loop network

/-- A loop that starts now and ticks at once. A period of no time is one millisecond. -/
def start (engine : Engine) (period : Nat) (network : Network) : LoopReport :=
  tickWhileDue { engine, period := max period 1, now := 0, nextTick := 0 } network

def noticesDirectory (loop : Loop) : Bool := loop.running && loop.directoryOpen

def step (loop : Loop) (network : Network) (input : LoopInput) : LoopReport :=
  if !loop.running then { loop }
  else
    match input with
    | .added endpoint =>
      if loop.directoryOpen then loop.call network (.add endpoint) else { loop }
    | .removed id => if loop.directoryOpen then loop.call network (.remove id) else { loop }
    | .directoryClosed => { loop := { loop with directoryOpen := false } }
    | .received datagram source =>
      loop.call network (.receive (datagram.take bufferSize) source)
    | .receiveFailed => { loop }
    | .passed time => tickWhileDue { loop with now := loop.now + time } network
    | .shutdown => { loop := { loop with running := false } }

/-! ## No tick stays due -/

@[simp] theorem now_tick (loop : Loop) (network : Network) :
    (loop.tick network).loop.now = loop.now := rfl

@[simp] theorem period_tick (loop : Loop) (network : Network) :
    (loop.tick network).loop.period = loop.period := rfl

@[simp] theorem nextTick_tick (loop : Loop) (network : Network) :
    (loop.tick network).loop.nextTick = tickAfter loop.nextTick loop.now loop.period := rfl

theorem nextTick_tickUpTo {most : Nat} {loop : Loop} (network : Network)
    (positive : 0 < loop.period) (enough : loop.now < loop.nextTick + most) :
    (tickUpTo most loop network).loop.now < (tickUpTo most loop network).loop.nextTick := by
  induction most generalizing loop network with
  | zero => simpa [tickUpTo] using enough
  | succ most ih =>
      simp only [tickUpTo]
      split
      · apply ih
        · simpa using positive
        · simp only [now_tick, nextTick_tick, tickAfter]
          split <;> omega
      · simp only
        omega

theorem nextTick_tickWhileDue {loop : Loop} (network : Network) (positive : 0 < loop.period) :
    (loop.tickWhileDue network).loop.now < (loop.tickWhileDue network).loop.nextTick := by
  unfold tickWhileDue
  by_cases late : loop.nextTick + tolerance < loop.now
  · have due : loop.nextTick ≤ loop.now := by omega
    simp only [tickUpTo, due, ↓reduceIte]
    refine nextTick_tickUpTo _ (by simpa using positive) ?_
    simp only [now_tick, nextTick_tick, tickAfter, late, ↓reduceIte]
    omega
  · exact nextTick_tickUpTo network positive (by omega)

theorem nextTick_start (engine : Engine) (period : Nat) (network : Network) :
    (start engine period network).loop.now < (start engine period network).loop.nextTick :=
  nextTick_tickWhileDue network (Nat.lt_of_lt_of_le Nat.zero_lt_one (Nat.le_max_right period 1))

end Loop
end NatReach
