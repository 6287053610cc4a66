import NatReach.Address.Socket
import NatReach.Discovery.Route
import NatReach.Text.Quoted

/-!
# Remotes

A remote is an endpoint of another cluster that answers probes, with what is known about its two
addresses. The best route to it follows from that: the private address if nobody alters addresses on
the way to it, else the public address if it answered, else the private address all the same.

An answer counts only if it bears the number of the last request to one of the addresses. An answer
about the private address must also come from there: nobody alters private addresses, so another
source means that somebody else answers.

A remote none of whose addresses answers is given up once: its fallback route is handed out then.
-/
namespace NatReach

structure Remote where
  endpoint : Endpoint
  family : Family
  port : UInt16
  started : Nat
  viaPublic : Probe := {}
  viaPrivate : Probe := {}
  fallbackGiven : Bool := false
  lastRoute : Option Route := none
deriving DecidableEq

/-- A request that must go out. Its number is already on record. -/
structure ProbeOrder where
  id : String
  receiver : Identity
  role : Role
  number : UInt32
  destination : SocketAddress
deriving DecidableEq

inductive ResponseRejection where
  | unknownEndpoint (id : String)
  | unknownNumber (id : String) (number : UInt32) (lastPublic lastPrivate : Option UInt32)
  | foreignSource (id : String) (expected : Option Ip) (observed : Ip)
deriving DecidableEq

namespace ResponseRejection

def shown : Option String → String
  | none => "None"
  | some text => "Some(" ++ text ++ ")"

def shownNumber (number : Option UInt32) : String := shown (number.map fun n => toString n.toNat)

def message : ResponseRejection → String
  | unknownEndpoint id => "received response from unknown endpoint " ++ Text.quote id
  | unknownNumber id number lastPublic lastPrivate =>
    "received response for unknown request id 0x" ++ String.ofList (Numeral.hex number.toNat) ++
      " from " ++ Text.quote id ++ ", last public request id: " ++ shownNumber lastPublic ++
      ", last private request id: " ++ shownNumber lastPrivate
  | foreignSource id expected observed =>
    "response for NAT discovery on endpoint " ++ Text.quote id ++ " private IP " ++
      shown (expected.map Ip.text) ++ " comes from different IP " ++ observed.text ++
      ", NAT on private IPs is unlikely and filtered for security reasons"

end ResponseRejection

namespace Remote

def probe (remote : Remote) : Role → Probe
  | .viaPublic => remote.viaPublic
  | .viaPrivate => remote.viaPrivate

def setProbe (remote : Remote) (role : Role) (probe : Probe) : Remote :=
  match role with
  | .viaPublic => { remote with viaPublic := probe }
  | .viaPrivate => { remote with viaPrivate := probe }

def ip? (remote : Remote) (role : Role) : Option Ip := remote.endpoint.ip? remote.family role

/-- The roles in which there is an address to probe, in the order in which they are probed. -/
def roles (remote : Remote) : List Role :=
  Role.inOrder.filter fun role => (remote.ip? role).isSome

def anyKnown (remote : Remote) : Bool :=
  remote.viaPublic.known.isSome || remote.viaPrivate.known.isSome

/-! ## The route -/

def outcome? (remote : Remote) (role : Role) : Option (Bool × Ip) := do
  return (← (remote.probe role).known, ← remote.ip? role)

def route? (remote : Remote) : Option Route :=
  match remote.outcome? .viaPrivate, remote.outcome? .viaPublic with
  | some (false, ip), _ => some (remote.endpoint.routeVia ip false (some .viaPrivate))
  | _, some (nat, ip) => some (remote.endpoint.routeVia ip nat (some .viaPublic))
  | some (true, ip), none => some (remote.endpoint.routeVia ip true (some .viaPrivate))
  | none, none => none

def fallback? (remote : Remote) : Option Route := remote.endpoint.fallbackRoute? remote.family

def handOut (remote : Remote) : Option Route × Remote :=
  match remote.route? with
  | none => (none, remote)
  | some route =>
    if remote.lastRoute = some route then (none, remote)
    else (some route, { remote with lastRoute := some route })

/-! ## Asking -/

def ask (remote : Remote) (pacing : Pacing) (now : Nat) (number : UInt32) (role : Role) :
    Option ProbeOrder × Remote :=
  match remote.ip? role with
  | none => (none, remote)
  | some ip =>
    (some {
      id := remote.endpoint.cable
      receiver := remote.endpoint.identity
      role
      number
      destination := .ofIp ip remote.port },
    remote.setProbe role ((remote.probe role).record number now pacing))

def turn (remote : Remote) (pacing : Pacing) (now : Nat) (role : Role) : Turn :=
  if (remote.ip? role).isSome then (remote.probe role).turn pacing now else .rest

/-- Whether the remote is to be given up: nothing is known, and nothing is left to try. -/
def isHopeless (remote : Remote) : Bool :=
  !remote.fallbackGiven && !remote.anyKnown &&
    remote.roles.all fun role => (remote.probe role).exhausted

def giveUp (remote : Remote) : Option Route × Remote :=
  if remote.isHopeless then
    match remote.fallback? with
    | none => (none, { remote with fallbackGiven := true })
    | some route => (some route, { remote with fallbackGiven := true, lastRoute := some route })
  else (none, remote)

/-! ## Answers -/

def accept (remote : Remote) (role : Role) (nat : Bool) (now : Nat) : Option Route × Remote :=
  let settled := remote.setProbe role ((remote.probe role).settle nat now)
  if (remote.probe role).isNews nat then settled.handOut else (none, settled)

/-- Takes an answer with the number of its request, from where it came and with its verdict. -/
def respond (remote : Remote) (number : UInt32) (source : Ip) (nat : Bool) (now : Nat) :
    Except ResponseRejection (Option Route) × Remote :=
  if remote.viaPublic.lastRequest = some number then
    let (route, remote) := remote.accept .viaPublic nat now
    (.ok route, remote)
  else if remote.viaPrivate.lastRequest = some number then
    if remote.ip? .viaPrivate = some source then
      let (route, remote) := remote.accept .viaPrivate nat now
      (.ok route, remote)
    else (.error (.foreignSource remote.endpoint.cable (remote.ip? .viaPrivate) source), remote)
  else
    (.error (.unknownNumber remote.endpoint.cable number remote.viaPublic.lastRequest
      remote.viaPrivate.lastRequest), remote)

/-! ## The two roles are apart -/

@[simp] theorem probe_setProbe (remote : Remote) (role : Role) (probe : Probe) :
    (remote.setProbe role probe).probe role = probe := by cases role <;> rfl

theorem probe_setProbe_of_ne (remote : Remote) {role other : Role} (probe : Probe)
    (different : role ≠ other) : (remote.setProbe role probe).probe other = remote.probe other := by
  cases role <;> cases other <;> first | rfl | exact absurd rfl different

theorem setProbe_probe (remote : Remote) (role : Role) :
    remote.setProbe role (remote.probe role) = remote := by
  cases role <;> rfl

@[simp] theorem endpoint_setProbe (remote : Remote) (role : Role) (probe : Probe) :
    (remote.setProbe role probe).endpoint = remote.endpoint := by cases role <;> rfl

@[simp] theorem family_setProbe (remote : Remote) (role : Role) (probe : Probe) :
    (remote.setProbe role probe).family = remote.family := by cases role <;> rfl

@[simp] theorem port_setProbe (remote : Remote) (role : Role) (probe : Probe) :
    (remote.setProbe role probe).port = remote.port := by cases role <;> rfl

@[simp] theorem fallbackGiven_setProbe (remote : Remote) (role : Role) (probe : Probe) :
    (remote.setProbe role probe).fallbackGiven = remote.fallbackGiven := by cases role <;> rfl

@[simp] theorem lastRoute_setProbe (remote : Remote) (role : Role) (probe : Probe) :
    (remote.setProbe role probe).lastRoute = remote.lastRoute := by cases role <;> rfl

@[simp] theorem ip?_setProbe (remote : Remote) (role other : Role) (probe : Probe) :
    (remote.setProbe role probe).ip? other = remote.ip? other := by cases role <;> rfl

theorem probe_setProbe_eq (remote : Remote) (role other : Role) (probe : Probe) :
    (remote.setProbe role probe).probe other =
      if role = other then probe else remote.probe other := by
  split
  · rename_i same
    subst same
    simp
  · rename_i different
    exact remote.probe_setProbe_of_ne probe different

theorem forall_setProbe {P : Role → Probe → Prop} {remote : Remote} {role : Role} {probe : Probe}
    (here : P role probe) (before : ∀ other, P other (remote.probe other)) (other : Role) :
    P other ((remote.setProbe role probe).probe other) := by
  rw [probe_setProbe_eq]
  split
  · rename_i same
    rwa [← same]
  · exact before other

theorem probe_setProbe_congr {α : Type} (view : Probe → α) {remote : Remote} {role : Role}
    {probe : Probe} (same : view probe = view (remote.probe role)) (other : Role) :
    view ((remote.setProbe role probe).probe other) = view (remote.probe other) :=
  forall_setProbe (P := fun other probe => view probe = view (remote.probe other)) same
    (fun _ => rfl) other

/-! ## What an operation changes -/

@[simp] theorem probe_given (remote : Remote) (given : Bool) (route : Option Route) (role : Role) :
    ({ remote with fallbackGiven := given, lastRoute := route } : Remote).probe role =
      remote.probe role := by cases role <;> rfl

theorem handOut_frame (remote : Remote) :
    remote.handOut.2 = { remote with lastRoute := remote.handOut.2.lastRoute } := by
  unfold handOut
  split
  · rfl
  · split <;> rfl

theorem giveUp_of_hopeless {remote : Remote} (hopeless : remote.isHopeless = true) :
    remote.giveUp = (remote.fallback?, { remote with
      fallbackGiven := true
      lastRoute := remote.fallback?.or remote.lastRoute }) := by
  unfold giveUp
  rw [if_pos hopeless]
  split
  · rename_i nowhere
    simp [nowhere]
  · rename_i route fallback
    simp [fallback]

theorem giveUp_of_not_hopeless {remote : Remote} (hopeful : ¬ remote.isHopeless = true) :
    remote.giveUp = (none, remote) := if_neg hopeful

theorem accept_eq {remote : Remote} {role : Role} {nat : Bool} {now : Nat} {route : Route}
    (found : (remote.setProbe role ((remote.probe role).settle nat now)).route? = some route) :
    remote.accept role nat now =
      let settled := remote.setProbe role ((remote.probe role).settle nat now)
      if (remote.probe role).isNews nat = true ∧ remote.lastRoute ≠ some route then
        (some route, { settled with lastRoute := some route })
      else (none, settled) := by
  unfold accept handOut
  dsimp only
  rw [found, lastRoute_setProbe]
  by_cases news : (remote.probe role).isNews nat = true
  · by_cases same : remote.lastRoute = some route <;> simp [news, same]
  · simp [news]

theorem accept_frame (remote : Remote) (role : Role) (nat : Bool) (now : Nat) :
    (remote.accept role nat now).2 =
      { remote.setProbe role ((remote.probe role).settle nat now) with
        lastRoute := (remote.accept role nat now).2.lastRoute } := by
  unfold accept
  dsimp only
  split
  · exact handOut_frame _
  · rfl

@[simp] theorem endpoint_accept (remote : Remote) (role : Role) (nat : Bool) (now : Nat) :
    (remote.accept role nat now).2.endpoint = remote.endpoint := by
  rw [accept_frame]
  exact endpoint_setProbe ..

@[simp] theorem family_accept (remote : Remote) (role : Role) (nat : Bool) (now : Nat) :
    (remote.accept role nat now).2.family = remote.family := by
  rw [accept_frame]
  exact family_setProbe ..

@[simp] theorem port_accept (remote : Remote) (role : Role) (nat : Bool) (now : Nat) :
    (remote.accept role nat now).2.port = remote.port := by
  rw [accept_frame]
  exact port_setProbe ..

@[simp] theorem fallbackGiven_accept (remote : Remote) (role : Role) (nat : Bool) (now : Nat) :
    (remote.accept role nat now).2.fallbackGiven = remote.fallbackGiven := by
  rw [accept_frame]
  exact fallbackGiven_setProbe ..

@[simp] theorem ip?_accept (remote : Remote) (role other : Role) (nat : Bool) (now : Nat) :
    (remote.accept role nat now).2.ip? other = remote.ip? other := by
  simp only [ip?, endpoint_accept, family_accept]

theorem giveUp_frame (remote : Remote) :
    remote.giveUp.2 = { remote with
      fallbackGiven := remote.giveUp.2.fallbackGiven
      lastRoute := remote.giveUp.2.lastRoute } := by
  by_cases hopeless : remote.isHopeless = true
  · rw [giveUp_of_hopeless hopeless]
  · rw [giveUp_of_not_hopeless hopeless]

@[simp] theorem endpoint_giveUp (remote : Remote) : remote.giveUp.2.endpoint = remote.endpoint := by
  rw [giveUp_frame]

@[simp] theorem family_giveUp (remote : Remote) : remote.giveUp.2.family = remote.family := by
  rw [giveUp_frame]

@[simp] theorem ip?_giveUp (remote : Remote) (role : Role) :
    remote.giveUp.2.ip? role = remote.ip? role := by
  simp only [ip?, endpoint_giveUp, family_giveUp]

theorem probe_giveUp (remote : Remote) (role : Role) :
    remote.giveUp.2.probe role = remote.probe role := by
  rw [giveUp_frame, probe_given]

theorem probe_accept (remote : Remote) (role other : Role) (nat : Bool) (now : Nat) :
    (remote.accept role nat now).2.probe other =
      if role = other then (remote.probe role).settle nat now else remote.probe other := by
  rw [accept_frame, ← probe_setProbe_eq]
  cases other <;> rfl

theorem ask_eq_some_iff {remote after : Remote} {pacing : Pacing} {now : Nat} {number : UInt32}
    {role : Role} {order : ProbeOrder} :
    remote.ask pacing now number role = (some order, after) ↔
      ∃ ip, remote.ip? role = some ip ∧
        order = ⟨remote.endpoint.cable, remote.endpoint.identity, role, number,
          .ofIp ip remote.port⟩ ∧
        after = remote.setProbe role ((remote.probe role).record number now pacing) := by
  unfold ask
  cases remote.ip? role with
  | none => simp
  | some ip => simp [eq_comm]

end Remote
end NatReach
