import NatReach.Discovery.PeerTable

/-!
# No number is wasted

A number is taken before it is known whether a request goes out with it. But a plan goes to the roles
with an address only, and a tick asks in no other, so every number that is taken goes out.
-/
namespace NatReach

/-- The turn of a role when the clock ticks. The number is for the request, if one goes out. -/
def Remote.tickRole (remote : Remote) (pacing : Pacing) (now : Nat) (number : UInt32) (role : Role) :
    Option ProbeOrder × Remote :=
  if (remote.ip? role).isNone then (none, remote)
  else
    let probe := remote.probe role
    match probe.turn pacing now with
    | .rest => (none, remote)
    | .ask => remote.ask pacing now number role
    | .keep nat => (none, remote.setProbe role (probe.resolve nat now))
    | .giveUp => (none, remote.setProbe role probe.exhaust)

namespace PeerTable

/-- Puts a remote back. The fresh number is spent if a request with it is to go out. -/
def update (table : PeerTable) (id : String) (result : Option ProbeOrder × Remote) :
    Option ProbeOrder × PeerTable :=
  (result.1,
    { table with
      remotes := table.remotes.insert id result.2
      nextNumber := if result.1.isSome then table.freshNumber + 1 else table.nextNumber })

def withRemote (table : PeerTable) (id : String)
    (step : Remote → UInt32 → Option ProbeOrder × Remote) : Option ProbeOrder × PeerTable :=
  match table.get? id with
  | none => (none, table)
  | some remote => table.update id (step remote table.freshNumber)

def forRoles (id : String) (step : Role → Remote → UInt32 → Option ProbeOrder × Remote) :
    List Role → PeerTable → List ProbeOrder × PeerTable
  | [], table => ([], table)
  | role :: rest, table =>
    let (order, table) := table.withRemote id (step role)
    let (orders, table) := forRoles id step rest table
    (order.toList ++ orders, table)

section
variable {table : PeerTable} {id : String} {remote : Remote} {role : Role} {now : Nat}

@[simp] theorem get?_put_self (table : PeerTable) (id : String) (remote : Remote) :
    (table.put id remote).get? id = some remote :=
  OrderedMap.get?_insert_self ..

theorem get?_put (table : PeerTable) (id other : String) (remote : Remote) :
    (table.put id remote).get? other = if id = other then some remote else table.get? other :=
  OrderedMap.get?_insert ..

theorem put_get?_self (present : table.get? id = some remote) : table.put id remote = table := by
  unfold put
  rw [OrderedMap.insert_get?_self present]

theorem withRemote_of_present (present : table.get? id = some remote)
    (step : Remote → UInt32 → Option ProbeOrder × Remote) :
    table.withRemote id step = table.update id (step remote table.freshNumber) := by
  simp only [withRemote, present]

theorem withRemote_of_absent (absent : table.get? id = none)
    (step : Remote → UInt32 → Option ProbeOrder × Remote) :
    table.withRemote id step = (none, table) := by
  simp only [withRemote, absent]

theorem update_none (present : table.get? id = some remote) :
    table.update id (none, remote) = (none, table) :=
  Prod.ext rfl (put_get?_self present)

theorem ask_of_address (address : (remote.ip? role).isSome) (pacing : Pacing) (now : Nat)
    (number : UInt32) : (remote.ask pacing now number role).1.isSome := by
  obtain ⟨ip, found⟩ := Option.isSome_iff_exists.1 address
  simp [Remote.ask, found]

theorem ask_of_no_address (address : ¬ (remote.ip? role).isSome) (pacing : Pacing) (now : Nat)
    (number : UInt32) : remote.ask pacing now number role = (none, remote) := by
  rw [Option.not_isSome_iff_eq_none] at address
  simp [Remote.ask, address]

theorem ip?_ask (remote : Remote) (pacing : Pacing) (now : Nat) (number : UInt32) (role : Role) :
    (remote.ask pacing now number role).2.ip? = remote.ip? := by
  unfold Remote.ask
  split
  · rfl
  · funext other
    exact Remote.ip?_setProbe ..

theorem planRole_of_address (present : table.get? id = some remote)
    (address : (remote.ip? role).isSome) (now : Nat) :
    table.planRole id now role =
      table.update id (remote.ask table.pacing now table.freshNumber role) := by
  have there : ({ table with nextNumber := table.freshNumber + 1 } : PeerTable).get? id = some remote :=
    present
  simp only [planRole, allocate, there, update, ask_of_address address, ↓reduceIte]
  rfl

theorem tickRole_eq_withRemote (table : PeerTable) (id : String) (now : Nat) (role : Role) :
    table.tickRole id now role =
      table.withRemote id fun remote number => remote.tickRole table.pacing now number role := by
  unfold PeerTable.tickRole
  split
  · rename_i absent
    rw [withRemote_of_absent absent]
  · rename_i remote present
    rw [withRemote_of_present present, Remote.tickRole, Remote.turn]
    by_cases address : (remote.ip? role).isSome
    · have some : (remote.ip? role).isNone = false := Option.isNone_eq_false_iff.2 address
      rw [if_pos address, some]
      dsimp only
      cases (remote.probe role).turn table.pacing now with
      | rest => exact (update_none present).symm
      | ask => exact planRole_of_address present address now
      | keep nat => rfl
      | giveUp => rfl
    · have none : (remote.ip? role).isNone := by simpa using address
      rw [if_neg address, if_pos none, update_none present]

end

theorem pacing_withRemote (table : PeerTable) (id : String)
    (step : Remote → UInt32 → Option ProbeOrder × Remote) :
    (table.withRemote id step).2.pacing = table.pacing := by
  unfold withRemote
  split <;> rfl

theorem inRoles_planRole {pacing : Pacing} {id : String} (now : Nat) (roles : List Role)
    {table : PeerTable} (same : table.pacing = pacing) {remote : Remote}
    (present : table.get? id = some remote) :
    inRoles (fun table role => table.planRole id now role)
        (roles.filter fun role => (remote.ip? role).isSome) table =
      forRoles id (fun role remote number => remote.ask pacing now number role) roles table := by
  subst same
  induction roles generalizing table remote with
  | nil => rfl
  | cons role rest ih =>
      rw [forRoles, withRemote_of_present present]
      by_cases address : (remote.ip? role).isSome
      · rw [List.filter_cons, if_pos address, inRoles, planRole_of_address present address]
        have there : (table.update id (remote.ask table.pacing now table.freshNumber role)).2.get? id =
            some (remote.ask table.pacing now table.freshNumber role).2 := OrderedMap.get?_insert_self ..
        have later := ih there
        rw [ip?_ask] at later
        exact congrArg (fun result => (_ ++ result.1, result.2)) later
      · rw [List.filter_cons, if_neg address, ask_of_no_address address, update_none present]
        exact ih present

/-- A plan asks in every role, if there is an address, and takes a number only then. -/
theorem plan_eq_forRoles (table : PeerTable) (id : String) (now : Nat) :
    table.plan id now =
      forRoles id (fun role remote number => remote.ask table.pacing now number role)
        Role.inOrder table := by
  unfold plan
  split
  · rename_i absent
    simp only [forRoles, Role.inOrder, withRemote_of_absent absent]
    rfl
  · rename_i remote present
    exact inRoles_planRole now Role.inOrder rfl present

theorem inRoles_tickRole {pacing : Pacing} (id : String) (now : Nat) (roles : List Role)
    {table : PeerTable} (same : table.pacing = pacing) :
    inRoles (fun table role => table.tickRole id now role) roles table =
      forRoles id (fun role remote number => remote.tickRole pacing now number role) roles table := by
  subst same
  induction roles generalizing table with
  | nil => rfl
  | cons role rest ih =>
      let step (remote : Remote) (number : UInt32) := remote.tickRole table.pacing now number role
      have later := @ih (table.withRemote id step).2
      rw [pacing_withRemote] at later
      rw [inRoles, tickRole_eq_withRemote, forRoles]
      exact congrArg (fun result => (_ ++ result.1, result.2)) later

theorem tickRemote_eq_forRoles (table : PeerTable) (now : Nat) (id : String) :
    table.tickRemote now id =
      let (orders, after) :=
        forRoles id (fun role remote number => remote.tickRole table.pacing now number role)
          Role.inOrder table
      let (route, after) := after.giveUp id
      (⟨orders, route.toList⟩, after) := by
  rw [tickRemote, inRoles_tickRole id now Role.inOrder rfl]

end PeerTable
end NatReach
