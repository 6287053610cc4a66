import NatReach.Proofs.PeerTable.Numbering

/-!
# What a log tells about an endpoint

The chronicle of an endpoint is read off the log alone. It begins when the discovery of the endpoint
begins, or begins anew, and ends when the endpoint is dropped. It holds the requests to the
endpoint, the verdicts of the answers that were accepted and the routes that were handed out, in
each list the latest first.
-/
namespace NatReach

section
variable {α β : Type} {related : α → β → Prop}

theorem exists_right_of_rel {left : α} {second : Option β}
    (rel : Option.Rel related (some left) second) : ∃ right, second = some right ∧ related left right := by
  cases rel with
  | some fits => exact ⟨_, rfl, fits⟩

theorem exists_left_of_rel {first : Option α} {right : β}
    (rel : Option.Rel related first (some right)) : ∃ left, first = some left ∧ related left right := by
  cases rel with
  | some fits => exact ⟨_, rfl, fits⟩

end

/-- A list, the latest first, without the values that equal their predecessors. -/
def dropRepeats {α : Type} [DecidableEq α] : List α → List α
  | [] => []
  | value :: earlier =>
    if earlier.head? = some value then dropRepeats earlier else value :: dropRepeats earlier

theorem head?_dropRepeats {α : Type} [DecidableEq α] (values : List α) :
    (dropRepeats values).head? = values.head? := by
  induction values with
  | nil => rfl
  | cons value earlier ih =>
      simp only [dropRepeats]
      split
      · rename_i repeated
        rw [ih, repeated, List.head?_cons]
      · rfl

/-- The route that a choice by verdicts alone prefers: the private address if nobody alters
addresses on the way to it, else the public address if it answered, else the private address. -/
def Endpoint.preferred? (endpoint : Endpoint) (family : Family) (verdict? : Role → Option Bool) :
    Option Route :=
  if verdict? .viaPrivate = some false then
    (endpoint.privateIp? family).map fun ip => endpoint.routeVia ip false (some .viaPrivate)
  else
    match verdict? .viaPublic with
    | some nat =>
      (endpoint.publicIp? family).map fun ip => endpoint.routeVia ip nat (some .viaPublic)
    | none =>
      (endpoint.privateIp? family).map fun ip => endpoint.routeVia ip true (some .viaPrivate)

namespace PeerTable

/-- What a log tells about the present discovery of an endpoint. -/
structure Chronicle where
  endpoint : Endpoint
  orders : List ProbeOrder := []
  verdicts : List (Role × Bool) := []
  routes : List Route := []

def verdict? (verdicts : List (Role × Bool)) (role : Role) : Option Bool :=
  (verdicts.find? fun verdict => verdict.1 = role).map Prod.snd

namespace Chronicle

def latest? (story : Chronicle) (role : Role) : Option ProbeOrder :=
  story.orders.find? fun order => order.role = role

def roleOf? (story : Chronicle) (number : UInt32) : Option Role :=
  (story.orders.find? fun order => order.number = number).map (·.role)

def choices (endpoint : Endpoint) (family : Family) : List (Role × Bool) → List (Option Route)
  | [] => []
  | verdict :: earlier =>
    endpoint.preferred? family (verdict? (verdict :: earlier)) :: choices endpoint family earlier

def ask (story : Chronicle) (order : ProbeOrder) : Chronicle :=
  { story with orders := order :: story.orders }

def handOut (story : Chronicle) (route : Option Route) : Chronicle :=
  { story with routes := route.toList ++ story.routes }

def hear (story : Chronicle) (number : UInt32) (nat : Bool) : Chronicle :=
  { story with
    verdicts := ((story.roleOf? number).map fun role => (role, nat)).toList ++ story.verdicts }

def note (id : String) (story : Option Chronicle) : Event → Option Chronicle
  | .tracked endpoint => if endpoint.cable = id then some { endpoint } else story
  | .dropped other => if other = id then none else story
  | .asked order => if order.id = id then story.map (·.ask order) else story
  | .gaveUp route =>
    if route.endpoint.cable = id then story.map (·.handOut (some route)) else story
  | .answered other number nat route =>
    if other = id then story.map fun story => (story.hear number nat).handOut route else story

end Chronicle

/-- The chronicle of a name after a log. -/
def chronicle (id : String) (log : List Event) : Option Chronicle :=
  log.foldl (Chronicle.note id) none

theorem chronicle_append (id : String) (front back : List Event) :
    chronicle id (front ++ back) = back.foldl (Chronicle.note id) (chronicle id front) :=
  List.foldl_append ..

theorem SameReading.chronicle {a b : List Event} (same : SameReading a b) (id : String) :
    PeerTable.chronicle id a = PeerTable.chronicle id b := by
  apply same.foldl_eq
  intro story order route
  cases story with
  | none => simp [Chronicle.note]
  | some story =>
      simp only [Chronicle.note]
      split <;> split <;> rfl

theorem verdict?_cons (role other : Role) (nat : Bool) (earlier : List (Role × Bool)) :
    verdict? ((role, nat) :: earlier) other =
      if role = other then some nat else verdict? earlier other := by
  simp only [verdict?, List.find?_cons]
  by_cases same : role = other <;> simp [same]

theorem verdict?_isSome_of_mem {verdicts : List (Role × Bool)} {role : Role} {nat : Bool}
    (member : (role, nat) ∈ verdicts) : (verdict? verdicts role).isSome := by
  cases nat with
  | false => simpa [verdict?] using .inl member
  | true => simpa [verdict?] using .inr member

/-! ## Events without answers -/

def Event.isAnswer : Event → Bool
  | answered .. => true
  | _ => false

def Operation.isAnswer : Operation → Bool
  | respond .. => true
  | _ => false

theorem perform_silent {operation : Operation} (silent : operation.isAnswer = false)
    (table : PeerTable) : ∀ event ∈ (table.perform operation).1, event.isAnswer = false := by
  intro event member
  cases operation with
  | add endpoint now =>
      simp only [perform] at member
      cases admission : (table.add endpoint now).1 <;>
        simp [admission, Admission.events] at member <;> rw [member] <;> rfl
  | remove id =>
      rw [List.mem_singleton.1 member]
      rfl
  | plan id now =>
      obtain ⟨order, -, rfl⟩ := List.mem_map.1 member
      rfl
  | tick walk now =>
      rcases List.mem_append.1 member with asked | gaveUp
      · obtain ⟨order, -, rfl⟩ := List.mem_map.1 asked
        rfl
      · obtain ⟨route, -, rfl⟩ := List.mem_map.1 gaveUp
        rfl
  | respond => cases silent

theorem run_silent {operations : List Operation}
    (silent : ∀ operation ∈ operations, operation.isAnswer = false) (table : PeerTable) :
    ∀ event ∈ (run operations table).1, event.isAnswer = false := by
  induction operations generalizing table with
  | nil => exact fun event member => by cases member
  | cons operation rest ih =>
      intro event member
      rcases List.mem_append.1 member with first | later
      · exact perform_silent (silent operation List.mem_cons_self) table event first
      · exact ih (fun other member => silent other (List.mem_cons_of_mem _ member)) _ event later

theorem Chronicle.note_silent {id : String} {event : Event} (silent : event.isAnswer = false)
    {before : Option Chronicle} {later : Chronicle} (noted : note id before event = some later)
    (heard : later.verdicts ≠ []) :
    ∃ earlier, before = some earlier ∧ earlier.endpoint = later.endpoint ∧
      earlier.verdicts = later.verdicts ∧ earlier.orders ⊆ later.orders := by
  cases event with
  | tracked endpoint =>
      simp only [note] at noted
      split at noted
      · cases noted
        exact absurd rfl heard
      · exact ⟨later, noted, rfl, rfl, List.Subset.refl _⟩
  | dropped other =>
      simp only [note] at noted
      split at noted
      · cases noted
      · exact ⟨later, noted, rfl, rfl, List.Subset.refl _⟩
  | asked order =>
      simp only [note] at noted
      split at noted
      · obtain ⟨earlier, before, rfl⟩ := Option.map_eq_some_iff.1 noted
        exact ⟨earlier, before, rfl, rfl, List.subset_cons_self ..⟩
      · exact ⟨later, noted, rfl, rfl, List.Subset.refl _⟩
  | gaveUp route =>
      simp only [note] at noted
      split at noted
      · obtain ⟨earlier, before, rfl⟩ := Option.map_eq_some_iff.1 noted
        exact ⟨earlier, before, rfl, rfl, List.Subset.refl _⟩
      · exact ⟨later, noted, rfl, rfl, List.Subset.refl _⟩
  | answered => cases silent

theorem Chronicle.note_all_silent {id : String} {events : List Event}
    (silent : ∀ event ∈ events, event.isAnswer = false) {before : Option Chronicle}
    {later : Chronicle} (noted : events.foldl (note id) before = some later)
    (heard : later.verdicts ≠ []) :
    ∃ earlier, before = some earlier ∧ earlier.endpoint = later.endpoint ∧
      earlier.verdicts = later.verdicts ∧ earlier.orders ⊆ later.orders := by
  induction events generalizing before with
  | nil => exact ⟨later, noted, rfl, rfl, List.Subset.refl _⟩
  | cons event rest ih =>
      obtain ⟨middle, reached, endpoint, verdicts, orders⟩ :=
        ih (fun event member => silent event (List.mem_cons_of_mem _ member)) noted
      rw [← verdicts] at heard
      obtain ⟨earlier, start, endpoint', verdicts', orders'⟩ :=
        note_silent (silent event List.mem_cons_self) reached heard
      exact ⟨earlier, start, endpoint'.trans endpoint, verdicts'.trans verdicts,
        List.Subset.trans orders' orders⟩

end PeerTable
open PeerTable

/-! ## The route of a remote is the preferred one -/

namespace Remote

theorem anyKnown_iff {remote : Remote} :
    remote.anyKnown = true ↔ ∃ role, (remote.probe role).known.isSome := by
  refine Bool.or_eq_true_iff.trans ⟨?_, ?_⟩
  · rintro (viaPublic | viaPrivate)
    · exact ⟨.viaPublic, viaPublic⟩
    · exact ⟨.viaPrivate, viaPrivate⟩
  · rintro ⟨role, some⟩
    cases role with
    | viaPublic => exact .inl some
    | viaPrivate => exact .inr some

theorem route?_eq_preferred {remote : Remote}
    (heard : ∀ role, (remote.probe role).known.isSome → (remote.ip? role).isSome)
    (any : ∃ role, (remote.probe role).known.isSome) :
    remote.route? =
        remote.endpoint.preferred? remote.family (fun role => (remote.probe role).known) ∧
      ∃ route, remote.route? = some route ∧ route.selected.isSome := by
  have heardPublic := heard .viaPublic
  have heardPrivate := heard .viaPrivate
  have publicIp : remote.ip? .viaPublic = remote.endpoint.publicIp? remote.family := rfl
  have privateIp : remote.ip? .viaPrivate = remote.endpoint.privateIp? remote.family := rfl
  have known : (remote.probe .viaPublic).known.isSome ∨ (remote.probe .viaPrivate).known.isSome := by
    obtain ⟨role, known⟩ := any
    cases role
    · exact .inl known
    · exact .inr known
  simp only [route?, outcome?, Endpoint.preferred?, ← publicIp, ← privateIp]
  cases knownPublic : (remote.probe .viaPublic).known <;>
    cases knownPrivate : (remote.probe .viaPrivate).known <;>
      simp only [knownPublic, knownPrivate, Option.isSome_some, Option.isSome_none, forall_const,
        Bool.false_eq_true, false_implies, or_self] at heardPublic heardPrivate known
  · rename_i nat
    obtain ⟨ip, found⟩ := Option.isSome_iff_exists.1 heardPrivate
    cases nat <;> simp [found, Endpoint.routeVia]
  · obtain ⟨ip, found⟩ := Option.isSome_iff_exists.1 heardPublic
    simp [found, Endpoint.routeVia]
  · rename_i natPublic natPrivate
    obtain ⟨ip, found⟩ := Option.isSome_iff_exists.1 heardPublic
    obtain ⟨ip', found'⟩ := Option.isSome_iff_exists.1 heardPrivate
    cases natPrivate <;> simp [found, found', Endpoint.routeVia]

theorem selected_fallback? {remote : Remote} {route : Route} (found : remote.fallback? = some route) :
    route.endpoint = remote.endpoint ∧ route.selected = none := by
  simp only [fallback?, Endpoint.fallbackRoute?, Option.map_eq_some_iff] at found
  obtain ⟨ip, -, rfl⟩ := found
  exact ⟨rfl, rfl⟩

end Remote

end NatReach
