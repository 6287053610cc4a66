import NatReach.Endpoint.Edit

namespace NatReach

/-- Descriptions, and for each handle the place of the description that it holds. -/
structure Register where
  endpoints : List Endpoint
  places : List Nat
  held : ∀ place ∈ places, place < endpoints.length

namespace Register

def empty : Register := ⟨[], [], nofun⟩

def next (register : Register) : Nat := register.places.length

def snapshot? (register : Register) (handle : Nat) : Option Endpoint :=
  register.places[handle]?.bind fun place => register.endpoints[place]?

def create (register : Register) (endpoint : Endpoint) : Register where
  endpoints := register.endpoints ++ [endpoint]
  places := register.places ++ [register.endpoints.length]
  held := by
    simp only [List.mem_append, List.mem_singleton, List.length_append, List.length_singleton]
    rintro place (old | rfl)
    · exact Nat.lt_succ_of_lt (register.held place old)
    · exact Nat.lt_succ_self _

def clone (register : Register) (handle : Nat) : Register where
  endpoints := register.endpoints
  places := register.places ++ register.places[handle]?.toList
  held := by
    simp only [List.mem_append, Option.mem_toList]
    rintro place (old | cloned)
    · exact register.held place old
    · exact register.held place (List.mem_of_getElem? cloned)

def write (register : Register) (handle : Nat) (endpoint : Endpoint) : Register where
  endpoints :=
    match register.places[handle]? with
    | some place => register.endpoints.set place endpoint
    | none => register.endpoints
  places := register.places
  held := by
    split
    · simpa only [List.length_set] using register.held
    · exact register.held

def update (register : Register) (handle : Nat) (change : Endpoint → Endpoint) :
    Register × Option Bool :=
  match register.snapshot? handle with
  | some endpoint =>
    let (endpoint, changed) := endpoint.update change
    (register.write handle endpoint, some changed)
  | none => (register, none)

inductive Use where
  | create (endpoint : Endpoint)
  | clone (handle : Nat)
  | update (handle : Nat) (change : Endpoint → Endpoint)

def perform (register : Register) : Use → Register
  | .create endpoint => register.create endpoint
  | .clone handle => register.clone handle
  | .update handle change => (register.update handle change).1

def after (register : Register) (uses : List Use) : Register := uses.foldl perform register

end Register
end NatReach
