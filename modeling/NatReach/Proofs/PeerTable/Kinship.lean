import NatReach.Proofs.PeerTable.Asking

namespace NatReach

inductive Progress.Alike (same : UInt32 → UInt32 → Prop) : Progress → Progress → Prop
  | unresolved : Progress.Alike same .unresolved .unresolved
  | pending {request request'} (requests : same request request') (previous : Option Bool) :
      Progress.Alike same (.pending request previous) (.pending request' previous)
  | resolved (nat : Bool) : Progress.Alike same (.resolved nat) (.resolved nat)

namespace Progress.Alike
variable {same wider : UInt32 → UInt32 → Prop} {first second : Progress}

theorem mono (alike : Progress.Alike same first second) (imp : ∀ n m, same n m → wider n m) :
    Progress.Alike wider first second := by
  cases alike with
  | unresolved => exact .unresolved
  | pending requests previous => exact .pending (imp _ _ requests) previous
  | resolved nat => exact .resolved nat

theorem known (alike : Progress.Alike same first second) : first.known = second.known := by
  cases alike <;> rfl

theorem resolved_iff (alike : Progress.Alike same first second) (nat : Bool) :
    first = .resolved nat ↔ second = .resolved nat := by
  cases alike <;> simp

end Progress.Alike

/-- That two probes differ only in the numbers of requests, which correspond. -/
structure Probe.Alike (same : UInt32 → UInt32 → Prop) (first second : Probe) : Prop where
  progress : Progress.Alike same first.progress second.progress
  lastRequest : Option.Rel same first.lastRequest second.lastRequest
  attempts : first.attempts = second.attempts
  nextAt : first.nextAt = second.nextAt
  resolvedAt : first.resolvedAt = second.resolvedAt
  exhausted : first.exhausted = second.exhausted

namespace Probe.Alike
variable {same wider : UInt32 → UInt32 → Prop} {first second : Probe}

theorem new (same : UInt32 → UInt32 → Prop) : Alike same {} {} :=
  ⟨.unresolved, .none, rfl, rfl, rfl, rfl⟩

theorem mono (alike : Alike same first second) (imp : ∀ n m, same n m → wider n m) :
    Alike wider first second where
  progress := alike.progress.mono imp
  lastRequest := by
    have requests := alike.lastRequest
    cases last : first.lastRequest <;> cases last' : second.lastRequest <;>
      rw [last, last'] at requests <;> cases requests
    · exact .none
    · rename_i requests
      exact .some (imp _ _ requests)
  attempts := alike.attempts
  nextAt := alike.nextAt
  resolvedAt := alike.resolvedAt
  exhausted := alike.exhausted

theorem known (alike : Alike same first second) : first.known = second.known :=
  alike.progress.known

theorem turn (alike : Alike same first second) (pacing : Pacing) (now : Nat) :
    first.turn pacing now = second.turn pacing now := by
  have overdue : first.isOverdue now = second.isOverdue now := by
    rw [isOverdue, isOverdue, alike.exhausted, alike.nextAt]
  have stale : first.isStale pacing now = second.isStale pacing now := by
    rw [isStale, isStale, alike.resolvedAt]
  unfold Probe.turn
  rw [overdue, stale, alike.attempts, alike.exhausted]
  have shape := alike.progress
  generalize first.progress = progress, second.progress = progress' at shape
  cases shape <;> rfl

theorem record (alike : Alike same first second) {request request' : UInt32}
    (requests : same request request') (now : Nat) (pacing : Pacing) :
    Alike same (first.record request now pacing) (second.record request' now pacing) where
  progress := by
    simp only [Probe.record, alike.known]
    exact .pending requests _
  lastRequest := .some requests
  attempts := congrArg (· + 1) alike.attempts
  nextAt := by simp only [Probe.record, alike.attempts]
  resolvedAt := alike.resolvedAt
  exhausted := rfl

theorem resolve (alike : Alike same first second) (nat : Bool) (now : Nat) :
    Alike same (first.resolve nat now) (second.resolve nat now) :=
  ⟨.resolved nat, alike.lastRequest, rfl, rfl, rfl, rfl⟩

theorem settle (alike : Alike same first second) (nat : Bool) (now : Nat) :
    Alike same (first.settle nat now) (second.settle nat now) := by
  unfold Probe.settle
  by_cases settled : first.progress = .resolved nat
  · rw [if_pos settled, if_pos ((alike.progress.resolved_iff nat).1 settled)]
    exact alike
  · rw [if_neg settled, if_neg fun other => settled ((alike.progress.resolved_iff nat).2 other)]
    exact alike.resolve nat now

theorem exhaust (alike : Alike same first second) : Alike same first.exhaust second.exhaust :=
  ⟨alike.progress, alike.lastRequest, alike.attempts, rfl, alike.resolvedAt, rfl⟩

end Probe.Alike

/-! ## Requests in corresponding places -/

/-- That two numbers stand in the same place of two lists. -/
def SamePlace (numbers numbers' : List UInt32) (number number' : UInt32) : Prop :=
  ∃ place : Nat, numbers[place]? = some number ∧ numbers'[place]? = some number'

namespace SamePlace
variable {numbers numbers' : List UInt32} {number number' : UInt32}

theorem append (there : SamePlace numbers numbers' number number') (more more' : List UInt32) :
    SamePlace (numbers ++ more) (numbers' ++ more') number number' := by
  obtain ⟨place, here, here'⟩ := there
  refine ⟨place, ?_, ?_⟩
  · rw [List.getElem?_append_left (List.getElem?_eq_some_iff.1 here).1, here]
  · rw [List.getElem?_append_left (List.getElem?_eq_some_iff.1 here').1, here']

theorem last (long : numbers.length = numbers'.length) (number number' : UInt32) :
    SamePlace (numbers ++ [number]) (numbers' ++ [number']) number number' := by
  refine ⟨numbers.length, by simp, ?_⟩
  rw [long]
  simp

theorem unique (different : numbers.Nodup) (different' : numbers'.Nodup) {other other' : UInt32}
    (here : SamePlace numbers numbers' number number') (there : SamePlace numbers numbers' other other') :
    number = other ↔ number' = other' := by
  obtain ⟨place, found, found'⟩ := here
  obtain ⟨place', elsewhere, elsewhere'⟩ := there
  have inside := (List.getElem?_eq_some_iff.1 found).1
  have inside' := (List.getElem?_eq_some_iff.1 found').1
  constructor
  · rintro rfl
    have same := (List.getElem?_inj inside different).1 (found.trans elsewhere.symm)
    rw [← same, found'] at elsewhere'
    exact Option.some.inj elsewhere'
  · rintro rfl
    have same := (List.getElem?_inj inside' different').1 (found'.trans elsewhere'.symm)
    rw [← same, found] at elsewhere
    exact Option.some.inj elsewhere

end SamePlace

theorem Probe.Alike.lastRequest_iff {numbers numbers' : List UInt32} {first second : Probe}
    (alike : Probe.Alike (SamePlace numbers numbers') first second) (different : numbers.Nodup)
    (different' : numbers'.Nodup) {number number' : UInt32}
    (there : SamePlace numbers numbers' number number') :
    first.lastRequest = some number ↔ second.lastRequest = some number' := by
  have last := alike.lastRequest
  generalize first.lastRequest = request, second.lastRequest = request' at last
  cases last with
  | none => simp
  | some here =>
      rw [Option.some_inj, Option.some_inj]
      exact here.unique different different' there

/-! ## Remotes -/

namespace Remote

structure SamePrivate (source : Ip) (before after : Remote) : Prop where
  endpoint : after.endpoint = before.endpoint
  family : after.family = before.family
  port : after.port = before.port
  viaPrivate : before.ip? .viaPrivate = some source → after.viaPrivate = before.viaPrivate

/-- That two remotes are the same, but for the numbers of requests to their private address, their
public probes and the routes to them. About the private probes of another address, nothing is
said. -/
structure Akin (source : Ip) (numbers numbers' : List UInt32) (first second : Remote) : Prop where
  endpoint : first.endpoint = second.endpoint
  family : first.family = second.family
  port : first.port = second.port
  alike : first.ip? .viaPrivate = some source → numbers.length = numbers'.length ∧
    Probe.Alike (SamePlace numbers numbers') first.viaPrivate second.viaPrivate

theorem exists_tickRole (remote : Remote) (pacing : Pacing) (now : Nat) (number : UInt32)
    (role : Role) :
    ∃ probe, (remote.tickRole pacing now number role).2 = remote.setProbe role probe := by
  have same : remote = remote.setProbe role (remote.probe role) := (remote.setProbe_probe role).symm
  unfold Remote.tickRole
  split
  · exact ⟨_, same⟩
  · dsimp only
    split
    · exact ⟨_, same⟩
    · unfold Remote.ask
      split
      · exact ⟨_, same⟩
      · exact ⟨_, rfl⟩
    · exact ⟨_, rfl⟩
    · exact ⟨_, rfl⟩

namespace SamePrivate
variable {source : Ip}

theorem refl (remote : Remote) : SamePrivate source remote remote := ⟨rfl, rfl, rfl, fun _ => rfl⟩

theorem ip?_eq {before after : Remote} (same : SamePrivate source before after) (role : Role) :
    after.ip? role = before.ip? role := by
  rw [ip?, ip?, same.endpoint, same.family]

theorem trans {first second third : Remote} (here : SamePrivate source first second)
    (there : SamePrivate source second third) : SamePrivate source first third where
  endpoint := there.endpoint.trans here.endpoint
  family := there.family.trans here.family
  port := there.port.trans here.port
  viaPrivate address :=
    (there.viaPrivate ((here.ip?_eq _).trans address)).trans (here.viaPrivate address)

theorem giveUp (remote : Remote) : SamePrivate source remote remote.giveUp.2 := by
  rw [giveUp_frame]
  exact ⟨rfl, rfl, rfl, fun _ => rfl⟩

theorem accept {remote : Remote} {role : Role}
    (other : role = .viaPrivate → remote.ip? .viaPrivate ≠ some source) (nat : Bool) (now : Nat) :
    SamePrivate source remote (remote.accept role nat now).2 := by
  rw [accept_frame]
  cases role with
  | viaPublic => exact ⟨rfl, rfl, rfl, fun _ => rfl⟩
  | viaPrivate => exact ⟨rfl, rfl, rfl, fun address => absurd address (other rfl)⟩

end SamePrivate

namespace Akin
variable {source : Ip} {numbers numbers' more more' : List UInt32} {first second : Remote}

theorem ip?_eq (akin : Akin source numbers numbers' first second) (role : Role) :
    first.ip? role = second.ip? role := by
  rw [ip?, ip?, akin.endpoint, akin.family]

theorem new (source : Ip) (endpoint : Endpoint) (family : Family) (port : UInt16) (now : Nat) :
    Akin source [] [] { endpoint, family, port, started := now }
      { endpoint, family, port, started := now } :=
  ⟨rfl, rfl, rfl, fun _ => ⟨rfl, .new _⟩⟩

theorem samePrivate (akin : Akin source numbers numbers' first second) {after after' : Remote}
    (same : SamePrivate source first after) (same' : SamePrivate source second after') :
    Akin source numbers numbers' after after' where
  endpoint := by rw [same.endpoint, same'.endpoint, akin.endpoint]
  family := by rw [same.family, same'.family, akin.family]
  port := by rw [same.port, same'.port, akin.port]
  alike address := by
    rw [same.ip?_eq] at address
    rw [same.viaPrivate address, same'.viaPrivate ((akin.ip?_eq _).symm.trans address)]
    exact akin.alike address

theorem setPrivate (akin : Akin source numbers numbers' first second) {probe probe' : Probe}
    (keeps : first.ip? .viaPrivate = some source → numbers.length = numbers'.length →
      Probe.Alike (SamePlace numbers numbers') first.viaPrivate second.viaPrivate →
      (numbers ++ more).length = (numbers' ++ more').length ∧
        Probe.Alike (SamePlace (numbers ++ more) (numbers' ++ more')) probe probe') :
    Akin source (numbers ++ more) (numbers' ++ more') (first.setProbe .viaPrivate probe)
      (second.setProbe .viaPrivate probe') where
  endpoint := akin.endpoint
  family := akin.family
  port := akin.port
  alike := by
    intro address
    obtain ⟨long, alike⟩ := akin.alike address
    exact keeps address long alike

theorem ask (akin : Akin source numbers numbers' first second) (pacing : Pacing) (now : Nat)
    (number number' : UInt32) :
    Akin source
      (numbers ++ (first.ask pacing now number .viaPrivate).1.toList.map (·.number))
      (numbers' ++ (second.ask pacing now number' .viaPrivate).1.toList.map (·.number))
      (first.ask pacing now number .viaPrivate).2 (second.ask pacing now number' .viaPrivate).2 := by
  unfold Remote.ask
  rw [← akin.ip?_eq]
  cases first.ip? .viaPrivate with
  | none => simpa using akin
  | some ip =>
      refine akin.setPrivate fun _ long alike => ⟨by simp [long], ?_⟩
      have wider := alike.mono fun _ _ there => there.append [number] [number']
      exact wider.record (.last long number number') now pacing

theorem elsewhere (akin : Akin source numbers numbers' first second)
    (other : first.ip? .viaPrivate ≠ some source) (probe probe' : Probe) :
    Akin source (numbers ++ more) (numbers' ++ more') (first.setProbe .viaPrivate probe)
      (second.setProbe .viaPrivate probe') :=
  akin.setPrivate fun address => absurd address other

theorem tickRole (akin : Akin source numbers numbers' first second) (pacing : Pacing) (now : Nat)
    (number number' : UInt32) :
    Akin source
      (numbers ++ (first.tickRole pacing now number .viaPrivate).1.toList.map (·.number))
      (numbers' ++ (second.tickRole pacing now number' .viaPrivate).1.toList.map (·.number))
      (first.tickRole pacing now number .viaPrivate).2
      (second.tickRole pacing now number' .viaPrivate).2 := by
  by_cases address : first.ip? .viaPrivate = some source
  · have turn : first.viaPrivate.turn pacing now = second.viaPrivate.turn pacing now :=
      (akin.alike address).2.turn pacing now
    have address' := akin.ip?_eq .viaPrivate ▸ address
    unfold Remote.tickRole
    simp only [address, address', probe, Option.isNone_some, Bool.false_eq_true, ↓reduceIte, ← turn]
    cases first.viaPrivate.turn pacing now with
    | rest => simpa using akin
    | ask => exact akin.ask pacing now number number'
    | keep nat =>
        refine akin.setPrivate fun _ long alike => ?_
        simpa [long] using alike.resolve nat now
    | giveUp =>
        refine akin.setPrivate fun _ long alike => ?_
        simpa [long] using alike.exhaust
  · obtain ⟨probe, same⟩ := first.exists_tickRole pacing now number .viaPrivate
    obtain ⟨probe', same'⟩ := second.exists_tickRole pacing now number' .viaPrivate
    rw [same, same']
    exact akin.elsewhere address probe probe'

theorem settle (akin : Akin source numbers numbers' first second) (nat : Bool) (now : Nat) :
    Akin source numbers numbers' (first.accept .viaPrivate nat now).2
      (second.accept .viaPrivate nat now).2 := by
  rw [accept_frame first, accept_frame second]
  constructor
  · exact akin.endpoint
  · exact akin.family
  · exact akin.port
  · intro address
    obtain ⟨long, alike⟩ := akin.alike address
    exact ⟨long, alike.settle nat now⟩

end Akin
end Remote
end NatReach
