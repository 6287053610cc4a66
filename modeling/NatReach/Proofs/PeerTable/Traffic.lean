import NatReach.Proofs.PeerTable.Gapless

/-!
# How much is asked, and how often

The story of a role of an endpoint is what happens to it in a run: its discovery begins and ends,
requests go out, by the clock or in a plan, and it is settled, by an answer or because nobody confirmed
what was known. Each request that the clock sends uses up one of a limited number of attempts, which only
settling makes good, and each leaves a time before which the clock sends no other.
-/
namespace NatReach
open PeerTable

/-! ## What happens to one role -/

/-- What can happen to a role. -/
inductive Mark where
  | began
  | ended
  /-- A request goes out, by the clock or in a plan. How the asking stood `before` is told with it. -/
  | asked (byClock : Bool) (before : Progress) (now : Nat)
  | settled (now : Nat)
deriving DecidableEq

namespace Mark

def isAsk : Mark → Bool
  | asked .. => true
  | _ => false

def isRetry : Mark → Bool
  | asked byClock _ _ => byClock
  | _ => false

/-- A request in a plan to an address that is settled. -/
def isReopening : Mark → Bool
  | asked byClock before _ => !byClock && before.isResolved
  | _ => false

def isBoundary : Mark → Bool
  | began | ended => true
  | _ => false

end Mark

namespace PeerTable

def Operation.isTick : Operation → Bool
  | tick .. => true
  | _ => false

def Operation.time : Operation → Nat
  | add _ now | plan _ now | tick _ now | respond _ _ _ _ now => now
  | remove _ => 0

def Event.boundary? (id : String) : Event → Option Mark
  | tracked endpoint => if endpoint.cable = id then some .began else none
  | dropped other => if other = id then some .ended else none
  | _ => none

def probe? (table : PeerTable) (id : String) (role : Role) : Option Probe :=
  (table.get? id).map fun remote => remote.probe role

def progress (table : PeerTable) (id : String) (role : Role) : Progress :=
  match table.probe? id role with
  | some probe => probe.progress
  | none => .unresolved

/-- What happens to a role in an operation. -/
def mark? (id : String) (role : Role) (table : PeerTable) (operation : Operation) : Option Mark :=
  let (events, after) := table.perform operation
  (events.findSome? (Event.boundary? id)).or <|
    if (issued events).any fun order => target order = (id, role) then
      some (.asked operation.isTick (table.progress id role) operation.time)
    else if (after.progress id role).isResolved && after.progress id role ≠ table.progress id role then
      some (.settled operation.time)
    else none

/-- What happens to a role in a run. -/
def story (id : String) (role : Role) : List Operation → PeerTable → List Mark
  | [], _ => []
  | operation :: rest, table =>
    (mark? id role table operation).toList ++ story id role rest (table.perform operation).2

end PeerTable

/-- What an operation does to the probe of a role. -/
inductive Passage (pacing : Pacing) : Option Probe → Option Mark → Option Probe → Prop
  | rest (probe : Option Probe) : Passage pacing probe none probe
  | begin (before : Option Probe) : Passage pacing before (some .began) (some {})
  | end (before : Option Probe) : Passage pacing before (some .ended) none
  | ask {probe : Probe} {byClock : Bool} {number : UInt32} {now : Nat}
      (turn : byClock = true → probe.turn pacing now = .ask) :
      Passage pacing (some probe) (some (.asked byClock probe.progress now))
        (some (probe.record number now pacing))
  | settle {probe : Probe} {nat : Bool} {now : Nat} (news : probe.progress ≠ .resolved nat) :
      Passage pacing (some probe) (some (.settled now)) (some (probe.resolve nat now))
  | exhaust {probe : Probe} {now : Nat} (turn : probe.turn pacing now = .giveUp) :
      Passage pacing (some probe) none (some probe.exhaust)

namespace PeerTable

section Passage
variable {table : PeerTable} {id : String} {role : Role} {operation : Operation}

theorem findSome?_boundary_of_lasting (id : String) {events : List Event}
    (lasting : ∀ event ∈ events, event.isDirectory = false) :
    events.findSome? (Event.boundary? id) = none := by
  rw [List.findSome?_eq_none_iff]
  intro event member
  have lasts := lasting event member
  cases event <;> first | rfl | cases lasts

theorem findSome?_boundary_of_about {events : List Event}
    (others : ∀ event ∈ events, event.about ≠ id) :
    events.findSome? (Event.boundary? id) = none := by
  rw [List.findSome?_eq_none_iff]
  intro event member
  have other := others event member
  cases event <;> first | rfl | exact if_neg other

theorem mark?_of_rest (within : (table.perform operation).1.findSome? (Event.boundary? id) = none)
    (silent : ∀ order ∈ issued (table.perform operation).1, target order ≠ (id, role))
    (same : (table.perform operation).2.progress id role = table.progress id role) :
    mark? id role table operation = none := by
  have unasked : ((issued (table.perform operation).1).any fun order => target order = (id, role)) =
      false := by simpa using silent
  simp [mark?, within, unasked, same]

theorem passage_of_rest (within : (table.perform operation).1.findSome? (Event.boundary? id) = none)
    (silent : ∀ order ∈ issued (table.perform operation).1, target order ≠ (id, role))
    (same : (table.perform operation).2.probe? id role = table.probe? id role) :
    Passage table.pacing (table.probe? id role) (mark? id role table operation)
      ((table.perform operation).2.probe? id role) := by
  rw [mark?_of_rest within silent (by rw [progress, progress, same]), same]
  exact .rest _

theorem passage_of_others (others : ∀ event ∈ (table.perform operation).1, event.about ≠ id)
    (same : (table.perform operation).2.get? id = table.get? id) :
    Passage table.pacing (table.probe? id role) (mark? id role table operation)
      ((table.perform operation).2.probe? id role) := by
  refine passage_of_rest (findSome?_boundary_of_about others) ?_ (by rw [probe?, probe?, same])
  intro order member about
  obtain ⟨event, told, asks⟩ := List.mem_filterMap.1 member
  have other := others event told
  cases event <;> cases asks
  exact other (congrArg Prod.fst about)

theorem probe?_of_present {remote : Remote} (present : table.get? id = some remote) :
    table.probe? id role = some (remote.probe role) := by
  rw [probe?, present]
  rfl

theorem probe?_of_absent (absent : table.get? id = none) (role : Role) : table.probe? id role = none := by
  rw [probe?, absent]
  rfl

theorem progress_of_present {remote : Remote} (present : table.get? id = some remote) (role : Role) :
    table.progress id role = (remote.probe role).progress := by
  rw [progress, probe?_of_present present]

theorem passage_of_turns {remote later : Remote} {now : Nat} {turns : Role → Turn}
    {numbers : Role → UInt32} (present : table.get? id = some remote)
    (lasting : ∀ event ∈ (table.perform operation).1, event.isDirectory = false)
    (orders : (issued (table.perform operation).1).filter (fun order => order.id = id) =
      (remote.takeTurns table.pacing now turns numbers).1)
    (there : (table.perform operation).2.get? id = some later)
    (taken : later.probe role =
      (remote.probe role).take table.pacing now (numbers role) (turns role))
    (time : operation.time = now)
    (due : turns role = .rest ∨ (remote.ip? role).isSome ∧
      (operation.isTick = false ∧ turns role = .ask ∨
        turns role = (remote.probe role).turn table.pacing now)) :
    Passage table.pacing (table.probe? id role) (mark? id role table operation)
      ((table.perform operation).2.probe? id role) := by
  have within := findSome?_boundary_of_lasting id lasting
  have asked : ((issued (table.perform operation).1).any fun order => target order = (id, role)) =
      true ↔ turns role = .ask ∧ (remote.ip? role).isSome := by
    rw [← remote.exists_order_takeTurns table.pacing now turns numbers, ← orders]
    simp [target, and_assoc]
  have before := progress_of_present present role
  have after := progress_of_present there role
  rw [taken] at after
  rw [probe?_of_present present, probe?_of_present there, taken]
  simp only [mark?, within, asked, before, after, time, Option.none_or]
  cases turn : turns role with
  | rest => simpa [Probe.take] using .rest _
  | ask =>
      rw [turn] at due
      obtain ⟨address, cause⟩ := due.resolve_left (by simp)
      rw [if_pos ⟨rfl, address⟩]
      refine .ask fun byClock => ?_
      rcases cause with ⟨byPlan, -⟩ | clock
      · rw [byPlan] at byClock
        cases byClock
      · exact clock.symm
  | keep nat =>
      -- the clock keeps a verdict only while it is being asked again
      rw [turn] at due
      obtain ⟨-, cause⟩ := due.resolve_left (by simp)
      have clock := cause.resolve_left (by simp)
      obtain ⟨⟨request, pending⟩, -⟩ := Probe.turn_eq_keep_iff.1 clock.symm
      have news : (remote.probe role).progress ≠ .resolved nat := by simp [pending]
      have settles : Passage table.pacing _ (some (.settled now)) _ := .settle news
      simpa [Probe.take, Probe.resolve, Progress.isResolved, pending] using settles
  | giveUp =>
      rw [turn] at due
      obtain ⟨-, cause⟩ := due.resolve_left (by simp)
      have clock := cause.resolve_left (by simp)
      simpa [Probe.take, Probe.exhaust] using Passage.exhaust clock.symm

theorem perform_add_cases (table : PeerTable) (endpoint : Endpoint) (now : Nat) :
    (∃ port, table.perform (.add endpoint now) = ([.tracked endpoint],
      table.put endpoint.cable { endpoint, family := table.family, port, started := now })) ∨
    table.perform (.add endpoint now) = ([], table) ∨
    table.perform (.add endpoint now) = ([.dropped endpoint.cable], table.forget endpoint.cable) := by
  simp only [perform]
  rcases add_cases table endpoint now with ⟨port, -, -, same⟩ | ⟨-, -, -, same⟩ | ⟨-, same⟩
  · rw [same, events_of_tracked]
    exact .inl ⟨port, rfl⟩
  · rw [same]
    exact .inr (.inl rfl)
  · rw [same]
    exact .inr (.inr rfl)

theorem passage_of_boundary {events : List Event} {after : PeerTable}
    (same : table.perform operation = (events, after))
    (within : events.findSome? (Event.boundary? id) = none → after = table ∧ issued events = [])
    (bounds : ∀ mark, events.findSome? (Event.boundary? id) = some mark →
      Passage table.pacing (table.probe? id role) (some mark) (after.probe? id role)) :
    Passage table.pacing (table.probe? id role) (mark? id role table operation)
      ((table.perform operation).2.probe? id role) := by
  simp only [mark?, same]
  cases found : events.findSome? (Event.boundary? id) with
  | none =>
      obtain ⟨rfl, silent⟩ := within found
      simpa [silent] using .rest _
  | some mark => exact bounds mark found

theorem passage_of_nothing (same : table.perform operation = ([], table)) :
    Passage table.pacing (table.probe? id role) (mark? id role table operation)
      ((table.perform operation).2.probe? id role) :=
  passage_of_boundary same (fun _ => ⟨rfl, rfl⟩) fun _ found => by cases found

theorem passage_of_plan {remote : Remote} (keyed : Keyed table) (present : table.get? id = some remote)
    (role : Role) (now : Nat) :
    Passage table.pacing (table.probe? id role) (mark? id role table (.plan id now))
      ((table.perform (.plan id now)).2.probe? id role) := by
  obtain ⟨numbers, orders, there⟩ := plan_of_present present now
  have ids := plan_ids keyed id now
  refine passage_of_turns present (asked_lasting _) ?_ there Remote.probe_takeTurns rfl ?_
  · rw [← orders]
    change (issued ((table.plan id now).1.map .asked)).filter _ = _
    rw [issued_asked, List.filter_eq_self]
    intro order member
    simpa using ids order member
  · unfold Remote.planned
    split
    · rename_i address
      exact .inr ⟨address, .inl ⟨rfl, rfl⟩⟩
    · exact .inl rfl

theorem passage_of_tick {remote : Remote} (keyed : Keyed table) (present : table.get? id = some remote)
    {walk : List String} (once : walk.Nodup) (member : id ∈ walk) (role : Role) (now : Nat) :
    Passage table.pacing (table.probe? id role) (mark? id role table (.tick walk now))
      ((table.perform (.tick walk now)).2.probe? id role) := by
  obtain ⟨numbers, round, there⟩ := tickInOrder_of_present keyed present once member now
  refine passage_of_turns present (round_lasting _) ?_ there
    (Remote.probe_tick ..) rfl ?_
  · change (issued (tickInOrder now walk table).1.events).filter _ = _
    rw [issued_round]
    exact congrArg Round.orders round
  · unfold Remote.turn
    split
    · rename_i address
      exact .inr ⟨address, .inr rfl⟩
    · exact .inl rfl

theorem passage_of_answer {remote : Remote} {heard : Role} {number : UInt32} {source : Ip} {nat : Bool}
    {now : Nat} {route : Option Route} (present : table.get? id = some remote)
    (same : table.perform (.respond id number source nat now) =
      ([.answered id number nat route], table.put id (remote.accept heard nat now).2)) (role : Role) :
    Passage table.pacing (table.probe? id role) (mark? id role table (.respond id number source nat now))
      ((table.perform (.respond id number source nat now)).2.probe? id role) := by
  have before := progress_of_present present role
  have there := get?_put_self table id (remote.accept heard nat now).2
  have after := progress_of_present there role
  rw [Remote.probe_accept] at after
  have within : [Event.answered id number nat route].findSome? (Event.boundary? id) = none := rfl
  have silent : issued [Event.answered id number nat route] = [] := rfl
  simp only [mark?, same, within, silent, before, after, probe?_of_present present,
    probe?_of_present there, Remote.probe_accept, List.any_nil, Bool.false_eq_true, ↓reduceIte,
    Option.none_or]
  by_cases about : heard = role
  · subst about
    by_cases settled : (remote.probe heard).progress = .resolved nat
    · simpa [Probe.settle, settled] using .rest _
    · have settles : Passage table.pacing _ (some (.settled now)) _ := .settle settled
      have news : Progress.resolved nat ≠ (remote.probe heard).progress := Ne.symm settled
      simpa [Probe.settle, settled, Probe.resolve, Progress.isResolved, news, Operation.time] using settles
  · simpa [about] using .rest _

theorem perform_passage (keyed : Keyed table) (comesOnce : operation.comesOnce) (id : String)
    (role : Role) :
    Passage table.pacing (table.probe? id role) (mark? id role table operation)
      ((table.perform operation).2.probe? id role) := by
  -- What is on another endpoint leaves no mark, so in each case below the operation is on this one.
  by_cases foreign : operation.Foreign id
  · obtain ⟨others, same⟩ := perform_foreign keyed foreign
    exact passage_of_others others same
  cases operation with
  | add endpoint now =>
      obtain rfl : endpoint.cable = id := Decidable.not_not.1 foreign
      rcases perform_add_cases table endpoint now with ⟨port, same⟩ | same | same
      · refine passage_of_boundary same (by simp [Event.boundary?]) fun mark found => ?_
        obtain rfl : Mark.began = mark := by simpa [Event.boundary?] using found
        have anew : Passage table.pacing _ _ _ := .begin (table.probe? endpoint.cable role)
        rw [probe?_of_present (get?_put_self ..)]
        cases role <;> exact anew
      · exact passage_of_boundary same (fun _ => ⟨rfl, rfl⟩) fun mark found => by cases found
      · refine passage_of_boundary same (by simp [Event.boundary?]) fun mark found => ?_
        obtain rfl : Mark.ended = mark := by simpa [Event.boundary?] using found
        rw [probe?_of_absent ((get?_forget ..).trans (if_pos rfl)) role]
        exact .end _
  | remove other =>
      obtain rfl : other = id := Decidable.not_not.1 foreign
      refine passage_of_boundary rfl (by simp [Event.boundary?]) fun mark found => ?_
      obtain rfl : Mark.ended = mark := by simpa [Event.boundary?] using found
      have absent : (table.remove other).2.get? other = none :=
        (get?_forget ..).trans (if_pos rfl)
      rw [probe?_of_absent absent]
      exact .end _
  | plan other now =>
      obtain rfl : other = id := Decidable.not_not.1 foreign
      cases present : table.get? other with
      | none => exact passage_of_nothing (perform_plan_of_absent present now)
      | some remote => exact passage_of_plan keyed present role now
  | tick walk now =>
      have member : id ∈ walk := Decidable.not_not.1 foreign
      cases present : table.get? id with
      | none =>
          obtain ⟨silent, same⟩ := tickInOrder_of_idle keyed (fun _ : id ∈ walk => present) now
          exact passage_of_others (about_of_silent silent) same
      | some remote => exact passage_of_tick keyed present comesOnce member role now
  | respond other number source nat now =>
      obtain rfl : other = id := Decidable.not_not.1 foreign
      rcases respond_cases table other number source nat now with
        same | ⟨remote, heard, present, -, same⟩
      · exact passage_of_nothing same
      · exact passage_of_answer present same role

end Passage
end PeerTable

/-! ## What happens to a role in a run -/

inductive Passes (pacing : Pacing) : Option Probe → List Mark → Option Probe → Prop
  | refl (probe : Option Probe) : Passes pacing probe [] probe
  | more {before middle after : Option Probe} {mark : Option Mark} {marks : List Mark}
      (first : Passage pacing before mark middle) (later : Passes pacing middle marks after) :
      Passes pacing before (mark.toList ++ marks) after

namespace PeerTable

theorem run_passes {table : PeerTable} {operations : List Operation} (keyed : Keyed table)
    (comesOnce : ∀ operation ∈ operations, operation.comesOnce) (id : String) (role : Role) :
    Passes table.pacing (table.probe? id role) (story id role operations table)
      ((run operations table).2.probe? id role) := by
  induction operations generalizing table with
  | nil => exact .refl _
  | cons operation rest ih =>
      have first := perform_passage keyed (comesOnce operation List.mem_cons_self) id role
      obtain ⟨events, changes, -⟩ := perform_changes table operation
      have later := ih (changes.keyed keyed)
        fun other member => comesOnce other (List.mem_cons_of_mem _ member)
      rw [(perform_fixed table operation).1] at later
      exact .more first later

end PeerTable

namespace Passes
variable {pacing : Pacing} {before after : Option Probe} {front back marks : List Mark}

theorem split (passes : Passes pacing before (front ++ back) after) :
    ∃ middle, Passes pacing before front middle ∧ Passes pacing middle back after := by
  generalize whole : front ++ back = marks at passes
  induction passes generalizing front with
  | refl probe =>
      obtain ⟨rfl, rfl⟩ := List.append_eq_nil_iff.1 whole
      exact ⟨probe, .refl _, .refl _⟩
  | @more before middle after mark marks first later ih =>
      cases mark with
      | none =>
          obtain ⟨last, passes, others⟩ := ih whole
          exact ⟨last, .more first passes, others⟩
      | some mark =>
          cases front with
          | nil =>
              rw [List.nil_append] at whole
              exact ⟨before, .refl _, whole ▸ .more first later⟩
          | cons head front =>
              obtain ⟨rfl, rest⟩ := List.cons.inj whole
              obtain ⟨last, passes, others⟩ := ih rest
              exact ⟨last, .more first passes, others⟩

theorem passage {mark : Mark} (passes : Passes pacing before [mark] after) :
    ∃ first last, Passes pacing before [] first ∧ Passage pacing first (some mark) last := by
  generalize whole : [mark] = marks at passes
  induction passes with
  | refl => cases whole
  | @more before middle after note marks first later ih =>
      cases note with
      | none =>
          obtain ⟨start, last, silent, passage⟩ := ih whole
          exact ⟨start, last, .more first silent, passage⟩
      | some note =>
          obtain ⟨rfl, -⟩ := List.cons.inj whole
          exact ⟨before, middle, .refl _, first⟩

end Passes

/-! ## Attempts are used up -/

def room (pacing : Pacing) (spare : Nat) : Option Probe → Nat
  | none => 0
  | some probe =>
    match probe.progress with
    | .unresolved => max 1 pacing.maxAttempts
    | .pending .. => pacing.maxAttempts - probe.attempts
    | .resolved _ => spare

section Room
variable {pacing : Pacing} {spare : Nat} {before after : Option Probe}

theorem room_le (few : spare ≤ max 1 pacing.maxAttempts) (probe : Option Probe) :
    room pacing spare probe ≤ max 1 pacing.maxAttempts := by
  unfold room
  split
  · omega
  · split <;> omega

theorem room_record (probe : Probe) (number : UInt32) (now : Nat) :
    room pacing spare (some (probe.record number now pacing)) =
      pacing.maxAttempts - (probe.attempts + 1) := rfl

theorem room_of_turn_ask {probe : Probe} {now : Nat}
    (enough : pacing.revalidate = none ∨ max 1 pacing.maxAttempts ≤ spare)
    (turn : probe.turn pacing now = .ask) :
    1 + (pacing.maxAttempts - (probe.attempts + 1)) ≤ room pacing spare (some probe) := by
  rcases Probe.turn_eq_ask_iff.1 turn with ⟨unresolved, -⟩ | ⟨⟨request, previous, pending⟩, -, left⟩ |
    ⟨⟨nat, resolved⟩, stale⟩
  · simp only [room, unresolved]
    omega
  · simp only [room, pending]
    omega
  · obtain ⟨interval, time, again, -⟩ := Probe.isStale_iff.1 stale
    have enough := enough.resolve_left (by simp [again])
    simp only [room, resolved]
    omega

theorem room_of_plan (probe : Probe) :
    pacing.maxAttempts - (probe.attempts + 1) ≤ room pacing spare (some probe) +
      (if probe.progress.isResolved then 1 else 0) * (pacing.maxAttempts - 1 - spare) := by
  cases progress : probe.progress <;> simp [room, progress, Progress.isResolved] <;> omega

theorem Passage.countP_add_room {mark : Option Mark}
    (passage : Passage pacing before mark after)
    (enough : pacing.revalidate = none ∨ max 1 pacing.maxAttempts ≤ spare)
    (lasting : ∀ note ∈ mark, note.isBoundary = false)
    (unsettled : spare = 0 ∨ ∀ note ∈ mark, note.isAsk) :
    mark.toList.countP Mark.isRetry + room pacing spare after ≤ room pacing spare before +
      mark.toList.countP Mark.isReopening * (pacing.maxAttempts - 1 - spare) := by
  cases passage with
  | rest => simp
  | «begin» => cases lasting _ rfl
  | «end» => cases lasting _ rfl
  | @ask probe byClock number now turn =>
      rw [room_record]
      cases byClock with
      | false => simpa [Mark.isRetry, Mark.isReopening] using room_of_plan probe
      | true => simpa [Mark.isRetry, Mark.isReopening] using room_of_turn_ask enough (turn rfl)
  | settle news =>
      rcases unsettled with rfl | unsettled
      · simp [room, Probe.resolve, Mark.isRetry]
      · cases unsettled _ rfl
  | exhaust turn => simp [room, Probe.exhaust]

/-- The clock uses up the attempts that are left, and those that a plan brings back. -/
theorem Passes.countP_add_room {marks : List Mark} (passes : Passes pacing before marks after)
    (enough : pacing.revalidate = none ∨ max 1 pacing.maxAttempts ≤ spare)
    (lasting : ∀ mark ∈ marks, mark.isBoundary = false)
    (unsettled : spare = 0 ∨ ∀ mark ∈ marks, mark.isAsk) :
    marks.countP Mark.isRetry + room pacing spare after ≤ room pacing spare before +
      marks.countP Mark.isReopening * (pacing.maxAttempts - 1 - spare) := by
  induction passes with
  | refl => simp
  | @more before middle after mark marks first later ih =>
      have here := first.countP_add_room enough
        (fun note member => lasting note (List.mem_append_left _ (Option.mem_toList.2 member)))
        (unsettled.imp_right fun asks note member =>
          asks note (List.mem_append_left _ (Option.mem_toList.2 member)))
      have there := ih (fun note member => lasting note (List.mem_append_right _ member))
        (unsettled.imp_right fun asks note member => asks note (List.mem_append_right _ member))
      rw [List.countP_append, List.countP_append, Nat.add_mul]
      omega

end Room

/-! ## What a probe remembers of its story -/

/-- What counts in the story of a role, in the present discovery of its endpoint. -/
structure Ledger where
  asks : Nat := 0
  lastAsk : Option Nat := none
  settledAt : Option Nat := none

def Ledger.note (ledger : Ledger) : Mark → Ledger
  | .began | .ended => {}
  | .asked _ _ now => { ledger with asks := ledger.asks + 1, lastAsk := some now }
  | .settled now => { ledger with asks := 0, settledAt := some now }

def ledger (marks : List Mark) : Ledger := marks.foldl Ledger.note {}

/-- That a probe holds what its story tells: how many requests went out since the last verdict, when that
was, and the end of the wait after the last request. -/
structure Paced (pacing : Pacing) (ledger : Ledger) (probe : Probe) : Prop where
  attempts : probe.attempts = ledger.asks
  resolvedAt : probe.resolvedAt = ledger.settledAt
  due : ∀ request previous, probe.progress = .pending request previous → probe.exhausted = false →
    ∃ last, ledger.lastAsk = some last ∧ probe.nextAt = some (last + pacing.backoff ledger.asks)

theorem Passage.paced {pacing : Pacing} {before after : Option Probe} {mark : Option Mark}
    {ledger : Ledger} (passage : Passage pacing before mark after)
    (paced : ∀ probe ∈ before, Paced pacing ledger probe) :
    ∀ probe ∈ after, Paced pacing (mark.toList.foldl Ledger.note ledger) probe := by
  rintro later ⟨⟩
  cases passage with
  | rest => exact paced later rfl
  | «begin» => exact ⟨rfl, rfl, fun _ _ pending => by cases pending⟩
  | @ask probe byClock number now turn =>
      have attempts := (paced probe rfl).attempts
      refine ⟨congrArg (· + 1) attempts, (paced probe rfl).resolvedAt, fun _ _ _ _ => ⟨now, rfl, ?_⟩⟩
      simp only [Probe.record, attempts]
      rfl
  | settle news => exact ⟨rfl, rfl, fun _ _ pending => by cases pending⟩
  | @exhaust probe now turn =>
      exact ⟨(paced probe rfl).attempts, (paced probe rfl).resolvedAt, fun _ _ _ unspent => by cases unspent⟩

theorem Passes.paced_from {pacing : Pacing} {before after : Option Probe} {marks : List Mark}
    {ledger : Ledger} (passes : Passes pacing before marks after)
    (paced : ∀ probe ∈ before, Paced pacing ledger probe) :
    ∀ probe ∈ after, Paced pacing (marks.foldl Ledger.note ledger) probe := by
  induction passes generalizing ledger with
  | refl => exact paced
  | more first later ih =>
      rw [List.foldl_append]
      exact ih (first.paced paced)

theorem Passes.paced {pacing : Pacing} {after : Option Probe} {marks : List Mark}
    (passes : Passes pacing none marks after) :
    ∀ probe ∈ after, Paced pacing (ledger marks) probe :=
  passes.paced_from fun _ absent => by cases absent

theorem Passes.exists_paced {pacing : Pacing} {after : Option Probe} {front back : List Mark}
    {before : Progress} {now : Nat}
    (passes : Passes pacing none (front ++ .asked true before now :: back) after) :
    ∃ probe, Paced pacing (ledger front) probe ∧ probe.progress = before ∧
      probe.turn pacing now = .ask := by
  obtain ⟨middle, told, later⟩ := passes.split
  obtain ⟨last, asked, -⟩ : ∃ last, Passes pacing middle [.asked true before now] last ∧ _ :=
    Passes.split later
  obtain ⟨start, next, silent, passage⟩ := asked.passage
  have paced := silent.paced_from told.paced
  cases passage with
  | @ask probe byClock number now turn => exact ⟨probe, paced probe rfl, rfl, turn rfl⟩

namespace PeerTable

/-- Between two settlings of a role the clock sends at most as many requests as there are attempts, and
at least one is always free; plans in between do not count. While the role is being asked, the clock waits
after the last request as long as there are requests since the last settling. It asks a settled role only
if that is to be done, and as long after the last settling as it is to be done. If that is never to be
done, the clock sends no more requests in a whole discovery than there are attempts, but for those that
follow a plan for a settled role. -/
theorem traffic_bounded_and_paced {pacing : Pacing} {family : Family} {first : UInt32}
    {operations : List Operation} (comesOnce : ∀ operation ∈ operations, operation.comesOnce)
    (id : String) (role : Role) :
    let marks := story id role operations (new pacing family first)
    (∀ front middle back, marks = front ++ middle ++ back → (∀ mark ∈ middle, mark.isAsk) →
      middle.countP Mark.isRetry ≤ max 1 pacing.maxAttempts) ∧
    (∀ front request previous now back,
      marks = front ++ .asked true (.pending request previous) now :: back →
      ∃ last, (ledger front).lastAsk = some last ∧ last + pacing.backoff (ledger front).asks ≤ now) ∧
    (∀ front nat now back, marks = front ++ .asked true (.resolved nat) now :: back →
      ∃ interval time, pacing.revalidate = some interval ∧ (ledger front).settledAt = some time ∧
        interval ≤ now - time) ∧
    (∀ remote, (run operations (new pacing family first)).2.get? id = some remote →
      (remote.probe role).attempts = (ledger marks).asks ∧
        (remote.probe role).resolvedAt = (ledger marks).settledAt) ∧
    (pacing.revalidate = none → ∀ front middle back, marks = front ++ middle ++ back →
      (∀ mark ∈ middle, mark.isBoundary = false) →
      middle.countP Mark.isRetry ≤ max 1 pacing.maxAttempts +
        middle.countP Mark.isReopening * (pacing.maxAttempts - 1)) := by
  intro marks
  have passes : Passes pacing none marks ((run operations (new pacing family first)).2.probe? id role) :=
    run_passes (Agrees.new pacing family first).keyed comesOnce id role
  refine ⟨?_, ?_, ?_, ?_, ?_⟩
  · intro front middle back parts asks
    rw [parts] at passes
    obtain ⟨later, told, -⟩ := passes.split
    obtain ⟨start, -, asked⟩ := told.split
    have used := asked.countP_add_room (.inr (Nat.le_refl _))
      (fun mark member => by cases mark <;> first | rfl | cases asks _ member) (.inr asks)
    have left := room_le (Nat.le_refl (max 1 pacing.maxAttempts)) start
    have none : pacing.maxAttempts - 1 - max 1 pacing.maxAttempts = 0 := by omega
    rw [none, Nat.mul_zero] at used
    omega
  · intro front request previous now back parts
    rw [parts] at passes
    obtain ⟨probe, paced, pending, turn⟩ := passes.exists_paced
    have overdue : probe.isOverdue now = true ∧ probe.attempts < pacing.maxAttempts := by
      simpa [pending] using Probe.turn_eq_ask_iff.1 turn
    obtain ⟨unspent, time, next, past⟩ := Probe.isOverdue_iff.1 overdue.1
    obtain ⟨last, asked, due⟩ := paced.due request previous pending unspent
    rw [due, Option.some.injEq] at next
    exact ⟨last, asked, next ▸ past⟩
  · intro front nat now back parts
    rw [parts] at passes
    obtain ⟨probe, paced, resolved, turn⟩ := passes.exists_paced
    have stale : probe.isStale pacing now = true := by
      simpa [resolved] using Probe.turn_eq_ask_iff.1 turn
    obtain ⟨interval, time, again, settled, past⟩ := Probe.isStale_iff.1 stale
    exact ⟨interval, time, again, paced.resolvedAt ▸ settled, past⟩
  · intro remote present
    have paced := passes.paced (remote.probe role) (probe?_of_present present)
    exact ⟨paced.attempts, paced.resolvedAt⟩
  · intro never front middle back parts lasting
    rw [parts] at passes
    obtain ⟨later, told, -⟩ := passes.split
    obtain ⟨start, -, asked⟩ := told.split
    have used := asked.countP_add_room (.inl never) lasting (.inl rfl)
    have left := room_le (Nat.zero_le (max 1 pacing.maxAttempts)) start
    rw [Nat.sub_zero] at used
    omega

def reopened : List Operation :=
  [.add twoAddresses 0, .tick ["gateway"] 0,
    .respond "gateway" 101 (.v4 ⟨198, 51, 100, 7⟩) false 1, .plan "gateway" 2,
    .tick ["gateway"] 1002, .respond "gateway" 104 (.v4 ⟨198, 51, 100, 7⟩) false 1003,
    .plan "gateway" 1004, .tick ["gateway"] 2004]

def reopenedMarks : List Mark :=
  [.asked true .unresolved 0, .settled 1, .asked false (.resolved false) 2,
    .asked true (.pending 103 (some false)) 1002, .settled 1003, .asked false (.resolved false) 1004,
    .asked true (.pending 106 (some false)) 2004]

theorem story_reopened :
    story "gateway" .viaPublic reopened (new { maxAttempts := 2 } .v4 100) =
      [.began] ++ reopenedMarks ++ [] := by decide +kernel

theorem reopened_comesOnce : ∀ operation ∈ reopened, operation.comesOnce := by
  simp [reopened, Operation.comesOnce]

/-- Plans for a settled role let the clock send more requests in a discovery than there are attempts. -/
theorem not_bounded_by_attempts :
    ¬ ∀ (pacing : Pacing) (family : Family) (first : UInt32) (operations : List Operation)
      (id : String) (role : Role), pacing.revalidate = none →
      (∀ operation ∈ operations, operation.comesOnce) → ∀ front middle back,
      story id role operations (new pacing family first) = front ++ middle ++ back →
      (∀ mark ∈ middle, mark.isBoundary = false) →
      middle.countP Mark.isRetry ≤ max 1 pacing.maxAttempts := by
  intro bounded
  have two := bounded { maxAttempts := 2 } .v4 100 reopened "gateway" .viaPublic rfl
    reopened_comesOnce [.began] reopenedMarks [] story_reopened (by decide)
  exact absurd two (by decide)

theorem traffic_bounded_and_paced_reopened :
    (∀ operation ∈ reopened, operation.comesOnce) ∧
      story "gateway" .viaPublic reopened (new { maxAttempts := 2 } .v4 100) =
        [.began] ++ reopenedMarks ++ [] ∧
      reopenedMarks.countP Mark.isRetry = 3 ∧
      3 ≤ max 1 2 + reopenedMarks.countP Mark.isReopening * (2 - 1) ∧
      ∃ last, (ledger (.began :: reopenedMarks.take 6)).lastAsk = some last ∧
        last + Pacing.backoff { maxAttempts := 2 } (ledger (.began :: reopenedMarks.take 6)).asks ≤
          2004 := by
  obtain ⟨-, paced, -, -, bounded⟩ := @traffic_bounded_and_paced { maxAttempts := 2 } .v4 100
    reopened reopened_comesOnce "gateway" .viaPublic
  have retries : reopenedMarks.countP Mark.isRetry = 3 := by decide
  refine ⟨reopened_comesOnce, story_reopened, retries, ?_, ?_⟩
  · rw [← retries]
    exact bounded rfl [.began] reopenedMarks [] story_reopened (by decide)
  · exact paced (.began :: reopenedMarks.take 6) 106 (some false) 2004 [] story_reopened

end PeerTable
end NatReach
