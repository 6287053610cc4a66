import NatReach.Proofs.PeerTable.Gapless

namespace NatReach
namespace PeerTable

inductive Free (start : PeerTable) : List Event → PeerTable → Prop
  | refl : Free start [] start
  | more {log table events after} (free : Free start log table) (change : Change table events after)
      (next : issued events ≠ [] → table.nextNumber ∉ table.numbersInUse) :
      Free start (log ++ events) after

section
variable {start table after : PeerTable} {log events : List Event}

theorem Change.issued_cases (change : Change table events after) :
    (issued events = [] ∧ after.nextNumber = table.nextNumber) ∨
      ∃ order, issued events = [order] ∧ order.number = table.freshNumber ∧
        after.nextNumber = table.freshNumber + 1 := by
  cases change with
  | track => exact .inl ⟨rfl, rfl⟩
  | drop => exact .inl ⟨rfl, rfl⟩
  | ask _ asks =>
      obtain ⟨ip, -, rfl, -⟩ := Remote.ask_eq_some_iff.1 asks
      exact .inr ⟨_, rfl, rfl, rfl⟩
  | move _ move => exact .inl ⟨move.issued, rfl⟩

namespace Free

theorem changes (free : Free start log table) : Changes start log table := by
  induction free with
  | refl => exact .refl
  | more _ change _ ih => exact ih.more change

theorem single (change : Change table events after)
    (next : issued events ≠ [] → table.nextNumber ∉ table.numbersInUse) : Free table events after := by
  simpa using Free.refl.more change next

theorem trans {back : List Event} (first : Free start log table) (second : Free table back after) :
    Free start (log ++ back) after := by
  induction second with
  | refl => simpa using first
  | more _ change next ih =>
      rw [← List.append_assoc]
      exact ih.more change next

theorem numbers (free : Free start log table) :
    (issued log).map (·.number) =
        (List.range (issued log).length).map (numberAt start.nextNumber) ∧
      table.nextNumber = numberAt start.nextNumber (issued log).length := by
  induction free with
  | refl => exact ⟨rfl, by simp [issued, numberAt]⟩
  | @more log table events after _ change next ih =>
      obtain ⟨numbers, reached⟩ := ih
      rw [issued_append]
      rcases change.issued_cases with ⟨silent, same⟩ | ⟨order, one, number, after⟩
      · rw [silent, List.append_nil, same]
        exact ⟨numbers, reached⟩
      · have asks : issued events ≠ [] := one ▸ List.cons_ne_nil _ _
        have fresh : table.freshNumber = table.nextNumber := firstUnused_of_not_mem (next asks) _
        rw [one, after, List.map_append, numbers, List.length_append, List.length_singleton,
          List.range_succ, List.map_append, List.map_singleton, List.map_singleton, number, fresh,
          reached, numberAt_succ]
        exact ⟨rfl, rfl⟩

theorem number_not_mem (change : Change table events after)
    (next : issued events ≠ [] → table.nextNumber ∉ table.numbersInUse) :
    ∀ order ∈ issued events, order.number ∉ table.numbersInUse := by
  intro order member
  have free := next (List.ne_nil_of_mem member)
  rcases change.issued_cases with ⟨silent, -⟩ | ⟨other, one, number, -⟩
  · rw [silent] at member
    cases member
  · rw [one, List.mem_singleton] at member
    rw [member, number, freshNumber, firstUnused_of_not_mem free]
    exact free

end Free

theorem OnRecord.mem_numbersInUse {order : ProbeOrder} (recorded : OnRecord table order) :
    order.number ∈ table.numbersInUse := by
  obtain ⟨remote, present, last⟩ := recorded
  exact PeerTable.mem_numbersInUse.2 ⟨_, remote, _, present, last⟩

namespace Free

theorem avoids (free : Free start log table) (keyed : Keyed start) {order : ProbeOrder}
    (recorded : OnRecord start order) (stays : ¬ Superseded order log) :
    order.number ∉ (issued log).map (·.number) := by
  induction free with
  | refl => exact List.not_mem_nil
  | @more log table events after free change next ih =>
      rw [superseded_append, not_or] at stays
      have before := recorded.changes keyed free.changes stays.1
      rw [issued_append, List.map_append, List.mem_append, not_or]
      refine ⟨ih stays.1, fun member => ?_⟩
      obtain ⟨other, asked, same⟩ := List.mem_map.1 member
      exact number_not_mem change next other asked (same ▸ before.mem_numbersInUse)

theorem nodup (free : Free start log table) (keyed : Keyed start)
    (lasting : ∀ event ∈ log, event.isDirectory = false) (once : ((issued log).map target).Nodup) :
    ((issued log).map (·.number)).Nodup := by
  induction free with
  | refl => exact .nil
  | @more log table events after free change next ih =>
      rw [issued_append, List.map_append, List.nodup_append] at once
      have lastingBefore : ∀ event ∈ log, event.isDirectory = false :=
        fun event member => lasting event (List.mem_append_left _ member)
      have recorded := free.changes.onRecord keyed lastingBefore once.1
      rw [issued_append, List.map_append, List.nodup_append]
      refine ⟨ih lastingBefore once.1, ?_, ?_⟩
      · rcases change.issued_cases with ⟨silent, -⟩ | ⟨order, one, -⟩
        · rw [silent]
          exact .nil
        · rw [one]
          exact List.nodup_singleton _
      · rintro _ earlier _ new rfl
        obtain ⟨order, asked, same⟩ := List.mem_map.1 earlier
        obtain ⟨other, askedToo, sameToo⟩ := List.mem_map.1 new
        have free := number_not_mem change next other askedToo
        rw [sameToo, ← same] at free
        -- the earlier request has not been superseded, so its number is still in use
        exact free (recorded order asked).mem_numbersInUse

end Free
end

/-! ## Ticks -/

def RolesUnhindered (id : String) (step : Role → Remote → UInt32 → Option ProbeOrder × Remote) :
    List Role → PeerTable → Prop
  | [], _ => True
  | role :: rest, table =>
    ((table.withRemote id (step role)).1.isSome → table.nextNumber ∉ table.numbersInUse) ∧
      RolesUnhindered id step rest (table.withRemote id (step role)).2

/-- That during a tick the counter runs onto no number that is still in use. -/
def Unhindered (now : Nat) : List String → PeerTable → Prop
  | [], _ => True
  | id :: rest, table =>
    RolesUnhindered id (fun role remote number => remote.tickRole table.pacing now number role)
        Role.inOrder table ∧
      Unhindered now rest (table.tickRemote now id).2

instance decideRolesUnhindered (id : String)
    (step : Role → Remote → UInt32 → Option ProbeOrder × Remote) :
    ∀ roles table, Decidable (RolesUnhindered id step roles table)
  | [], _ => inferInstanceAs (Decidable True)
  | role :: rest, table =>
    let _ := decideRolesUnhindered id step rest (table.withRemote id (step role)).2
    inferInstanceAs (Decidable (_ ∧ _))

instance decideUnhindered (now : Nat) : ∀ walk table, Decidable (Unhindered now walk table)
  | [], _ => inferInstanceAs (Decidable True)
  | id :: rest, table =>
    let _ := decideUnhindered now rest (table.tickRemote now id).2
    inferInstanceAs (Decidable (_ ∧ _))

section
variable {table : PeerTable} {id : String} {now : Nat}

theorem Changes.free {after : PeerTable} {log : List Event} (changes : Changes table log after)
    (silent : issued log = []) : Free table log after := by
  induction changes with
  | refl => exact .refl
  | more _ change ih =>
      rw [issued_append, List.append_eq_nil_iff] at silent
      exact (ih silent.1).more change fun asks => absurd silent.2 asks

theorem forRoles_free {pacing : Pacing} (same : table.pacing = pacing)
    {step : Role → Remote → UInt32 → Option ProbeOrder × Remote}
    (acts : ∀ role remote number, Remote.Acts pacing id remote number (step role remote number))
    {roles : List Role} (unhindered : RolesUnhindered id step roles table) :
    Free table ((forRoles id step roles table).1.map .asked) (forRoles id step roles table).2 := by
  induction roles generalizing table with
  | nil => exact .refl
  | cons role rest ih =>
      obtain ⟨next, later⟩ := unhindered
      have first : Free table ((table.withRemote id (step role)).1.toList.map .asked)
          (table.withRemote id (step role)).2 := by
        rcases withRemote_cases same id (step role) (acts role) with nothing | change
        · rw [nothing]
          exact .refl
        · refine .single change fun asks => next ?_
          rw [issued_asked] at asks
          exact Option.isSome_iff_ne_none.2 fun none => asks (by rw [none]; rfl)
      have others := ih (first.changes.fixed.1.trans same) later
      simpa only [forRoles, List.map_append] using first.trans others

theorem tickRemote_free (unhindered : RolesUnhindered id
      (fun role remote number => remote.tickRole table.pacing now number role) Role.inOrder table) :
    Free table (table.tickRemote now id).1.events (table.tickRemote now id).2 := by
  have asking := forRoles_free rfl
    (fun role remote number => remote.tickRole_acts table.pacing id now number role) unhindered
  rw [tickRemote_eq_forRoles]
  exact asking.trans ((giveUp_changes _ id).free (issued_gaveUp _))

theorem tickInOrder_free {walk : List String} (unhindered : Unhindered now walk table) :
    ∃ events, Free table events (tickInOrder now walk table).2 ∧
      SameReading events (tickInOrder now walk table).1.events := by
  induction walk generalizing table with
  | nil => exact ⟨[], .refl, .refl _⟩
  | cons id rest ih =>
      obtain ⟨here, later⟩ := unhindered
      obtain ⟨events, others, same⟩ := ih later
      refine ⟨_, (tickRemote_free here).trans others, ?_⟩
      exact ((SameReading.refl _).append same).trans (.round _ _)

theorem tickInOrder_numbers (keyed : Keyed table) {walk : List String} (once : walk.Nodup)
    (unhindered : Unhindered now walk table) :
    let orders := (tickInOrder now walk table).1.orders
    orders.map (·.number) = (List.range orders.length).map (numberAt table.nextNumber) ∧
      (tickInOrder now walk table).2.nextNumber = numberAt table.nextNumber orders.length ∧
      (orders.map (·.number)).Nodup ∧
      ∀ order, OnRecord table order → (∀ other ∈ orders, target other ≠ target order) →
        order.number ∉ orders.map (·.number) := by
  obtain ⟨events, free, same⟩ := tickInOrder_free unhindered
  have orders : issued events = (tickInOrder now walk table).1.orders :=
    same.issued.trans (issued_round _)
  have lasting := same.lasting (round_lasting _)
  have targets := tickInOrder_once keyed now once
  rw [← orders] at targets ⊢
  refine ⟨free.numbers.1, free.numbers.2, free.nodup keyed lasting targets, ?_⟩
  exact fun order recorded others => free.avoids keyed recorded (not_superseded lasting others)

/-! ## Before the numbers come round -/

theorem Numbered.rolesUnhindered {first : UInt32} {orders : List ProbeOrder}
    (numbered : Numbered first orders table) {pacing : Pacing} (same : table.pacing = pacing)
    {step : Role → Remote → UInt32 → Option ProbeOrder × Remote}
    (acts : ∀ role remote number, Remote.Acts pacing id remote number (step role remote number))
    {roles : List Role}
    (few : (orders ++ (forRoles id step roles table).1).length ≤ UInt32.size) :
    RolesUnhindered id step roles table := by
  induction roles generalizing table orders with
  | nil => trivial
  | cons role rest ih =>
      have first := withRemote_changes same id (step role) (acts role)
      have split : (forRoles id step (role :: rest) table).1 =
          (table.withRemote id (step role)).1.toList ++
            (forRoles id step rest (table.withRemote id (step role)).2).1 := rfl
      rw [split, ← List.append_assoc] at few
      have fewer := few
      rw [List.length_append] at fewer
      have numberedAfter := first.numbered_after numbered (by rw [issued_asked]; omega)
      rw [issued_asked] at numberedAfter
      refine ⟨fun asks => numbered.next_free ?_,
        ih numberedAfter (first.fixed.1.trans same) few⟩
      rw [List.length_append, Option.length_toList, if_pos asks] at fewer
      omega

theorem Numbered.unhindered {first : UInt32} {orders : List ProbeOrder}
    (numbered : Numbered first orders table) {walk : List String}
    (few : (orders ++ (tickInOrder now walk table).1.orders).length ≤ UInt32.size) :
    Unhindered now walk table := by
  induction walk generalizing table orders with
  | nil => trivial
  | cons id rest ih =>
      rw [tickInOrder_orders, ← List.append_assoc] at few
      have fewer := few
      rw [List.length_append] at fewer
      have numberedAfter := (tickRemote_changes table now id).numbered_after numbered
        (by rw [issued_round]; omega)
      rw [issued_round] at numberedAfter
      have acts := fun role (remote : Remote) number =>
        remote.tickRole_acts table.pacing id now number role
      refine ⟨numbered.rolesUnhindered rfl acts ?_, ih numberedAfter few⟩
      have here : (table.tickRemote now id).1.orders = (forRoles id (fun role remote number =>
        remote.tickRole table.pacing now number role) Role.inOrder table).1 := by
        rw [tickRemote_eq_forRoles]
      rw [← here]
      omega

end
end PeerTable
end NatReach
