import NatReach.Endpoint.Register

namespace NatReach

namespace Endpoint

theorem alike_equivalence : Equivalence fun a b : Endpoint => a.alike b = true :=
  ⟨alike_refl, alike_symm, alike_trans⟩

theorem alike_withAddresses (a b : Endpoint) (publicIps privateIps healthCheckIps : AddressSet) :
    let moved := { a with publicIps, privateIps, healthCheckIps }
    moved.alike b = a.alike b ∧ b.alike moved = b.alike a :=
  ⟨rfl, rfl⟩

end Endpoint

namespace Register
variable {register : Register} {handle other place : Nat} {endpoint : Endpoint}

def Shares (register : Register) (handle other : Nat) : Prop :=
  ∃ place, register.places[handle]? = some place ∧ register.places[other]? = some place

theorem snapshot?_of_place (placed : register.places[handle]? = some place) :
    register.snapshot? handle = register.endpoints[place]? := by
  rw [snapshot?, placed, Option.bind_some]

theorem place_of_snapshot? (found : register.snapshot? handle = some endpoint) :
    ∃ place, register.places[handle]? = some place ∧ register.endpoints[place]? = some endpoint :=
  Option.bind_eq_some_iff.1 found

namespace Shares

theorem of_snapshot? (found : register.snapshot? handle = some endpoint) :
    register.Shares handle handle := by
  obtain ⟨place, placed, -⟩ := place_of_snapshot? found
  exact ⟨place, placed, placed⟩

theorem snapshot?_eq (shares : register.Shares handle other) :
    register.snapshot? other = register.snapshot? handle := by
  obtain ⟨place, ours, theirs⟩ := shares
  rw [snapshot?_of_place ours, snapshot?_of_place theirs]

theorem exists_snapshot (shares : register.Shares handle other) :
    ∃ endpoint, register.snapshot? handle = some endpoint := by
  obtain ⟨place, placed, -⟩ := shares
  have inside := register.held place (List.mem_of_getElem? placed)
  exact ⟨_, (snapshot?_of_place placed).trans (List.getElem?_eq_getElem inside)⟩

end Shares

/-! ## One use -/

theorem places_update (register : Register) (handle : Nat) (change : Endpoint → Endpoint) :
    (register.update handle change).1.places = register.places := by
  unfold update
  split <;> rfl

theorem place_perform (placed : register.places[handle]? = some place) (use : Use) :
    (register.perform use).places[handle]? = some place := by
  have given := (List.getElem?_eq_some_iff.1 placed).1
  cases use with
  | create endpoint => exact (List.getElem?_append_left given).trans placed
  | clone original => exact (List.getElem?_append_left given).trans placed
  | update other change =>
      rw [perform, places_update]
      exact placed

theorem Shares.perform (shares : register.Shares handle other) (use : Use) :
    (register.perform use).Shares handle other := by
  obtain ⟨place, ours, theirs⟩ := shares
  exact ⟨place, place_perform ours use, place_perform theirs use⟩

theorem Shares.clone {original : Nat} (shares : register.Shares handle original) :
    (register.perform (.clone original)).Shares handle register.next := by
  obtain ⟨place, ours, theirs⟩ := shares
  refine ⟨place, place_perform ours _, ?_⟩
  simp [Register.perform, Register.clone, next, theirs]

theorem update_of_snapshot? (found : register.snapshot? handle = some endpoint)
    (change : Endpoint → Endpoint) :
    register.update handle change =
      (register.write handle (change endpoint), some (!endpoint.alike (change endpoint))) := by
  rw [update, found]
  rfl

theorem endpoints_write (placed : register.places[handle]? = some place) (endpoint : Endpoint) :
    (register.write handle endpoint).endpoints = register.endpoints.set place endpoint := by
  simp only [write, placed]

theorem update_of_shares (shares : register.Shares handle other) (change : Endpoint → Endpoint) :
    ∃ old, register.snapshot? handle = some old ∧
      (register.update other change).1.snapshot? handle = some (change old) ∧
      (register.update other change).2 = some (!old.alike (change old)) := by
  obtain ⟨old, found⟩ := shares.exists_snapshot
  have foundToo := shares.snapshot?_eq.trans found
  obtain ⟨place, ours, theirs⟩ := shares
  obtain ⟨inside, -⟩ := List.getElem?_eq_some_iff.1 ((snapshot?_of_place ours).symm.trans found)
  rw [update_of_snapshot? foundToo]
  refine ⟨old, found, ?_, rfl⟩
  have placed : (register.write other (change old)).places[handle]? = some place := ours
  rw [snapshot?_of_place placed, endpoints_write theirs, List.getElem?_set_self inside]

theorem snapshot?_update_of_apart (found : register.snapshot? handle = some endpoint)
    (apart : ¬ register.Shares handle other) (change : Endpoint → Endpoint) :
    (register.update other change).1.snapshot? handle = some endpoint := by
  cases elsewhere : register.snapshot? other with
  | none => rwa [update, elsewhere]
  | some old =>
      obtain ⟨place, placed, here⟩ := place_of_snapshot? found
      obtain ⟨place', placed', -⟩ := place_of_snapshot? elsewhere
      have different : place' ≠ place := by
        rintro rfl
        exact apart ⟨place', placed, placed'⟩
      have still : (register.write other (change old)).places[handle]? = some place := placed
      rw [update_of_snapshot? elsewhere, snapshot?_of_place still, endpoints_write placed',
        List.getElem?_set_ne different, here]

theorem snapshot?_perform_of_apart (found : register.snapshot? handle = some endpoint) {use : Use}
    (apart : ∀ other change, use = .update other change → ¬ register.Shares handle other) :
    (register.perform use).snapshot? handle = some endpoint := by
  obtain ⟨place, placed, here⟩ := place_of_snapshot? found
  cases use with
  | create another =>
      rw [snapshot?_of_place (place_perform placed _)]
      exact (List.getElem?_append_left (List.getElem?_eq_some_iff.1 here).1).trans here
  | clone original =>
      rw [snapshot?_of_place (place_perform placed _)]
      exact here
  | update other change => exact snapshot?_update_of_apart found (apart other change rfl) change

theorem alike_perform (found : register.snapshot? handle = some endpoint) {use : Use}
    (quiet : ∀ other change, use = .update other change → register.Shares handle other →
      (register.update other change).2 = some false) :
    ∃ later, (register.perform use).snapshot? handle = some later ∧ endpoint.alike later = true := by
  by_cases reached : ∃ other change, use = .update other change ∧ register.Shares handle other
  · obtain ⟨other, change, rfl, shares⟩ := reached
    obtain ⟨old, foundToo, changed, reports⟩ := update_of_shares shares change
    cases found.symm.trans foundToo
    refine ⟨change endpoint, changed, ?_⟩
    simpa [quiet other change rfl shares] using reports.symm
  · refine ⟨endpoint, snapshot?_perform_of_apart found fun other change same shares => ?_,
      endpoint.alike_refl⟩
    exact reached ⟨other, change, same, shares⟩

/-! ## A run -/

theorem Shares.after (shares : register.Shares handle other) (uses : List Use) :
    (register.after uses).Shares handle other := by
  induction uses generalizing register with
  | nil => exact shares
  | cons use uses ih => exact ih (shares.perform use)

theorem after_append (register : Register) (uses more : List Use) :
    register.after (uses ++ more) = (register.after uses).after more := List.foldl_append

/-- The update comes next after some first uses of a run, and it goes through a handle of the same
description as this one. -/
def Updates (register : Register) (handle : Nat) (uses before : List Use) (other : Nat)
    (change : Endpoint → Endpoint) : Prop :=
  before ++ [.update other change] <+: uses ∧ (register.after before).Shares handle other

theorem alike_after {first : Endpoint} (found : register.snapshot? handle = some first)
    (uses : List Use)
    (quiet : ∀ before other change, register.Updates handle uses before other change →
      ((register.after before).update other change).2 = some false) :
    ∃ last, (register.after uses).snapshot? handle = some last ∧ first.alike last = true := by
  -- The uses behind the first one are a run of the register after it, and so are their updates.
  induction uses generalizing register first with
  | nil => exact ⟨first, found, first.alike_refl⟩
  | cons use uses ih =>
      have now : ∀ other change, use = .update other change → register.Shares handle other →
          (register.update other change).2 = some false := by
        rintro other change rfl shares
        exact quiet [] other change ⟨by simp, shares⟩
      obtain ⟨next, found, alike⟩ := alike_perform found now
      obtain ⟨last, foundLast, alikeLast⟩ := ih found fun before other change updates =>
        quiet (use :: before) other change ⟨List.cons_prefix_cons.2 ⟨rfl, updates.1⟩, updates.2⟩
      exact ⟨last, foundLast, Endpoint.alike_trans alike alikeLast⟩

/-- Being alike is an equivalence in which addresses do not count, and it is what updates report: each
update through a handle of a description, in any run of uses, says whether the description is no longer
alike, and if none of them says so, the first and the last description are alike. -/
theorem update_reports_alike :
    (Equivalence fun a b : Endpoint => a.alike b = true) ∧
    (∀ (a b : Endpoint) (publicIps privateIps healthCheckIps : AddressSet),
      let moved := { a with publicIps, privateIps, healthCheckIps }
      moved.alike b = a.alike b ∧ b.alike moved = b.alike a) ∧
    ∀ (register : Register) (handle : Nat) (first : Endpoint) (uses : List Use),
      register.snapshot? handle = some first →
      (∀ before original, before ++ [.clone original] <+: uses →
        (register.after before).Shares handle original →
        (register.after uses).Shares handle (register.after before).next) ∧
      (∀ other, (register.after uses).Shares handle other →
        (register.after uses).snapshot? other = (register.after uses).snapshot? handle) ∧
      (∀ before other change, register.Updates handle uses before other change →
        ∃ old, (register.after before).snapshot? handle = some old ∧
          (register.after (before ++ [.update other change])).snapshot? handle = some (change old) ∧
          ((register.after before).update other change).2 = some (!old.alike (change old))) ∧
      ((∀ before other change, register.Updates handle uses before other change →
          ((register.after before).update other change).2 = some false) →
        ∃ last, (register.after uses).snapshot? handle = some last ∧ first.alike last = true) := by
  refine ⟨Endpoint.alike_equivalence, Endpoint.alike_withAddresses, ?_⟩
  intro register handle first uses found
  refine ⟨?_, fun other shares => shares.snapshot?_eq, ?_, alike_after found uses⟩
  · rintro before original ⟨later, rfl⟩ shares
    rw [after_append, after_append]
    exact shares.clone.after later
  · rintro before other change ⟨-, shares⟩
    rw [after_append]
    exact update_of_shares shares change

def stamped (stamp : String) : Endpoint where
  cluster := "east"
  cable := "hub"
  settings := .ofList [(Endpoint.loadBalancerKey, "true"), ("started", stamp)]

def restarted : List Use := [
  .clone 0,
  .update 1 fun endpoint => { endpoint with settings := endpoint.settings.insert "started" "2" },
  .update 0 fun endpoint => { endpoint with publicIps := endpoint.publicIps.set (.v4 ⟨10, 0, 0, 7⟩) }]

theorem update_reports_alike_restarted :
    let register := empty.create (stamped "1")
    (register.after restarted).Shares 0 1 ∧
      (register.after restarted).snapshot? 1 = (register.after restarted).snapshot? 0 ∧
      (register.after restarted).snapshot? 0 ≠ some (stamped "1") ∧
      ∃ last, (register.after restarted).snapshot? 0 = some last ∧
        (stamped "1").alike last = true := by
  intro register
  obtain ⟨clones, sees, -, quiet⟩ := update_reports_alike.2.2 register 0 (stamped "1") restarted rfl
  have shares : (register.after restarted).Shares 0 1 :=
    clones [] 0 ⟨restarted.tail, rfl⟩ (.of_snapshot? rfl)
  refine ⟨shares, sees 1 shares, by decide, quiet ?_⟩
  rintro before other change ⟨⟨later, same⟩, -⟩
  cases before with
  | nil => cases same
  | cons first before =>
      cases before with
      | nil =>
          cases same
          decide
      | cons second before =>
          cases before with
          | nil =>
              cases same
              decide
          | cons third before => simp [restarted] at same

end Register
end NatReach
