import NatReach.Text.Numeral

namespace NatReach.Numeral

theorem decimalDigit?_digitChar : ∀ d < 10, decimalDigit? d.digitChar = some d := by decide

theorem hexDigit?_digitChar : ∀ d < 16, hexDigit? d.digitChar = some d := by decide

theorem paddedHex_of_control :
    ∀ n < 0x20, paddedHex 4 n = ['0', '0', (n / 16).digitChar, (n % 16).digitChar] := by decide

section
variable {base : Nat}

theorem mapM_toDigits (large : 1 < base) {digit? : Char → Option Nat}
    (reads : ∀ d < base, digit? d.digitChar = some d) (n : Nat) :
    ∃ digits, (Nat.toDigits base n).mapM digit? = some digits ∧
      digits.length = (Nat.toDigits base n).length ∧ ofDigits base digits = n := by
  induction n using Nat.strongRecOn with
  | ind n ih =>
      rw [Nat.toDigits_eq_if large]
      split
      · rename_i small
        exact ⟨[n], by simp [reads n small], rfl, by simp [ofDigits]⟩
      · rename_i notSmall
        obtain ⟨digits, read, length, value⟩ :=
          ih (n / base) (Nat.div_lt_self (by omega) large)
        refine ⟨digits ++ [n % base], ?_, ?_, ?_⟩
        · have last := reads (n % base) (Nat.mod_lt _ (by omega))
          simp [List.mapM_append, read, last]
        · simp [length]
        · rw [ofDigits_append, value]
          exact Nat.div_add_mod n base

theorem exists_of_mem_toDigits (large : 1 < base) {n : Nat} {c : Char}
    (member : c ∈ Nat.toDigits base n) : ∃ d < base, c = d.digitChar := by
  induction n using Nat.strongRecOn with
  | ind n ih =>
      rw [Nat.toDigits_eq_if large] at member
      split at member
      · rename_i small
        exact ⟨n, small, List.mem_singleton.1 member⟩
      · rcases List.mem_append.1 member with front | last
        · exact ih (n / base) (Nat.div_lt_self (by omega) large) front
        · exact ⟨n % base, Nat.mod_lt _ (by omega), List.mem_singleton.1 last⟩

end

theorem readDecimal?_toDigits (n : Nat) : readDecimal? (Nat.toDigits 10 n) = some n := by
  obtain ⟨digits, read, -, value⟩ := mapM_toDigits (by omega) decimalDigit?_digitChar n
  have some : (Nat.toDigits 10 n).isEmpty = false := by simp [Nat.toDigits_ne_nil]
  simp [readDecimal?, some, read, value]

theorem isDecimal_of_mem_toDigits {n : Nat} {c : Char} (member : c ∈ Nat.toDigits 10 n) :
    isDecimal c = true := by
  obtain ⟨d, small, rfl⟩ := exists_of_mem_toDigits (by omega) member
  rw [isDecimal, decimalDigit?_digitChar d small]
  rfl

def digitValue (c : Char) : Nat := c.toNat - '0'.toNat

theorem decimalDigit?_eq_some_iff {c : Char} {d : Nat} :
    decimalDigit? c = some d ↔ isDecimal c = true ∧ d = digitValue c := by
  unfold isDecimal decimalDigit?
  split
  · exact ⟨fun read => ⟨rfl, (Option.some.inj read).symm⟩, fun same => congrArg some same.2.symm⟩
  · exact ⟨nofun, fun none => nomatch none.1⟩

theorem mapM_decimalDigit?_eq_some_iff {cs : List Char} {digits : List Nat} :
    cs.mapM decimalDigit? = some digits ↔
      (∀ c ∈ cs, isDecimal c = true) ∧ digits = cs.map digitValue := by
  induction cs generalizing digits with
  | nil =>
      rw [List.mapM_nil]
      exact ⟨fun read => ⟨nofun, (Option.some.inj read).symm⟩, fun same => congrArg some same.2.symm⟩
  | cons c rest ih =>
      simp only [List.mapM_cons, Option.bind_eq_bind, Option.bind_eq_some_iff, decimalDigit?_eq_some_iff,
        ih, List.forall_mem_cons, List.map_cons]
      constructor
      · rintro ⟨_, ⟨first, rfl⟩, _, ⟨others, rfl⟩, read⟩
        exact ⟨⟨first, others⟩, (Option.some.inj read).symm⟩
      · rintro ⟨⟨first, others⟩, rfl⟩
        exact ⟨_, ⟨first, rfl⟩, _, ⟨others, rfl⟩, rfl⟩

theorem readDecimal?_eq_some_iff {cs : List Char} {n : Nat} :
    readDecimal? cs = some n ↔
      cs ≠ [] ∧ (∀ c ∈ cs, isDecimal c = true) ∧ ofDigits 10 (cs.map digitValue) = n := by
  cases cs with
  | nil => simp [readDecimal?]
  | cons c rest =>
      simp only [readDecimal?, List.isEmpty_cons, Bool.false_eq_true, ↓reduceIte,
        Option.map_eq_some_iff, mapM_decimalDigit?_eq_some_iff]
      constructor
      · rintro ⟨_, ⟨decimal, rfl⟩, value⟩
        exact ⟨nofun, decimal, value⟩
      · rintro ⟨-, decimal, value⟩
        exact ⟨_, ⟨decimal, rfl⟩, value⟩

theorem toDigits_eq_cons {n : Nat} (positive : 0 < n) :
    ∃ c rest, Nat.toDigits 10 n = c :: rest ∧ c ≠ '0' := by
  induction n using Nat.strongRecOn with
  | ind n ih =>
      rw [Nat.toDigits_eq_if (by omega)]
      split
      · rename_i small
        refine ⟨n.digitChar, [], rfl, ?_⟩
        rw [ne_eq, Nat.digitChar_eq_zero]
        omega
      · rename_i large
        obtain ⟨c, rest, front, notZero⟩ := ih (n / 10) (by omega) (by omega)
        exact ⟨c, rest ++ [(n % 10).digitChar], by rw [front, List.cons_append], notZero⟩

end NatReach.Numeral
