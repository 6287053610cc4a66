import NatReach.Text.Utf8

namespace NatReach.Utf8

/-! ## Cuts -/

theorem front?_follower {octet : UInt8} (follows : isFollower octet = true) (rest : List UInt8) :
    front? octet rest = none := by
  simp only [isFollower, Bool.and_eq_true, decide_eq_true_eq] at follows
  have notOne : ¬ octet.toNat < 0x80 := by omega
  have notTwo (b : UInt8) : two? octet b = none := by
    refine if_neg ?_
    simp only [Bool.and_eq_true, decide_eq_true_eq]
    omega
  have notThree (b c : UInt8) : three? octet b c = none := by
    refine if_neg ?_
    simp only [Bool.and_eq_true, decide_eq_true_eq]
    omega
  have notFour (b c d : UInt8) : four? octet b c d = none := by
    refine if_neg ?_
    simp only [Bool.and_eq_true, decide_eq_true_eq]
    omega
  unfold front?
  rw [if_neg notOne]
  rcases rest with _ | ⟨b, _ | ⟨c, _ | ⟨d, rest⟩⟩⟩
  · rfl
  · simp [notTwo]
  · simp [notTwo, notThree]
  · simp [notTwo, notThree, notFour]

theorem symbols_cons_of_none {octet : UInt8} {rest : List UInt8} (stray : front? octet rest = none) :
    symbols (octet :: rest) = none :: symbols rest := by
  rw [symbols, symbolsFrom, stray]
  rfl

theorem symbols_followers {octets : List UInt8} (follow : ∀ octet ∈ octets, isFollower octet = true) :
    symbols octets = List.replicate octets.length none := by
  induction octets with
  | nil => rfl
  | cons octet rest ih =>
      have first := front?_follower (follow octet List.mem_cons_self) rest
      have others := ih fun other member => follow other (List.mem_cons_of_mem _ member)
      rw [symbols_cons_of_none first, others]
      rfl

theorem isFollower_follower (bits : Nat) : isFollower (follower bits) = true := by
  have value : (follower bits).toNat = 0x80 + bits % 0x40 := by
    simp only [follower, UInt8.toNat_ofNat']
    omega
  simp only [isFollower, value, Bool.and_eq_true, decide_eq_true_eq]
  omega

theorem front?_of_short {octet : UInt8} {rest : List UInt8} (large : 0xC0 ≤ octet.toNat)
    (short : rest.length = 0 ∨ rest.length = 1 ∧ 0xE0 ≤ octet.toNat ∨
      rest.length = 2 ∧ 0xF0 ≤ octet.toNat) : front? octet rest = none := by
  have notOne : ¬ octet.toNat < 0x80 := by omega
  have notTwo (b : UInt8) (larger : 0xE0 ≤ octet.toNat) : two? octet b = none := by
    refine if_neg ?_
    simp only [Bool.and_eq_true, decide_eq_true_eq]
    omega
  have notThree (b c : UInt8) (larger : 0xF0 ≤ octet.toNat) : three? octet b c = none := by
    refine if_neg ?_
    simp only [Bool.and_eq_true, decide_eq_true_eq]
    omega
  unfold front?
  rw [if_neg notOne]
  rcases rest with _ | ⟨b, _ | ⟨c, _ | ⟨d, rest⟩⟩⟩
  · rfl
  · have larger : 0xE0 ≤ octet.toNat := by simpa using short
    simp [notTwo b larger]
  · have larger : 0xF0 ≤ octet.toNat := by simpa using short
    simp [notTwo b (by omega), notThree b c larger]
  · simp at short

theorem symbols_of_cut {octet : UInt8} {rest : List UInt8} (cut : front? octet rest = none)
    (follow : ∀ other ∈ rest, isFollower other = true) :
    symbols (octet :: rest) = List.replicate (octet :: rest).length none := by
  rw [symbols_cons_of_none cut, symbols_followers follow]
  rfl

theorem symbols_cut {c : Char} {front back : List UInt8} (parts : encodeChar c = front ++ back)
    (nonempty : back ≠ []) : symbols front = List.replicate front.length none := by
  have valid := toNat_lt c
  unfold encodeChar at parts
  dsimp only at parts
  generalize c.toNat = n at *
  have octet (k : Nat) (small : k < 256) : (UInt8.ofNat k).toNat = k := by
    simp only [UInt8.toNat_ofNat']
    omega
  -- what stands before a cut is an octet that announces more than there is, and followers
  have cut (k : Nat) (followers : List UInt8) (follow : ∀ o ∈ followers, isFollower o = true)
      (all : UInt8.ofNat k :: followers = front ++ back) (small : k < 256) (large : 0xC0 ≤ k)
      (announced : followers.length = 1 ∨ followers.length = 2 ∧ 0xE0 ≤ k ∨
        followers.length = 3 ∧ 0xF0 ≤ k) : symbols front = List.replicate front.length none := by
    cases front with
    | nil => rfl
    | cons first front =>
        rw [List.cons_append, List.cons.injEq] at all
        obtain ⟨rfl, rfl⟩ := all
        have some : 0 < back.length := List.length_pos_iff.2 nonempty
        rw [List.length_append] at announced
        refine symbols_of_cut (front?_of_short ?_ ?_)
          fun other member => follow other (List.mem_append_left _ member)
        · rw [octet k small]
          exact large
        · rw [octet k small]
          omega
  split at parts
  · cases front with
    | nil => rfl
    | cons first front =>
        rw [List.cons_append, List.cons.injEq] at parts
        exact absurd (List.append_eq_nil_iff.1 parts.2.symm).2 nonempty
  · split at parts
    · exact cut _ _ (by simp [isFollower_follower]) parts (by omega) (by omega) (by simp)
    · split at parts
      · exact cut _ _ (by simp [isFollower_follower]) parts (by omega) (by omega)
          (.inr (.inl ⟨rfl, by omega⟩))
      · exact cut _ _ (by simp [isFollower_follower]) parts (by omega) (by omega)
          (.inr (.inr ⟨rfl, by omega⟩))

theorem symbols_prefix {cs : List Char} {front back : List UInt8} (parts : encode cs = front ++ back)
    (nonempty : back ≠ []) :
    ∃ first others strays, cs = first ++ others ∧ others ≠ [] ∧
      symbols front = first.map some ++ List.replicate strays none := by
  induction cs generalizing front with
  | nil =>
      have nothing := List.append_eq_nil_iff.1 parts.symm
      exact absurd nothing.2 nonempty
  | cons c cs ih =>
      have all : encodeChar c ++ encode cs = front ++ back := by
        rw [← parts]
        rfl
      rcases List.append_eq_append_iff.1 all with ⟨more, rfl, rest⟩ | ⟨cut, char, rfl⟩
      · obtain ⟨first, others, strays, rfl, some, symbolsMore⟩ := ih rest
        refine ⟨c :: first, others, strays, rfl, some, ?_⟩
        rw [symbols_encodeChar_append, symbolsMore]
        rfl
      · by_cases whole : cut = []
        · subst whole
          rw [List.append_nil] at char
          have none : encode cs = [] ++ ([] ++ encode cs) := rfl
          obtain ⟨first, others, strays, rfl, some, symbolsMore⟩ := ih none
          refine ⟨c :: first, others, strays, rfl, some, ?_⟩
          have one := symbols_encodeChar_append c []
          rw [List.append_nil, char] at one
          rw [one, symbolsMore]
          rfl
        · exact ⟨[], c :: cs, front.length, rfl, nofun, symbols_cut char whole⟩

/-! ## Every octet has a symbol -/

theorem toNat_ofNat {n : Nat} (valid : n.isValidChar) : (Char.ofNat n).toNat = n := by
  rw [Char.ofNat, dif_pos valid]
  rfl

theorem le_toNat_two? {a b : UInt8} {c : Char} (found : two? a b = some c) :
    0x80 ≤ b.toNat ∧ 0x80 ≤ c.toNat := by
  simp only [two?, Option.ite_none_right_eq_some, Option.some.injEq, Bool.and_eq_true, isFollower,
    decide_eq_true_eq] at found
  obtain ⟨range, rfl⟩ := found
  have valid : Nat.isValidChar ((a.toNat - 0xC0) * 0x40 + (b.toNat - 0x80)) := by
    simp only [Nat.isValidChar]
    omega
  rw [toNat_ofNat valid]
  omega

theorem le_toNat_three? {a b d : UInt8} {c : Char} (found : three? a b d = some c) :
    0x80 ≤ b.toNat ∧ 0x80 ≤ d.toNat ∧ 0x80 ≤ c.toNat := by
  simp only [three?, Option.ite_none_right_eq_some, Option.some.injEq, Bool.and_eq_true, isFollower,
    decide_eq_true_eq, Bool.not_eq_true', Bool.and_eq_false_iff, decide_eq_false_iff_not] at found
  obtain ⟨range, rfl⟩ := found
  have valid : Nat.isValidChar
      ((a.toNat - 0xE0) * 0x1000 + (b.toNat - 0x80) * 0x40 + (d.toNat - 0x80)) := by
    simp only [Nat.isValidChar]
    omega
  rw [toNat_ofNat valid]
  omega

theorem le_toNat_four? {a b d e : UInt8} {c : Char} (found : four? a b d e = some c) :
    0x80 ≤ b.toNat ∧ 0x80 ≤ d.toNat ∧ 0x80 ≤ e.toNat ∧ 0x80 ≤ c.toNat := by
  simp only [four?, Option.ite_none_right_eq_some, Option.some.injEq, Bool.and_eq_true, isFollower,
    decide_eq_true_eq] at found
  obtain ⟨range, rfl⟩ := found
  have valid : Nat.isValidChar ((a.toNat - 0xF0) * 0x40000 + (b.toNat - 0x80) * 0x1000 +
      (d.toNat - 0x80) * 0x40 + (e.toNat - 0x80)) := by
    simp only [Nat.isValidChar]
    omega
  rw [toNat_ofNat valid]
  omega

theorem front?_eq_some {octet : UInt8} {rest : List UInt8} {c : Char} {more : Nat}
    (found : front? octet rest = some (c, more)) :
    (octet.toNat < 0x80 ∧ c = Char.ofNat octet.toNat ∧ more = 0) ∨
      (0x80 ≤ octet.toNat ∧ 0x80 ≤ c.toNat ∧ ∀ other ∈ rest.take more, 0x80 ≤ other.toNat) := by
  unfold front? at found
  split at found
  · rename_i small
    cases found
    exact .inl ⟨small, rfl, rfl⟩
  · rename_i large
    refine .inr ⟨by omega, ?_⟩
    split at found
    · cases found
    · rename_i b rest
      split at found
      · rename_i char two
        cases found
        obtain ⟨second, value⟩ := le_toNat_two? two
        exact ⟨value, by simpa using second⟩
      · cases found
      · rename_i d rest _
        split at found
        · rename_i char three
          cases found
          obtain ⟨second, third, value⟩ := le_toNat_three? three
          exact ⟨value, by simpa using ⟨second, third⟩⟩
        · cases found
        · rename_i e rest _
          obtain ⟨char, four, same⟩ := Option.map_eq_some_iff.1 found
          cases same
          obtain ⟨second, third, fourth, value⟩ := le_toNat_four? four
          exact ⟨value, by simpa using ⟨second, third, fourth⟩⟩

def StandsFor (symbol : Symbol) (octet : UInt8) : Prop :=
  if octet.toNat < 0x80 then symbol = some (Char.ofNat octet.toNat)
  else ∀ c, symbol = some c → 0x80 ≤ c.toNat

theorem standsFor_none {octet : UInt8} (notAscii : ¬ octet.toNat < 0x80) : StandsFor none octet := by
  rw [StandsFor, if_neg notAscii]
  exact nofun

theorem standsFor_of_front? {first octet : UInt8} {rest : List UInt8} {c : Char} {more : Nat}
    (found : front? first rest = some (c, more)) (inside : octet = first ∨ octet ∈ rest.take more) :
    StandsFor (some c) octet := by
  rcases front?_eq_some found with ⟨ascii, rfl, rfl⟩ | ⟨large, value, others⟩
  · obtain rfl : octet = first := by simpa using inside
    rw [StandsFor, if_pos ascii]
  · have notAscii : ¬ octet.toNat < 0x80 := by
      rcases inside with rfl | inside
      · omega
      · have := others octet inside
        omega
    rw [StandsFor, if_neg notAscii]
    rintro d ⟨⟩
    exact value

theorem exists_symbolFrom {octets : List UInt8} {octet : UInt8} {taken : Nat}
    (member : octet ∈ octets.drop taken) :
    ∃ symbol ∈ symbolsFrom taken octets, StandsFor symbol octet := by
  induction octets generalizing taken with
  | nil => simp at member
  | cons first rest ih =>
      cases taken with
      | succ taken => exact ih member
      | zero =>
          rw [symbolsFrom]
          cases found : front? first rest with
          | none =>
              rcases List.mem_cons.1 member with rfl | later
              · have notAscii : ¬ octet.toNat < 0x80 := by
                  intro ascii
                  unfold front? at found
                  rw [if_pos ascii] at found
                  cases found
                exact ⟨none, List.mem_cons_self, standsFor_none notAscii⟩
              · obtain ⟨symbol, inside, stands⟩ := @ih 0 later
                exact ⟨symbol, List.mem_cons_of_mem _ inside, stands⟩
          | some char =>
              obtain ⟨c, more⟩ := char
              -- the octet belongs to the first character, or to one behind it
              by_cases here : octet = first ∨ octet ∈ rest.take more
              · exact ⟨some c, List.mem_cons_self, standsFor_of_front? found here⟩
              · rw [not_or] at here
                have later : octet ∈ rest := (List.mem_cons.1 member).resolve_left here.1
                rw [← List.take_append_drop more rest, List.mem_append] at later
                obtain ⟨symbol, inside, stands⟩ := ih (later.resolve_left here.2)
                exact ⟨symbol, List.mem_cons_of_mem _ inside, stands⟩

theorem exists_symbol {octets : List UInt8} {octet : UInt8} (member : octet ∈ octets) :
    ∃ symbol ∈ symbols octets, StandsFor symbol octet :=
  exists_symbolFrom member

/-! ## Reading back -/

theorem decode?_encode (cs : List Char) : decode? (encode cs) = some cs := by
  have all := symbols_encode cs []
  have none : symbols [] = [] := rfl
  rw [List.append_nil, none, List.append_nil] at all
  rw [decode?, all]
  clear all
  induction cs with
  | nil => rfl
  | cons c cs ih => simp [List.mapM_cons, ih]

end NatReach.Utf8
