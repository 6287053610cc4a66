import Mathlib.Data.List.TakeWhile
import NatReach.Address.Spelling
import NatReach.Proofs.Text.Numeral

namespace NatReach

theorem groupOf_octets (group : UInt16) : groupOf (highOctet group) (lowOctet group) = group := by
  apply UInt16.toNat_inj.1
  have := group.toNat_lt
  simp only [groupOf, highOctet, lowOctet, UInt16.toNat_ofNat', UInt8.toNat_ofNat']
  omega

theorem Ipv6.eq_mapped {address : Ipv6} {inner : Ipv4} (stands : address.mapped? = some inner) :
    address = inner.mapped := by
  obtain ⟨groups, full⟩ := address
  unfold mapped? at stands
  split at stands
  · rename_i high low last
    split at stands
    · rename_i front
      cases stands
      have whole := List.take_append_drop 6 groups
      rw [front, last] at whole
      simp only [Ipv4.mapped, groupOf_octets, whole]
    · cases stands
  · cases stands

namespace Spelling

theorem span_digits {digit : Char → Bool} {digits rest : List Char}
    (all : ∀ c ∈ digits, digit c = true) (ends : ∀ c ∈ rest.head?, digit c = false) :
    (digits ++ rest).takeWhile digit = digits ∧ (digits ++ rest).dropWhile digit = rest := by
  rw [List.takeWhile_append_of_pos all, List.dropWhile_append_of_pos all]
  cases rest with
  | nil => simp
  | cons c rest => simp [ends c rfl]

/-! ## IPv4 -/

theorem readOctet_digits (octet : UInt8) {rest : List Char}
    (ends : ∀ c ∈ rest.head?, Numeral.isDecimal c = false) :
    readOctet (Nat.toDigits 10 octet.toNat ++ rest) = some (octet, rest) := by
  have small := octet.toNat_lt
  have short : (Nat.toDigits 10 octet.toNat).length ≤ 3 :=
    (Nat.length_toDigits_le_iff (by omega) (by omega)).2 (by omega)
  have noZero : ¬ (1 < (Nat.toDigits 10 octet.toNat).length ∧
      (Nat.toDigits 10 octet.toNat).head? = some '0') := by
    rintro ⟨long, zero⟩
    rcases Nat.eq_zero_or_pos octet.toNat with none | positive
    · rw [none] at long
      simp at long
    · obtain ⟨c, more, digits, notZero⟩ := Numeral.toDigits_eq_cons positive
      rw [digits] at zero
      exact notZero (Option.some.inj zero)
  have fits : ¬ (3 < (Nat.toDigits 10 octet.toNat).length ||
      (1 < (Nat.toDigits 10 octet.toNat).length &&
        (Nat.toDigits 10 octet.toNat).head? == some '0') || 255 < octet.toNat) = true := by
    simp only [Bool.or_eq_true, Bool.and_eq_true, decide_eq_true_eq, beq_iff_eq]
    rintro ((long | zero) | large)
    · omega
    · exact noZero zero
    · omega
  have decimal : ∀ c ∈ Nat.toDigits 10 octet.toNat, Numeral.isDecimal c = true :=
    fun c member => Numeral.isDecimal_of_mem_toDigits member
  obtain ⟨front, back⟩ := span_digits decimal ends
  have read := Numeral.readDecimal?_toDigits octet.toNat
  unfold readOctet
  rw [front, back]
  simp only [read, Option.bind_eq_bind, Option.bind_some]
  rw [if_neg fits, UInt8.ofNat_toNat]
  rfl

theorem readIpv4_text (address : Ipv4) {rest : List Char}
    (ends : ∀ c ∈ rest.head?, Numeral.isDecimal c = false) :
    readIpv4 (address.text.toList ++ rest) = some (address, rest) := by
  have dot (more : List Char) : ∀ c ∈ ('.' :: more).head?, Numeral.isDecimal c = false := by
    intro c first
    cases first
    decide
  have text : address.text.toList ++ rest =
      Nat.toDigits 10 address.first.toNat ++ '.' :: (Nat.toDigits 10 address.second.toNat ++ '.' ::
        (Nat.toDigits 10 address.third.toNat ++ '.' ::
          (Nat.toDigits 10 address.fourth.toNat ++ rest))) := by
    simp [Ipv4.text]
  rw [text]
  unfold readIpv4
  simp [readOctet_digits _ (dot _), readOctet_digits _ ends, skip]

theorem readIpv4_whole (address : Ipv4) : readIpv4 address.text.toList = some (address, []) := by
  have ends : ∀ c ∈ ([] : List Char).head?, Numeral.isDecimal c = false := by
    rintro c ⟨⟩
  have read := readIpv4_text address ends
  rwa [List.append_nil] at read

/-! ## Groups -/

def spell : (following : Bool) → List UInt16 → List Char
  | _, [] => []
  | following, group :: groups =>
    (if following then [':'] else []) ++ (Numeral.hex group.toNat ++ spell true groups)

theorem toList_joined (groups : List UInt16) : (Ipv6.joined groups).toList = spell false groups := by
  unfold Ipv6.joined
  rw [String.toList_intercalate]
  induction groups with
  | nil => rfl
  | cons group rest ih =>
      cases rest with
      | nil => simp [spell]
      | cons next rest =>
          simp only [List.map_cons, List.intercalate_cons_cons] at ih ⊢
          rw [ih]
          simp [spell]

theorem isHex_of_mem_hex {n : Nat} {c : Char} (member : c ∈ Numeral.hex n) : isHex c = true := by
  obtain ⟨d, small, rfl⟩ := Numeral.exists_of_mem_toDigits (by omega) member
  rw [isHex, Numeral.hexDigit?_digitChar d small]
  rfl

def Pauses (rest : List Char) : Prop := ∀ c ∈ rest.head?, c = ':'

theorem readGroup_hex (group : UInt16) {rest : List Char} (pauses : Pauses rest) :
    readGroup (Numeral.hex group.toNat ++ rest) = some (group, rest) := by
  have ends : ∀ c ∈ rest.head?, isHex c = false := by
    intro c first
    rw [pauses c first]
    decide
  obtain ⟨front, back⟩ := span_digits (fun c member => isHex_of_mem_hex member) ends
  obtain ⟨digits, read, length, value⟩ :=
    Numeral.mapM_toDigits (by omega) Numeral.hexDigit?_digitChar group.toNat
  have some : 0 < (Nat.toDigits 16 group.toNat).length := Nat.length_toDigits_pos
  have short : (Nat.toDigits 16 group.toNat).length ≤ 4 :=
    (Nat.length_toDigits_le_iff (by omega) (by omega)).2 group.toNat_lt
  have fits : ¬ (digits.isEmpty || 4 < digits.length) = true := by
    simp only [Bool.or_eq_true, List.isEmpty_iff, decide_eq_true_eq, ← List.length_eq_zero_iff]
    omega
  unfold readGroup
  rw [front, back]
  simp only [Numeral.hex, read, Option.bind_eq_bind, Option.bind_some]
  rw [if_neg fits, value, UInt16.ofNat_toNat]
  rfl

theorem rest_readOctet {cs rest : List Char} {octet : UInt8} (read : readOctet cs = some (octet, rest)) :
    rest = cs.dropWhile Numeral.isDecimal := by
  unfold readOctet at read
  simp only [Option.bind_eq_bind, Option.bind_eq_some_iff] at read
  obtain ⟨value, -, read⟩ := read
  split at read
  · cases read
  · exact (congrArg Prod.snd (Option.some.inj read)).symm

theorem readIpv4_hex {digits rest : List Char} (hex : ∀ c ∈ digits, isHex c = true)
    (pauses : Pauses rest) : readIpv4 (digits ++ rest) = none := by
  have noDot : ∀ c ∈ ((digits ++ rest).dropWhile Numeral.isDecimal).head?, c ≠ '.' := by
    induction digits with
    | nil =>
        cases rest with
        | nil => simp
        | cons c rest =>
            have colon : c = ':' := pauses c rfl
            subst colon
            simp [show Numeral.isDecimal ':' = false by decide]
    | cons c digits ih =>
        by_cases decimal : Numeral.isDecimal c = true
        · rw [List.cons_append, List.dropWhile_cons_of_pos decimal]
          exact ih fun c member => hex c (List.mem_cons_of_mem _ member)
        · rw [List.cons_append, List.dropWhile_cons_of_neg decimal]
          rintro - ⟨⟩ rfl
          cases hex '.' List.mem_cons_self
  unfold readIpv4
  cases octet : readOctet (digits ++ rest) with
  | none => rfl
  | some read =>
      obtain ⟨octet', more⟩ := read
      rw [← rest_readOctet octet] at noDot
      have missing : skip '.' more = none := by
        cases more with
        | nil => rfl
        | cons c more => exact if_neg (noDot c rfl)
      simp [missing]

def Stops (rest : List Char) : Prop := rest = [] ∨ ∃ more, rest = ':' :: ':' :: more

theorem Stops.pauses {rest : List Char} (stops : Stops rest) : Pauses rest := by
  rcases stops with rfl | ⟨more, rfl⟩
  · rintro c ⟨⟩
  · rintro c ⟨⟩
    rfl

theorem pauses_spell (groups : List UInt16) {rest : List Char} (stops : Stops rest) :
    Pauses (spell true groups ++ rest) := by
  cases groups with
  | nil => exact stops.pauses
  | cons group groups =>
      rintro c ⟨⟩
      rfl

theorem readGroup_colon (more : List Char) : readGroup (':' :: more) = none := by
  have none : isHex ':' = false := by decide
  simp [readGroup, none]

theorem readIpv4_colon (more : List Char) : readIpv4 (':' :: more) = none := by
  have none : ∀ c ∈ ([] : List Char), isHex c = true := fun c member => by cases member
  have pauses : Pauses (':' :: more) := by
    rintro c ⟨⟩
    rfl
  exact readIpv4_hex none pauses

section
variable {slots : Nat} {following : Bool} {cs body : List Char}

theorem readGroups_of_group (colon : (if following then skip ':' cs else some cs) = some body)
    (noIpv4 : readIpv4 body = none) {group : UInt16} {rest : List Char}
    (read : readGroup body = some (group, rest)) :
    readGroups (slots + 1) following cs =
      (group :: (readGroups slots true rest).1, (readGroups slots true rest).2) := by
  have neither : (if slots = 0 then none else readIpv4 body) = none := by
    rw [noIpv4, ite_self]
  rw [readGroups, colon]
  simp only [neither, read]

theorem readGroups_of_ipv4 (colon : (if following then skip ':' cs else some cs) = some body)
    (room : slots ≠ 0) {inner : Ipv4} {rest : List Char} (read : readIpv4 body = some (inner, rest)) :
    readGroups (slots + 1) following cs =
      ([groupOf inner.first inner.second, groupOf inner.third inner.fourth], true, rest) := by
  rw [readGroups, colon]
  simp only [room, ↓reduceIte, read]

theorem readGroups_of_no_group (colon : (if following then skip ':' cs else some cs) = some body)
    (noIpv4 : readIpv4 body = none) (noGroup : readGroup body = none) :
    readGroups (slots + 1) following cs = ([], false, cs) := by
  have neither : (if slots = 0 then none else readIpv4 body) = none := by
    rw [noIpv4, ite_self]
  rw [readGroups, colon]
  simp only [neither, noGroup]

end

theorem readGroups_of_stops (slots : Nat) (following : Bool) {rest : List Char}
    (stops : Stops rest) : readGroups slots following rest = ([], false, rest) := by
  cases slots with
  | zero => rfl
  | succ slots =>
      rcases stops with rfl | ⟨more, rfl⟩
      · cases following <;> cases slots <;> rfl
      · cases following with
        | false => exact readGroups_of_no_group rfl (readIpv4_colon _) (readGroup_colon _)
        | true => exact readGroups_of_no_group rfl (readIpv4_colon _) (readGroup_colon _)

theorem readGroups_spell {slots : Nat} (following : Bool) {groups : List UInt16} {rest : List Char}
    (fit : groups.length ≤ slots) (stops : Stops rest) :
    readGroups slots following (spell following groups ++ rest) = (groups, false, rest) := by
  induction groups generalizing slots following with
  | nil => exact readGroups_of_stops slots following stops
  | cons group groups ih =>
      cases slots with
      | zero => cases fit
      | succ slots =>
          have pauses := pauses_spell groups stops
          have colon : (if following then skip ':' (spell following (group :: groups) ++ rest)
              else some (spell following (group :: groups) ++ rest)) =
                some (Numeral.hex group.toNat ++ (spell true groups ++ rest)) := by
            cases following <;> simp [spell, skip]
          rw [readGroups_of_group colon (readIpv4_hex (fun c => isHex_of_mem_hex) pauses)
            (readGroup_hex group pauses), ih true (Nat.le_of_succ_le_succ fit)]

/-! ## IPv6 -/

theorem ofGroups?_groups (address : Ipv6) : ofGroups? address.groups = some address :=
  dif_pos address.length_groups

theorem readIpv6_joined (address : Ipv6) :
    readIpv6 (spell false address.groups) = some (address, []) := by
  have read := readGroups_spell false (Nat.le_of_eq address.length_groups) (.inl rfl)
  rw [List.append_nil] at read
  unfold readIpv6
  rw [read]
  simp [address.length_groups, ofGroups?_groups]

theorem readIpv6_shortened {address : Ipv6} {front back : List UInt16} {zeros : Nat}
    (groups : address.groups = front ++ (List.replicate zeros 0 ++ back)) (any : 0 < zeros) :
    readIpv6 (spell false front ++ ':' :: ':' :: spell false back) = some (address, []) := by
  have full := address.length_groups
  rw [groups, List.length_append, List.length_append, List.length_replicate] at full
  have fitFront : front.length ≤ 8 := by omega
  have fitBack : back.length ≤ 7 - front.length := by omega
  have readFront := readGroups_spell false fitFront (.inr ⟨spell false back, rfl⟩)
  have readBack := readGroups_spell false fitBack (.inl rfl)
  rw [List.append_nil] at readBack
  have short : ¬ front.length = 8 := by omega
  have left : 8 - front.length - back.length = zeros := by omega
  unfold readIpv6
  rw [readFront]
  simp only [short, readBack, left]
  rw [List.append_assoc, ← groups, ofGroups?_groups]
  rfl

theorem readIpv6_mapped (address : Ipv4) :
    readIpv6 ("::ffff:" ++ address.text).toList = some (address.mapped, []) := by
  have text : ("::ffff:" ++ address.text).toList =
      ':' :: ':' :: (Numeral.hex (0xFFFF : UInt16).toNat ++ ':' :: address.text.toList) := by
    rw [String.toList_append]
    rfl
  have first := readGroups_of_stops 8 false
    (.inr ⟨Numeral.hex (0xFFFF : UInt16).toNat ++ ':' :: address.text.toList, rfl⟩)
  have pauses : Pauses (':' :: address.text.toList) := by
    rintro c ⟨⟩
    rfl
  have second : readGroups 7 false
      (Numeral.hex (0xFFFF : UInt16).toNat ++ ':' :: address.text.toList) =
        (0xFFFF :: [groupOf address.first address.second, groupOf address.third address.fourth],
          true, []) := by
    rw [readGroups_of_group rfl (readIpv4_hex (fun c => isHex_of_mem_hex) pauses)
      (readGroup_hex _ pauses), readGroups_of_ipv4 rfl (by omega) (readIpv4_whole address)]
  rw [text]
  unfold readIpv6
  rw [first]
  simp only [List.length_nil, second]
  rfl

theorem zerosAt_longestZeros (groups : List UInt16) :
    (Ipv6.longestZeros groups).2 ≤ Ipv6.zerosAt groups (Ipv6.longestZeros groups).1 := by
  unfold Ipv6.longestZeros
  generalize List.range groups.length = positions
  have kept (best : Nat × Nat) (bounded : best.2 ≤ Ipv6.zerosAt groups best.1) :
      let last := positions.foldl (fun best position =>
        if best.2 < Ipv6.zerosAt groups position then (position, Ipv6.zerosAt groups position)
        else best) best
      last.2 ≤ Ipv6.zerosAt groups last.1 := by
    induction positions generalizing best with
    | nil => exact bounded
    | cons position rest ih =>
        refine ih _ ?_
        dsimp only
        split
        · exact Nat.le_refl _
        · exact bounded
  exact kept (0, 0) (Nat.zero_le _)

theorem drop_of_zerosAt {groups : List UInt16} {position zeros : Nat}
    (many : zeros ≤ Ipv6.zerosAt groups position) :
    groups.drop position = List.replicate zeros 0 ++ groups.drop (position + zeros) := by
  have front : (groups.drop position).take zeros = List.replicate zeros 0 := by
    rw [← List.takeWhile_append_dropWhile (p := (· == 0)) (l := groups.drop position),
      List.take_append_of_le_length many, List.eq_replicate_iff]
    constructor
    · exact List.length_take_of_le many
    · intro group member
      have zero := List.mem_takeWhile_imp (List.mem_of_mem_take member)
      exact beq_iff_eq.1 zero
  rw [← front, ← List.drop_drop, List.take_append_drop]

theorem readIpv6_text (address : Ipv6) : readIpv6 address.text.toList = some (address, []) := by
  unfold Ipv6.text
  split
  · rename_i inner mapped
    rw [Ipv6.eq_mapped mapped]
    exact readIpv6_mapped inner
  · have zeros := zerosAt_longestZeros address.groups
    generalize Ipv6.longestZeros address.groups = longest at zeros ⊢
    obtain ⟨start, length⟩ := longest
    dsimp only at zeros ⊢
    split
    · have groups := List.take_append_drop start address.groups
      rw [drop_of_zerosAt zeros] at groups
      have read := readIpv6_shortened groups.symm (by omega)
      simpa [toList_joined] using read
    · rw [toList_joined]
      exact readIpv6_joined address

theorem readIpv4_ipv6 (address : Ipv6) : readIpv4 address.text.toList = none := by
  have read (groups : List UInt16) {rest : List Char} (stops : Stops rest) :
      readIpv4 (spell false groups ++ rest) = none := by
    cases groups with
    | nil => exact readIpv4_hex (fun c member => by cases member) stops.pauses
    | cons group groups =>
        have pauses := pauses_spell groups stops
        simpa [spell] using readIpv4_hex (fun c => isHex_of_mem_hex) pauses
  unfold Ipv6.text
  split
  · rw [String.toList_append]
    exact readIpv4_colon _
  · dsimp only
    split
    · rw [String.toList_append, String.toList_append, toList_joined, List.append_assoc]
      exact read _ (.inr ⟨_, rfl⟩)
    · rw [toList_joined, ← List.append_nil (spell _ _)]
      exact read _ (.inl rfl)

end Spelling

open Spelling

theorem Ip.ofText?_text (ip : Ip) : Ip.ofText? ip.text = some ip := by
  cases ip with
  | v4 address =>
      simp only [ofText?, text, readIpv4_whole]
      rfl
  | v6 address =>
      simp only [ofText?, text, readIpv4_ipv6, readIpv6_text]
      rfl

theorem Ip.text_ne_empty (ip : Ip) : ip.text ≠ "" := by
  intro empty
  have read := ip.ofText?_text
  rw [empty] at read
  cases read

end NatReach
