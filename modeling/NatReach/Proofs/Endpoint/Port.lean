import NatReach.Endpoint.Setting
import NatReach.Proofs.Text.Numeral
import NatReach.Proofs.Text.Trim

namespace NatReach

namespace Text

theorem trimBlanks_of_forall {cs : List Char} (none : ∀ c ∈ cs, isBlank c = false) :
    trimBlanks cs = cs :=
  Kept.trimBy_self
    ⟨fun c first => none c (List.mem_of_mem_head? first),
      fun c last => none c (List.mem_of_mem_getLast? last)⟩

end Text

namespace Setting

/-- That a text spells a port: between any blanks stands a decimal number other than zero, with any
leading zeros and at most one plus sign in front. -/
def Spells (text : String) (port : UInt16) : Prop :=
  ∃ sign digits, Text.trimBlanks text.toList = sign ++ digits ∧ (sign = [] ∨ sign = ['+']) ∧
    digits ≠ [] ∧ (∀ c ∈ digits, Numeral.isDecimal c = true) ∧
    Numeral.ofDigits 10 (digits.map Numeral.digitValue) = port.toNat ∧ port ≠ 0

theorem exists_sign (cs : List Char) :
    ∃ sign, cs = sign ++ dropPlus cs ∧ (sign = [] ∨ sign = ['+']) := by
  unfold dropPlus
  split
  · exact ⟨['+'], rfl, .inr rfl⟩
  · exact ⟨[], rfl, .inl rfl⟩

theorem dropPlus_sign {sign digits : List Char} (plus : sign = [] ∨ sign = ['+'])
    (decimal : ∀ c ∈ digits, Numeral.isDecimal c = true) : dropPlus (sign ++ digits) = digits := by
  rcases plus with rfl | rfl
  · unfold dropPlus
    split
    · rename_i rest same
      rw [List.nil_append] at same
      rw [same] at decimal
      cases decimal '+' List.mem_cons_self
    · rfl
  · rfl

theorem port?_eq_some_iff {text : String} {port : UInt16} :
    port? text = some port ↔ Spells text port := by
  have small := port.toNat_lt
  have positive : port ≠ 0 ↔ 1 ≤ port.toNat := by
    rw [ne_eq, ← UInt16.toNat_inj, UInt16.toNat_zero]
    omega
  unfold port? Spells
  simp only [Option.bind_eq_bind, Option.bind_eq_some_iff, Numeral.readDecimal?_eq_some_iff]
  constructor
  · rintro ⟨number, ⟨some, decimal, value⟩, within⟩
    split at within
    · rename_i range
      cases within
      obtain ⟨sign, parts, plus⟩ := exists_sign (Text.trimBlanks text.toList)
      have same : (UInt16.ofNat number).toNat = number :=
        UInt16.toNat_ofNat_of_lt' (Nat.lt_succ_of_le range.2)
      rw [same] at positive ⊢
      exact ⟨sign, _, parts, plus, some, decimal, value, positive.2 range.1⟩
    · cases within
  · rintro ⟨sign, digits, parts, plus, some, decimal, value, notZero⟩
    rw [parts, dropPlus_sign plus decimal]
    refine ⟨port.toNat, ⟨some, decimal, value⟩, ?_⟩
    rw [if_pos ⟨positive.1 notZero, Nat.le_of_lt_succ small⟩, UInt16.ofNat_toNat]
    rfl

theorem isBlank_of_isDecimal {c : Char} (decimal : Numeral.isDecimal c = true) :
    Text.isBlank c = false := by
  have digit : '0' ≤ c ∧ c ≤ '9' := by
    unfold Numeral.isDecimal Numeral.decimalDigit? at decimal
    split at decimal
    · assumption
    · cases decimal
  have low : 48 ≤ c.toNat := UInt32.le_iff_toNat_le.1 digit.1
  have high : c.toNat ≤ 57 := UInt32.le_iff_toNat_le.1 digit.2
  simp [Text.isBlank]
  omega

def Denotes (text : String) (port : UInt16) : Prop :=
  ∃ front sign digits back, text.toList = front ++ (sign ++ digits) ++ back ∧
    (∀ c ∈ front, Text.isBlank c = true) ∧ (∀ c ∈ back, Text.isBlank c = true) ∧
    (sign = [] ∨ sign = ['+']) ∧ digits ≠ [] ∧ (∀ c ∈ digits, Numeral.isDecimal c = true) ∧
    Numeral.ofDigits 10 (digits.map Numeral.digitValue) = port.toNat ∧ 1 ≤ port

theorem kept_numeral {sign digits : List Char} (plus : sign = [] ∨ sign = ['+']) (some : digits ≠ [])
    (decimal : ∀ c ∈ digits, Numeral.isDecimal c = true) : Text.Kept Text.isBlank (sign ++ digits) where
  first c first := by
    rcases plus with rfl | rfl
    · exact isBlank_of_isDecimal (decimal c (List.mem_of_mem_head? first))
    · cases first
      decide
  last c last := by
    rw [List.getLast?_append_of_ne_nil _ some] at last
    exact isBlank_of_isDecimal (decimal c (List.mem_of_mem_getLast? last))

theorem one_le_iff {port : UInt16} : 1 ≤ port ↔ port ≠ 0 := by
  rw [UInt16.le_iff_toNat_le, ne_eq, ← UInt16.toNat_inj]
  exact Nat.one_le_iff_ne_zero

theorem spells_iff_denotes {text : String} {port : UInt16} : Spells text port ↔ Denotes text port := by
  unfold Spells Denotes
  constructor
  · rintro ⟨sign, digits, trimmed, plus, some, decimal, value, notZero⟩
    obtain ⟨-, front, back, parts, blanks, blanksToo⟩ := Text.trimBy_eq_iff.1 trimmed
    exact ⟨front, sign, digits, back, parts, blanks, blanksToo, plus, some, decimal, value,
      one_le_iff.2 notZero⟩
  · rintro ⟨front, sign, digits, back, parts, blanks, blanksToo, plus, some, decimal, value, positive⟩
    have trimmed : Text.trimBlanks text.toList = sign ++ digits := by
      rw [parts]
      exact (kept_numeral plus some decimal).trimBy_append blanks blanksToo
    exact ⟨sign, digits, trimmed, plus, some, decimal, value, one_le_iff.1 positive⟩

theorem port?_pos {text : String} {port : UInt16} (read : port? text = some port) : 1 ≤ port := by
  obtain ⟨-, -, -, -, -, -, -, notZero⟩ := port?_eq_some_iff.1 read
  exact one_le_iff.2 notZero

theorem isBlank_of_mem_toDigits {n : Nat} {c : Char} (member : c ∈ Nat.toDigits 10 n) :
    Text.isBlank c = false :=
  isBlank_of_isDecimal (Numeral.isDecimal_of_mem_toDigits member)

theorem port?_toString (n : Nat) :
    port? (toString n) = if 1 ≤ n ∧ n ≤ 65535 then some (UInt16.ofNat n) else none := by
  have written : (toString n).toList = Nat.toDigits 10 n := by simp
  have bare : dropPlus (Text.trimBlanks (toString n).toList) = Nat.toDigits 10 n := by
    rw [written, Text.trimBlanks_of_forall fun c => isBlank_of_mem_toDigits]
    exact dropPlus_sign (.inl rfl) fun c => Numeral.isDecimal_of_mem_toDigits
  rw [port?, bare, Numeral.readDecimal?_toDigits]
  rfl

end Setting

namespace Endpoint
variable {endpoint : Endpoint} {port : UInt16}

theorem contains_iff {key : String} :
    endpoint.settings.contains key = true ↔ ∃ value, endpoint.settings.get? key = some value :=
  Option.isSome_iff_exists

theorem settingPort_of_value {key value : String} (found : endpoint.settings.get? key = some value)
    (saying : value ≠ "") (fallback : UInt16) :
    (∀ port, endpoint.settingPort key fallback = .ok port ↔ Setting.Denotes value port) ∧
      ∀ reason, endpoint.settingPort key fallback = .error reason ↔
        reason = .invalidPort key value ∧ ∀ port, ¬ Setting.Denotes value port := by
  have present := setting?_eq_some_iff.2 ⟨found, saying⟩
  simp only [← Setting.spells_iff_denotes, ← Setting.port?_eq_some_iff]
  cases read : Setting.port? value with
  | none => simp [settingPort, present, read, eq_comm]
  | some port => simp [settingPort, present, read]

theorem settingPort_of_nothing {key : String}
    (nothing : endpoint.settings.get? key = none ∨ endpoint.settings.get? key = some "")
    (fallback : UInt16) : endpoint.settingPort key fallback = .ok fallback := by
  rw [settingPort, setting?_eq_none_iff.2 nothing]

theorem discoveryPort_eq_ok_some_iff :
    endpoint.discoveryPort = .ok (some port) ↔
      ∃ value, endpoint.settings.get? discoveryPortKey = some value ∧
        (value = "" ∧ port = defaultDiscoveryPort ∨ value ≠ "" ∧ Setting.port? value = some port) := by
  have asSome (result : Except EndpointError UInt16) :
      result.map some = .ok (some port) ↔ result = .ok port := by
    cases result with
    | error reason => exact ⟨nofun, nofun⟩
    | ok found =>
        simp [Except.map]
  unfold discoveryPort
  split
  · rename_i present
    obtain ⟨value, found⟩ := contains_iff.1 present
    rw [asSome, settingPort_eq_ok_iff, setting?_eq_none_iff, found]
    simp only [setting?_eq_some_iff, found]
    grind
  · rename_i absent
    rw [contains_iff] at absent
    constructor
    · nofun
    · rintro ⟨value, found, -⟩
      exact absurd ⟨value, found⟩ absent

/-! ## No port is zero -/

theorem settingPort_pos {key : String} {fallback : UInt16} (usual : 1 ≤ fallback)
    (read : endpoint.settingPort key fallback = .ok port) : 1 ≤ port := by
  rcases settingPort_eq_ok_iff.1 read with ⟨-, rfl⟩ | ⟨value, -, read⟩
  · exact usual
  · exact Setting.port?_pos read

theorem discoveryPort_pos (answers : endpoint.discoveryPort = .ok (some port)) : 1 ≤ port := by
  obtain ⟨value, -, ⟨-, rfl⟩ | ⟨-, read⟩⟩ := discoveryPort_eq_ok_some_iff.1 answers
  · decide
  · exact Setting.port?_pos read

theorem tunnelPort_pos (read : endpoint.tunnelPort = .ok port) : 1 ≤ port :=
  settingPort_pos (by decide) read

end Endpoint
end NatReach
