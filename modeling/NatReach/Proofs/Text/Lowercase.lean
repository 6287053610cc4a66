import NatReach.Proofs.Text.Utf8
import NatReach.Text.Lowercase

namespace NatReach.Text

def dottedI : Nat := 0x130

def kelvin : Nat := 0x212A

theorem capitals_beyond : ∀ range ∈ capitals, range = (kelvin, kelvin, 1, -8383) ∨
    0x80 ≤ (range.1 : Int) + range.2.2.2 ∧
      ((range.2.1 : Int) + range.2.2.2 < 0xD800 ∨
        0xDFFF < (range.1 : Int) + range.2.2.2 ∧ (range.2.1 : Int) + range.2.2.2 < 0x110000) := by
  decide +kernel

theorem lowerBeyondAscii_valid {n : Nat} (valid : n.isValidChar) (beyond : 0x80 ≤ n)
    (other : n ≠ kelvin) : (lowerBeyondAscii n).isValidChar ∧ 0x80 ≤ lowerBeyondAscii n := by
  unfold lowerBeyondAscii
  split
  · rename_i first last step shift found
    have inRange := List.find?_some found
    simp only [Bool.and_eq_true, decide_eq_true_eq] at inRange
    obtain ⟨⟨low, high⟩, -⟩ := inRange
    rcases capitals_beyond _ (List.mem_of_find?_eq_some found) with same | ⟨above, gap⟩
    · simp only [Prod.mk.injEq] at same
      omega
    · dsimp only at above gap
      unfold Nat.isValidChar
      omega
  · exact ⟨valid, beyond⟩

theorem lowerChar_cases (c : Char) :
    c.toNat < 0x80 ∧ lowerChar c = [c.toLower] ∨
    c.toNat = dottedI ∧ lowerChar c = ['i', '\u0307'] ∨
    c.toNat = kelvin ∧ lowerChar c = ['k'] ∨
    (0x80 ≤ c.toNat ∧ c.toNat ≠ dottedI ∧ c.toNat ≠ kelvin) ∧
      ∃ d, lowerChar c = [d] ∧ 0x80 ≤ d.toNat := by
  by_cases ascii : c.toNat < 0x80
  · exact .inl ⟨ascii, lowerChar_ascii ascii⟩
  by_cases dotted : c.toNat = 0x130
  · refine .inr (.inl ⟨dotted, ?_⟩)
    rw [lowerChar, if_neg ascii, if_pos dotted]
  have single : lowerChar c = [Char.ofNat (lowerBeyondAscii c.toNat)] := by
    rw [lowerChar, if_neg ascii, if_neg dotted]
  by_cases unit : c.toNat = kelvin
  · refine .inr (.inr (.inl ⟨unit, ?_⟩))
    rw [single, unit]
    decide +kernel
  · have isChar : c.toNat.isValidChar := c.valid
    obtain ⟨valid, beyond⟩ := lowerBeyondAscii_valid isChar (Nat.le_of_not_lt ascii) unit
    refine .inr (.inr (.inr ⟨⟨Nat.le_of_not_lt ascii, dotted, unit⟩, _, single, ?_⟩))
    rwa [Utf8.toNat_ofNat valid]

end NatReach.Text
