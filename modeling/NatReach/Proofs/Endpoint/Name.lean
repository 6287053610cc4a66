import NatReach.Endpoint.Name
import NatReach.Proofs.Text.Lowercase
import NatReach.Proofs.Text.Trim

namespace NatReach

namespace ResourceName
open Text

def isSmall (c : Char) : Bool := ('0' ≤ c && c ≤ '9') || ('a' ≤ c && c ≤ 'z')

def isNameChar (c : Char) : Bool := isSmall c || c == '-' || c == '.'

structure Valid (cs : List Char) : Prop where
  nonempty : cs ≠ []
  chars : ∀ c ∈ cs, isNameChar c = true
  first : ∀ c, cs.head? = some c → isSmall c = true
  last : ∀ c, cs.getLast? = some c → isSmall c = true

/-- Whether something of a character remains in a name: a letter or digit, or what begins with one in lower
case. -/
def remains (c : Char) : Bool := isAlphanumeric c || c.toNat == dottedI || c.toNat == kelvin

/-! ## Characters -/

theorem forall_ascii {P : Char → Prop} (all : ∀ n < 0x80, P (Char.ofNat n)) {c : Char}
    (ascii : c.toNat < 0x80) : P c := by
  simpa using all c.toNat ascii

theorem isAlphanumeric_of_beyond {c : Char} (beyond : 0x80 ≤ c.toNat) : isAlphanumeric c = false := by
  have large {d : Char} (ascii : d.toNat < 0x80) : ¬ c ≤ d := fun below =>
    absurd (UInt32.le_iff_toNat_le.1 below) (Nat.not_le_of_lt (Nat.lt_of_lt_of_le ascii beyond))
  simp only [isAlphanumeric, Bool.or_eq_false_iff, Bool.and_eq_false_iff, decide_eq_false_iff_not]
  exact ⟨⟨.inr (large (by decide)), .inr (large (by decide))⟩, .inr (large (by decide))⟩

theorem substitute_of_beyond {c : Char} (beyond : 0x80 ≤ c.toNat) : substitute c = '-' := by
  have others : c ≠ '-' ∧ c ≠ '.' := by
    constructor <;> rintro rfl <;> exact absurd beyond (by decide)
  simp [substitute, isAlphanumeric_of_beyond beyond, others]

theorem isSmall_of_isAlphanumeric {c : Char} (nameChar : isNameChar c = true)
    (alphanumeric : isAlphanumeric c = true) : isSmall c = true := by
  simp only [isNameChar, Bool.or_eq_true, beq_iff_eq] at nameChar
  rcases nameChar with (small | rfl) | rfl
  · exact small
  · cases alphanumeric
  · cases alphanumeric

theorem ascii_of_isNameChar {c : Char} (nameChar : isNameChar c = true) : c.toNat < 0x80 := by
  by_contra beyond
  have large := isAlphanumeric_of_beyond (Nat.le_of_not_lt beyond)
  simp only [isNameChar, isSmall, Bool.or_eq_true, beq_iff_eq] at nameChar
  rcases nameChar with (small | rfl) | rfl
  · rw [isAlphanumeric, Bool.or_eq_false_iff, Bool.or_eq_false_iff] at large
    rcases small with digit | letter
    · cases digit.symm.trans large.1.1
    · cases letter.symm.trans large.1.2
  · exact absurd (by decide) beyond
  · exact absurd (by decide) beyond

def standIn (c : Char) : List Char := (lowerChar c).map substitute

theorem standIn_ascii {c : Char} (ascii : c.toNat < 0x80) :
    (∀ d ∈ standIn c, isNameChar d = true) ∧ (standIn c).any isAlphanumeric = isAlphanumeric c ∧
      (isNameChar c = true → standIn c = [c]) := by
  rw [← List.all_eq_true]
  exact forall_ascii (P := fun c => (standIn c).all isNameChar = true ∧
    (standIn c).any isAlphanumeric = isAlphanumeric c ∧ (isNameChar c = true → standIn c = [c]))
    (by decide +kernel) ascii

theorem standIn_cases (c : Char) :
    (∀ d ∈ standIn c, isNameChar d = true) ∧ (standIn c).any isAlphanumeric = remains c := by
  rcases lowerChar_cases c with ⟨ascii, -⟩ | ⟨dotted, lowered⟩ | ⟨unit, lowered⟩ |
    ⟨⟨beyond, notDotted, notUnit⟩, d, lowered, beyondToo⟩
  · obtain ⟨chars, some, -⟩ := standIn_ascii ascii
    have notDotted : c.toNat ≠ dottedI := by unfold dottedI; omega
    have notUnit : c.toNat ≠ kelvin := by unfold kelvin; omega
    refine ⟨chars, ?_⟩
    rw [some, remains, beq_false_of_ne notDotted, beq_false_of_ne notUnit, Bool.or_false, Bool.or_false]
  · rw [standIn, lowered, remains, dotted]
    exact ⟨List.all_eq_true.1 (by decide), by simp; decide⟩
  · rw [standIn, lowered, remains, unit]
    exact ⟨List.all_eq_true.1 (by decide), by simp; decide⟩
  · rw [standIn, lowered, List.map_singleton, substitute_of_beyond beyondToo, remains,
      isAlphanumeric_of_beyond beyond, beq_false_of_ne notDotted, beq_false_of_ne notUnit]
    exact ⟨List.all_eq_true.1 (by decide), by decide⟩

/-! ## Texts -/

theorem sanitize_eq (cs : List Char) :
    sanitize cs = trimBy (fun c => !isAlphanumeric c) (cs.flatMap standIn) := by
  rw [sanitize, lower, List.map_flatMap]
  rfl

theorem isNameChar_of_mem_sanitize {cs : List Char} {d : Char} (member : d ∈ sanitize cs) :
    isNameChar d = true := by
  rw [sanitize_eq] at member
  obtain ⟨c, -, stands⟩ := List.mem_flatMap.1 (mem_of_mem_trimBy member)
  exact (standIn_cases c).1 d stands

theorem kept_sanitize (cs : List Char) : Kept (fun c => !isAlphanumeric c) (sanitize cs) :=
  kept_trimBy _ _

theorem sanitize_eq_nil_iff {cs : List Char} :
    sanitize cs = [] ↔ ∀ c ∈ cs, remains c = false := by
  rw [sanitize_eq, trimBy_eq_nil_iff, List.forall_mem_flatMap]
  refine forall₂_congr fun c _ => ?_
  rw [← (standIn_cases c).2, List.any_eq_false]
  simp

theorem valid_sanitize {cs : List Char} (nonempty : sanitize cs ≠ []) : Valid (sanitize cs) where
  nonempty := nonempty
  chars _ := isNameChar_of_mem_sanitize
  first c first :=
    isSmall_of_isAlphanumeric (isNameChar_of_mem_sanitize (List.mem_of_mem_head? first))
      (by simpa using (kept_sanitize cs).first c first)
  last c last :=
    isSmall_of_isAlphanumeric (isNameChar_of_mem_sanitize (List.mem_of_mem_getLast? last))
      (by simpa using (kept_sanitize cs).last c last)

theorem sanitize_valid_iff {cs : List Char} :
    Valid (sanitize cs) ↔ ∃ c ∈ cs, remains c = true := by
  constructor
  · intro valid
    by_contra none
    refine valid.nonempty (sanitize_eq_nil_iff.2 fun c member => ?_)
    rw [Bool.eq_false_iff]
    exact fun left => none ⟨c, member, left⟩
  · rintro ⟨c, member, left⟩
    refine valid_sanitize fun nothing => ?_
    cases left.symm.trans (sanitize_eq_nil_iff.1 nothing c member)

theorem sanitize_sanitize (cs : List Char) : sanitize (sanitize cs) = sanitize cs := by
  have same : (sanitize cs).flatMap standIn = sanitize cs := by
    have single : ∀ d ∈ sanitize cs, standIn d = [d] := fun d member =>
      have nameChar := isNameChar_of_mem_sanitize member
      (standIn_ascii (ascii_of_isNameChar nameChar)).2.2 nameChar
    rw [List.flatMap_congr single]
    exact List.flatMap_singleton' _
  rw [sanitize_eq (sanitize cs), same]
  exact (kept_sanitize cs).trimBy_self

/-- Lower case with small sigmas of either form, which depends on the neighbours. -/
def Lowered (cs low : List Char) : Prop :=
  List.Forall₂ (fun small written => written = small ∨ small = '\u03c3' ∧ written = '\u03c2')
    (lower cs) low

theorem Lowered.sanitize_eq {cs low : List Char} (lowered : Lowered cs low) :
    trimBy (fun c => !isAlphanumeric c) (low.map substitute) = sanitize cs := by
  have same : low.map substitute = (lower cs).map substitute := by
    unfold Lowered at lowered
    generalize lower cs = small at lowered
    induction lowered with
    | nil => rfl
    | cons either _ ih =>
        rw [List.map_cons, List.map_cons, ih]
        rcases either with rfl | ⟨rfl, rfl⟩ <;> rfl
  rw [same, sanitize]

end ResourceName

namespace Endpoint
open ResourceName

/-- An endpoint has a name exactly if neither its cluster nor its cable is empty. The name is valid exactly if
a letter or digit remains of one of them, and else it is empty. Making a name of it again changes nothing,
and no sigma matters. -/
theorem resourceName_valid_iff (endpoint : Endpoint) :
    (endpoint.resourceName = .error .emptyCluster ↔ endpoint.cluster = "") ∧
    (endpoint.resourceName = .error .emptyCable ↔ endpoint.cluster ≠ "" ∧ endpoint.cable = "") ∧
    (endpoint.cluster ≠ "" → endpoint.cable ≠ "" → ∃ name, endpoint.resourceName = .ok name ∧
      (Valid name.toList ↔ ∃ c ∈ (endpoint.cluster ++ endpoint.cable).toList, remains c = true) ∧
      (¬ Valid name.toList → name = "") ∧
      sanitize name.toList = name.toList ∧
      ∀ low, Lowered (endpoint.cluster ++ "-" ++ endpoint.cable).toList low →
        Text.trimBy (fun c => !isAlphanumeric c) (low.map substitute) = name.toList) := by
  unfold resourceName
  by_cases cluster : endpoint.cluster = ""
  · simp [cluster]
  by_cases cable : endpoint.cable = ""
  · simp [cluster, cable]
  refine ⟨by simp [cluster, cable], by simp [cluster, cable], fun _ _ => ?_⟩
  rw [if_neg cluster, if_neg cable]
  refine ⟨_, rfl, ?_⟩
  rw [String.toList_ofList]
  have anywhere : (∃ c ∈ (endpoint.cluster ++ "-" ++ endpoint.cable).toList, remains c = true) ↔
      ∃ c ∈ (endpoint.cluster ++ endpoint.cable).toList, remains c = true := by
    have hyphen : remains '-' = false := by decide
    simp [or_and_right, exists_or, hyphen]
  refine ⟨sanitize_valid_iff.trans anywhere, fun invalid => ?_, sanitize_sanitize _,
    fun low lowered => lowered.sanitize_eq⟩
  by_contra some
  refine invalid (valid_sanitize fun nothing => some ?_)
  rw [nothing]

namespace Foreign

def greek : Endpoint := { cluster := "\u212a_Ost", cable := "\u03a3." }

theorem resourceName_valid_iff_greek :
    greek.cluster ≠ "" ∧ greek.cable ≠ "" ∧ greek.resourceName = .ok "k-ost" ∧
      Valid "k-ost".toList ∧ sanitize "k-ost".toList = "k-ost".toList := by
  obtain ⟨-, -, named⟩ := resourceName_valid_iff greek
  have cluster : greek.cluster ≠ "" := by decide
  have cable : greek.cable ≠ "" := by decide
  obtain ⟨name, isNamed, valid, -, lasting, -⟩ := named cluster cable
  have written : greek.resourceName = .ok "k-ost" := by decide +kernel
  obtain rfl := Except.ok.inj (isNamed.symm.trans written)
  exact ⟨cluster, cable, written, valid.2 ⟨'O', by decide +kernel, by decide⟩, lasting⟩

def eastWest : Endpoint := { cluster := "\u6771", cable := "\u897f" }

/-- Nothing remains of its name, although it is not refused. -/
theorem name_empty :
    eastWest.cluster ≠ "" ∧ eastWest.cable ≠ "" ∧ eastWest.resourceName = .ok "" ∧
      ¬ Valid "".toList :=
  ⟨by decide, by decide, by decide +kernel, fun valid => valid.nonempty rfl⟩

end Foreign
end Endpoint
end NatReach
