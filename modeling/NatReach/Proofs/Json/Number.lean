import NatReach.Proofs.Json.Strings

namespace NatReach

namespace Json

inductive Settled (value : Document) (stack : List Frame) : State → Prop
  | ended {state} (completes : complete value stack = some state) : Settled value stack state
  | number {phase spelled} (denotes : phase.value? spelled.reverse = some value) :
      Settled value stack ⟨.number phase spelled, stack⟩

def endsValue (c : Char) : Bool := c == ',' || c == ']' || c == '}' || isBlank c

theorem next?_of_endsValue {c : Char} (ends : endsValue c = true) (phase : Phase) :
    phase.next? c = none := by
  simp only [endsValue, isBlank, Bool.or_eq_true, beq_iff_eq] at ends
  rcases ends with ((rfl | rfl) | rfl) | ((rfl | rfl) | rfl) | rfl <;> cases phase <;> decide

namespace Settled
variable {value : Document} {stack : List Frame} {state : State}

theorem step {c : Char} (settled : Settled value stack state) (ends : endsValue c = true) :
    step state (some c) = (complete value stack).bind fun state => stepBehind state c := by
  cases settled with
  | ended completes =>
      rw [completes]
      cases stack with
      | nil =>
          cases completes
          rfl
      | cons frame stack => cases frame <;> cases completes <;> rfl
  | @number phase spelled denotes =>
      simp only [Json.step, stepChar, next?_of_endsValue ends phase, denotes]
      rfl

theorem finish (settled : Settled value [] state) : finish state = some value := by
  cases settled with
  | ended completes =>
      cases completes
      rfl
  | number denotes => exact denotes

theorem eq_of_table {members : List (Option String × Document)}
    (settled : Settled (.table members) stack state) :
    complete (.table members) stack = some state := by
  cases settled with
  | ended completes => exact completes
  | number denotes =>
      unfold Phase.value? at denotes
      split at denotes
      case h_3 | h_4 =>
        obtain ⟨_, -, same⟩ := Option.map_eq_some_iff.1 denotes
        cases same
      all_goals cases denotes

theorem blank {c : Char} (settled : Settled value stack state)
    (room : (complete value stack).isSome) (blank : isBlank c = true) :
    ∃ next, Json.step state (some c) = some next ∧ Settled value stack next := by
  obtain ⟨next, completes⟩ := Option.isSome_iff_exists.1 room
  refine ⟨next, ?_, .ended completes⟩
  rw [settled.step (by simp [endsValue, blank]), completes, Option.bind_some]
  simp only [isBlank, Bool.or_eq_true, beq_iff_eq] at blank
  unfold complete at completes
  split at completes
  all_goals
    cases completes
    try rcases blank with ((rfl | rfl) | rfl) | rfl <;> rfl

theorem gap {gap : List Char} (settled : Settled value stack state)
    (room : (complete value stack).isSome) (blank : Gap gap) :
    ∃ next, run state (gap.map some) = some next ∧ Settled value stack next := by
  induction gap generalizing state with
  | nil => exact ⟨state, rfl, settled⟩
  | cons c rest ih =>
      obtain ⟨middle, first, settled⟩ := settled.blank room (blank c List.mem_cons_self)
      obtain ⟨next, others, settled⟩ := ih settled fun c member => blank c (List.mem_cons_of_mem _ member)
      refine ⟨next, ?_, settled⟩
      rw [List.map_cons, run_cons, first, Option.bind_some, others]

end Settled

/-! ## Phases -/

theorem run_phases {phase last : Phase} {text : List Char}
    (path : text.foldlM Phase.next? phase = some last) (spelled : List Char) (stack : List Frame) :
    run ⟨.number phase spelled, stack⟩ (text.map some) =
      some ⟨.number last (text.reverse ++ spelled), stack⟩ := by
  induction text generalizing phase spelled with
  | nil =>
      cases path
      rfl
  | cons c rest ih =>
      obtain ⟨middle, next, path⟩ := Option.bind_eq_some_iff.1 path
      have one : step ⟨.number phase spelled, stack⟩ (some c) =
          some ⟨.number middle (c :: spelled), stack⟩ := by
        simp only [step, stepChar, next]
      rw [List.map_cons, run_cons, one, Option.bind_some, ih path, List.reverse_cons,
        List.append_assoc, List.singleton_append]

namespace Phase

theorem path_append {phase middle last : Phase} {front back : List Char}
    (first : front.foldlM next? phase = some middle) (second : back.foldlM next? middle = some last) :
    (front ++ back).foldlM next? phase = some last := by
  rw [List.foldlM_append, first]
  exact second

section
variable {phase loop : Phase}
  (stays : ∀ c, Numeral.isDecimal c = true → loop.next? c = some loop)
include stays

theorem path_loop {digits : List Char} (decimal : ∀ c ∈ digits, Numeral.isDecimal c = true) :
    digits.foldlM next? loop = some loop := by
  induction digits with
  | nil => rfl
  | cons c rest ih =>
      rw [List.foldlM_cons, stays c (decimal c List.mem_cons_self)]
      exact ih fun c member => decimal c (List.mem_cons_of_mem _ member)

theorem path_digits (enters : ∀ c, Numeral.isDecimal c = true → phase.next? c = some loop)
    {digits : List Char} (decimal : Digits digits) : digits.foldlM next? phase = some loop := by
  obtain ⟨nonempty, decimal⟩ := decimal
  cases digits with
  | nil => contradiction
  | cons c rest =>
      rw [List.foldlM_cons, enters c (decimal c List.mem_cons_self)]
      exact path_loop stays fun c member => decimal c (List.mem_cons_of_mem _ member)

end

def behind (digits : List Char) : Phase := if digits = ['0'] then zero else whole

theorem path_whole {digits : List Char} (isWhole : Whole digits) :
    digits.foldlM next? minus = some (behind digits) := by
  obtain ⟨⟨nonempty, decimal⟩, lone⟩ := isWhole
  cases digits with
  | nil => contradiction
  | cons c rest =>
      have first := decimal c List.mem_cons_self
      by_cases zero : c = '0'
      · have alone := lone (by rw [zero, List.head?_cons])
        rw [alone]
        rfl
      · have enters : minus.next? c = some whole := by simp [next?, zero, first]
        have stays (c) (decimal : Numeral.isDecimal c = true) : whole.next? c = some whole := by
          simp [next?, decimal]
        have other : behind (c :: rest) = whole := if_neg fun same => zero (List.cons.inj same).1
        rw [List.foldlM_cons, enters, other]
        exact path_loop stays fun c member => decimal c (List.mem_cons_of_mem _ member)

theorem path_fraction {phase : Phase} (before : phase = zero ∨ phase = whole) {text : List Char}
    (fractional : Fraction text) :
    text.foldlM next? phase = some (if text = [] then phase else fraction) := by
  cases fractional with
  | none => rfl
  | some decimal =>
      have goesOn (phase) (before : phase = point ∨ phase = fraction) (c)
          (decimal : Numeral.isDecimal c = true) : phase.next? c = some fraction := by
        rcases before with rfl | rfl <;> simp [next?, decimal]
      have digits := path_digits (goesOn fraction (.inr rfl)) (goesOn point (.inl rfl)) decimal
      have opened : phase.next? '.' = some point := by
        rcases before with rfl | rfl <;> rfl
      rw [List.foldlM_cons, opened]
      exact digits

theorem path_exponent {phase : Phase} (before : phase = zero ∨ phase = whole ∨ phase = fraction)
    {text : List Char} (exponential : Exponent text) :
    text.foldlM next? phase = some (if text = [] then phase else exponent) := by
  cases exponential with
  | none => rfl
  | @some mark sign digits marked signed decimal =>
      have goesOn (phase) (before : phase = Phase.sign ∨ phase = exponent) (c)
          (decimal : Numeral.isDecimal c = true) : phase.next? c = some exponent := by
        rcases before with rfl | rfl <;> simp [next?, decimal]
      have loops := goesOn exponent (.inr rfl)
      have opened : phase.next? mark = some Phase.mark := by
        simp only [isMark, Bool.or_eq_true, beq_iff_eq] at marked
        rcases before with rfl | rfl | rfl <;> rcases marked with rfl | rfl <;> rfl
      have bare : digits.foldlM next? Phase.mark = some exponent := by
        refine path_digits loops (fun c decimal => ?_) decimal
        have notSign : c ≠ '+' ∧ c ≠ '-' := by
          constructor <;> (rintro rfl; cases decimal)
        simp [next?, decimal, notSign]
      have signed : (sign ++ digits).foldlM next? Phase.mark = some exponent := by
        have behindSign := path_digits loops (goesOn Phase.sign (.inl rfl)) decimal
        rcases signed with rfl | rfl | rfl
        · exact bare
        · exact behindSign
        · exact behindSign
      rw [List.foldlM_cons, opened]
      exact signed

theorem value?_natural {digits : List Char} (isWhole : Whole digits) {n : Nat}
    (denotes : Numeral.readDecimal? digits = some n) : (behind digits).value? digits = some (.int n) := by
  unfold behind
  split
  · rename_i zero
    subst zero
    cases denotes
    rfl
  · obtain ⟨⟨nonempty, decimal⟩, -⟩ := isWhole
    unfold value?
    split
    · contradiction
    · contradiction
    · cases decimal '-' List.mem_cons_self
    · rw [denotes]
      rfl
    · contradiction
    · contradiction
    · contradiction

theorem value?_negative {digits : List Char} (notZero : digits ≠ ['0']) {n : Nat}
    (denotes : Numeral.readDecimal? digits = some n) :
    (behind digits).value? ('-' :: digits) = some (.int (-n)) := by
  rw [behind, if_neg notZero, value?, denotes]
  rfl

theorem behind_cases (digits : List Char) : behind digits = zero ∨ behind digits = whole := by
  unfold behind
  split
  · exact .inl rfl
  · exact .inr rfl

theorem path_real {sign digits part power : List Char} (isFraction : Fraction part)
    (isExponent : Exponent power)
    (notInt : part ++ power ≠ [] ∨ (sign = ['-'] ∧ digits = ['0'])) :
    ∃ last, (part ++ power).foldlM next? (behind digits) = some last ∧
      last.value? (sign ++ digits ++ part ++ power) =
        some (.real (String.ofList (sign ++ digits ++ part ++ power))) := by
  have before := behind_cases digits
  have first := path_fraction before isFraction
  by_cases noPower : power = []
  · subst noPower
    by_cases noPart : part = []
    · subst noPart
      obtain ⟨rfl, rfl⟩ := notInt.resolve_left fun some => some rfl
      exact ⟨zero, rfl, rfl⟩
    · rw [if_neg noPart] at first
      rw [List.append_nil]
      exact ⟨fraction, first, rfl⟩
  · have middle : ∀ phase, phase = (if part = [] then behind digits else fraction) →
        phase = zero ∨ phase = whole ∨ phase = fraction := by
      rintro _ rfl
      split
      · exact before.imp_right .inl
      · exact .inr (.inr rfl)
    have second := path_exponent (middle _ rfl) isExponent
    rw [if_neg noPower] at second
    exact ⟨exponent, path_append first second, rfl⟩

end Phase

/-! ## Reading -/

theorem not_blank_of_isDecimal {c : Char} (decimal : Numeral.isDecimal c = true) :
    isBlank c = false := by
  cases blank : isBlank c with
  | false => rfl
  | true =>
      simp only [isBlank, Bool.or_eq_true, beq_iff_eq] at blank
      rcases blank with ((rfl | rfl) | rfl) | rfl <;> cases decimal

theorem openValue_of_isDecimal {c : Char} (decimal : Numeral.isDecimal c = true)
    (stack : List Frame) :
    openValue c stack = (Phase.minus.next? c).map fun phase => ⟨.number phase [c], stack⟩ := by
  unfold openValue
  split
  case h_5 => rfl
  case h_9 =>
    have notZero : c ≠ '0' := by assumption
    simp [Phase.next?, notZero, decimal]
  all_goals cases decimal

theorem run_signed {sign digits : List Char} (signed : sign = [] ∨ sign = ['-'])
    (whole : Whole digits) (stack : List Frame) :
    run ⟨.value, stack⟩ ((sign ++ digits).map some) =
      some ⟨.number (.behind digits) (sign ++ digits).reverse, stack⟩ := by
  have path := Phase.path_whole whole
  rcases signed with rfl | rfl
  · obtain ⟨⟨nonempty, decimal⟩, -⟩ := whole
    cases digits with
    | nil => contradiction
    | cons c rest =>
        obtain ⟨phase, next, path⟩ := Option.bind_eq_some_iff.1 path
        have first := decimal c List.mem_cons_self
        have opened : step ⟨.value, stack⟩ (some c) = some ⟨.number phase [c], stack⟩ := by
          simp [step, stepChar, not_blank_of_isDecimal first, openValue_of_isDecimal first, next]
        rw [List.nil_append, List.map_cons, run_cons, opened, Option.bind_some, run_phases path,
          List.reverse_cons]
  · have opened : step ⟨.value, stack⟩ (some '-') = some ⟨.number .minus ['-'], stack⟩ := rfl
    rw [List.singleton_append, List.map_cons, run_cons, opened, Option.bind_some, run_phases path,
      List.reverse_cons]

theorem Whole.head {digits : List Char} (whole : Whole digits) :
    ∃ c rest, digits = c :: rest ∧ isBlank c = false ∧ c ≠ ']' := by
  obtain ⟨⟨nonempty, decimal⟩, -⟩ := whole
  cases digits with
  | nil => contradiction
  | cons c rest =>
      have first := decimal c List.mem_cons_self
      refine ⟨c, rest, rfl, not_blank_of_isDecimal first, ?_⟩
      rintro rfl
      cases first

theorem SpellsNumber.head {document : Document} {text : List Char}
    (number : SpellsNumber document text) :
    ∃ c rest, text = c :: rest ∧ isBlank c = false ∧ c ≠ ']' := by
  cases number with
  | natural whole => exact whole.head
  | negative => exact ⟨'-', _, rfl, by decide⟩
  | real signed whole =>
      rcases signed with rfl | rfl
      · obtain ⟨c, rest, rfl, visible⟩ := whole.head
        exact ⟨c, _, rfl, visible⟩
      · exact ⟨'-', _, rfl, by decide⟩

theorem run_number {document : Document} {text : List Char} (number : SpellsNumber document text)
    (stack : List Frame) :
    ∃ state, run ⟨.value, stack⟩ (text.map some) = some state ∧ Settled document stack state := by
  cases number with
  | natural whole denotes =>
      refine ⟨_, run_signed (.inl rfl) whole stack, .number ?_⟩
      rw [List.reverse_reverse]
      exact Phase.value?_natural whole denotes
  | negative whole notZero denotes =>
      refine ⟨_, run_signed (.inr rfl) whole stack, .number ?_⟩
      rw [List.reverse_reverse]
      exact Phase.value?_negative notZero denotes
  | @real sign digits part power signed whole fraction exponent notInt =>
      obtain ⟨last, path, denotes⟩ := Phase.path_real fraction exponent notInt
      refine ⟨⟨.number last ((part ++ power).reverse ++ (sign ++ digits).reverse), stack⟩, ?_,
        .number ?_⟩
      · rw [List.append_assoc (sign ++ digits), List.map_append, run_append,
          run_signed signed whole, Option.bind_some, run_phases path]
      · rw [← List.reverse_append, List.reverse_reverse, ← List.append_assoc]
        exact denotes

end Json
end NatReach
