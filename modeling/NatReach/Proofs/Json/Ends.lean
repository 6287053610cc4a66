import NatReach.Proofs.Json.RoundTrip
import NatReach.Proofs.Text.Utf8

/-!
# Where a text in JSON ends

The reader takes a text for complete only when nothing is open any more, and from there on it takes
nothing but blanks. A table closes itself with its last character, so no text of a table goes on
beyond its end and none ends before it, also if it is cut inside a character. A control that is no
blank stands nowhere in a text.
-/
namespace NatReach

namespace Json
open Utf8 (Symbol)

/-! ## Complete texts -/

def State.isClosed (state : State) : Bool :=
  match state.mode with
  | .done _ => true
  | .number .. => state.stack.isEmpty
  | _ => false

theorem isClosed_of_finish {state : State} {value : Document} (ends : finish state = some value) :
    state.isClosed = true := by
  unfold finish at ends
  split at ends
  · rename_i complete
    simp [State.isClosed, complete]
  · rename_i spelled empty
    simp [State.isClosed, spelled, empty]
  · cases ends

theorem not_next?_brace (phase : Phase) : phase.next? '}' = none := by
  cases phase <;> decide

theorem stepDone_eq_some {value : Document} {c : Char} {next : State}
    (taken : stepDone value c = some next) : isBlank c = true ∧ next = ⟨.done value, []⟩ := by
  unfold stepDone at taken
  split at taken
  · rename_i blank
    cases taken
    exact ⟨blank, rfl⟩
  · cases taken

theorem step_of_isClosed {state next : State} (closed : state.isClosed = true) {symbol : Symbol}
    (taken : step state symbol = some next) : next.isClosed = true ∧ symbol ≠ some '}' := by
  obtain ⟨mode, stack⟩ := state
  cases symbol with
  | none => cases mode <;> simp [State.isClosed] at closed <;> cases taken
  | some c =>
      cases mode with
      | done value =>
          obtain ⟨blank, rfl⟩ := stepDone_eq_some taken
          refine ⟨rfl, ?_⟩
          rintro ⟨⟩
          cases blank
      | number phase spelled =>
          have empty : stack = [] := by simpa [State.isClosed] using closed
          subst empty
          simp only [step, stepChar] at taken
          cases goesOn : phase.next? c with
          | some phase' =>
              rw [goesOn] at taken
              cases taken
              refine ⟨rfl, ?_⟩
              rintro ⟨⟩
              rw [not_next?_brace] at goesOn
              cases goesOn
          | none =>
              rw [goesOn] at taken
              obtain ⟨value, -, done⟩ := Option.bind_eq_some_iff.1 taken
              have done : stepDone value c = some next := done
              obtain ⟨blank, rfl⟩ := stepDone_eq_some done
              refine ⟨rfl, ?_⟩
              rintro ⟨⟩
              cases blank
      | _ => cases closed

theorem run_of_isClosed {state last : State} (closed : state.isClosed = true)
    {symbols : List Symbol} (reached : run state symbols = some last) :
    some '}' ∉ symbols := by
  induction symbols generalizing state with
  | nil => simp
  | cons symbol rest ih =>
      rw [run_cons, Option.bind_eq_some_iff] at reached
      obtain ⟨next, taken, later⟩ := reached
      obtain ⟨stays, other⟩ := step_of_isClosed closed taken
      rw [List.mem_cons, not_or]
      exact ⟨Ne.symm other, ih stays later⟩

theorem isClosed_of_stray {state next : State} (taken : step state none = some next) :
    next.isClosed = false := by
  unfold step at taken
  dsimp only at taken
  split at taken
  · cases taken
    rfl
  · cases taken

theorem isClosed_of_strays {state last : State} {strays : Nat}
    (reached : run state (List.replicate (strays + 1) none) = some last) :
    last.isClosed = false := by
  rw [List.replicate_succ', run_append, Option.bind_eq_some_iff] at reached
  obtain ⟨middle, -, taken⟩ := reached
  rw [run_cons, Option.bind_eq_some_iff] at taken
  obtain ⟨next, stray, same⟩ := taken
  cases same
  exact isClosed_of_stray stray

/-! ## Tables -/

section Table
variable {members : List (Option String × Document)}

theorem run_whole (integral : (Document.table members).isIntegral = true) :
    run start ((render (.table members)).map some) = some ⟨.done (.table members), []⟩ := by
  obtain ⟨state, reached, settled⟩ := run_of_spells (spells_render _ integral).bare
  rw [reached, ← settled.eq_of_table]
  rfl

/-- No part of the text of a table is a text: the brace at its end closes nothing but the table. -/
theorem ofOctets?_prefix (integral : (Document.table members).isIntegral = true)
    {front back : List UInt8} (parts : Utf8.encode (render (.table members)) = front ++ back)
    (nonempty : back ≠ []) : ofOctets? front = none := by
  obtain ⟨first, others, strays, chars, some, symbols⟩ := Utf8.symbols_prefix parts nonempty
  rw [ofOctets?, read, symbols, Option.bind_eq_none_iff]
  intro last reached
  refine Option.eq_none_iff_forall_ne_some.2 fun value ends => ?_
  have closed := isClosed_of_finish ends
  cases strays with
  | zero =>
      rw [List.replicate_zero, List.append_nil] at reached
      have whole := run_whole integral
      rw [chars, List.map_append, run_append, reached, Option.bind_some] at whole
      have last : others.getLast? = .some '}' := by
        have brace := congrArg List.getLast? chars
        rw [render, List.getLast?_append, List.getLast?_append] at brace
        cases final : others.getLast? with
        | none => exact absurd (List.getLast?_eq_none_iff.1 final) some
        | some c => simpa [final, eq_comm] using brace
      exact run_of_isClosed closed whole (List.mem_map_of_mem (List.mem_of_getLast? last))
  | succ strays =>
      rw [run_append, Option.bind_eq_some_iff] at reached
      obtain ⟨middle, -, reached⟩ := reached
      rw [isClosed_of_strays reached] at closed
      cases closed

end Table

/-! ## Blanks behind a text -/

def blanks : List UInt8 := [0x20, 0x09, 0x0A, 0x0D]

theorem octet_of_blank : ∀ octet ∈ blanks,
    Utf8.encodeChar (Char.ofNat octet.toNat) = [octet] ∧ isBlank (Char.ofNat octet.toNat) = true := by
  simp only [blanks, List.mem_cons, List.not_mem_nil, or_false]
  rintro octet (rfl | rfl | rfl | rfl) <;> exact ⟨rfl, rfl⟩

theorem toNat_lt_of_blank : ∀ octet ∈ blanks, octet.toNat < 0x80 := by
  simp [blanks]

theorem isBlank_iff {c : Char} : isBlank c = true ↔ ∃ octet ∈ blanks, c = Char.ofNat octet.toNat := by
  have chars : ∀ octet : UInt8, octet ∈ blanks ↔
      octet = 0x20 ∨ octet = 0x09 ∨ octet = 0x0A ∨ octet = 0x0D := by simp [blanks]
  simp only [chars, isBlank, Bool.or_eq_true, beq_iff_eq, or_and_right, exists_or, exists_eq_left]
  constructor
  · rintro (((rfl | rfl) | rfl) | rfl) <;> simp +decide
  · rintro (rfl | rfl | rfl | rfl) <;> decide

theorem run_done_of_blanks {octets : List UInt8} (allBlank : ∀ octet ∈ octets, octet ∈ blanks)
    (value : Document) :
    run ⟨.done value, []⟩ (Utf8.symbols octets) = some ⟨.done value, []⟩ := by
  induction octets with
  | nil => rfl
  | cons octet rest ih =>
      obtain ⟨encoded, blank⟩ := octet_of_blank octet (allBlank octet List.mem_cons_self)
      have first := Utf8.symbols_encodeChar_append (Char.ofNat octet.toNat) rest
      have taken : step ⟨.done value, []⟩ (some (Char.ofNat octet.toNat)) = some ⟨.done value, []⟩ :=
        if_pos blank
      rw [encoded, List.singleton_append] at first
      rw [first, run_cons, taken, Option.bind_some]
      exact ih fun other member => allBlank other (List.mem_cons_of_mem _ member)

theorem run_eq_none_of_mem (good : State → Prop) {symbols : List Symbol} {symbol : Symbol}
    (member : symbol ∈ symbols)
    (stays : ∀ state next other, good state → step state other = some next → good next)
    (refused : ∀ state, good state → step state symbol = none) {state : State}
    (starts : good state) : run state symbols = none := by
  induction symbols generalizing state with
  | nil => cases member
  | cons first rest ih =>
      rw [run_cons]
      rcases List.mem_cons.1 member with rfl | later
      · rw [refused state starts]
        rfl
      · rw [Option.bind_eq_none_iff]
        exact fun next taken => ih later (stays state next first starts taken)

theorem isBlank_ofNat {octet : UInt8} (ascii : octet.toNat < 0x80) :
    isBlank (Char.ofNat octet.toNat) = true ↔ octet ∈ blanks := by
  constructor
  · intro blank
    obtain ⟨other, isOne, same⟩ := isBlank_iff.1 blank
    have small := toNat_lt_of_blank other isOne
    have value := congrArg Char.toNat same
    rw [Utf8.toNat_ofNat (.inl (by omega)),
      Utf8.toNat_ofNat (.inl (Nat.lt_trans small (by decide)))] at value
    exact UInt8.toNat_inj.1 value ▸ isOne
  · exact fun isOne => (octet_of_blank octet isOne).2

theorem exists_symbol_not_blank {octets : List UInt8} {octet : UInt8} (member : octet ∈ octets)
    (other : octet ∉ blanks) :
    ∃ symbol ∈ Utf8.symbols octets, ∀ c, symbol = some c → isBlank c = false := by
  obtain ⟨symbol, inside, stands⟩ := Utf8.exists_symbol member
  refine ⟨symbol, inside, ?_⟩
  rintro c rfl
  rw [Bool.eq_false_iff]
  intro blank
  unfold Utf8.StandsFor at stands
  split at stands
  · rename_i ascii
    rw [Option.some.inj stands] at blank
    exact other ((isBlank_ofNat ascii).1 blank)
  · obtain ⟨spelled, isOne, rfl⟩ := isBlank_iff.1 blank
    have small := toNat_lt_of_blank spelled isOne
    have large := stands _ rfl
    rw [Utf8.toNat_ofNat (.inl (Nat.lt_trans small (by decide)))] at large
    exact absurd small (Nat.not_lt.2 large)

theorem ofOctets?_append {members : List (Option String × Document)}
    (integral : (Document.table members).isIntegral = true) (more : List UInt8) :
    ofOctets? (Utf8.encode (render (.table members)) ++ more) =
      if more.all blanks.contains then some (.table members) else none := by
  rw [ofOctets?, read, Utf8.symbols_encode, run_append, run_whole integral, Option.bind_some]
  split
  · rename_i allBlank
    rw [run_done_of_blanks (by simpa using allBlank)]
    rfl
  · rename_i notBlank
    obtain ⟨octet, member, other⟩ : ∃ octet ∈ more, octet ∉ blanks := by simpa using notBlank
    obtain ⟨symbol, inside, visible⟩ := exists_symbol_not_blank member other
    have refused : run ⟨.done (.table members), []⟩ (Utf8.symbols more) = none := by
      refine run_eq_none_of_mem (· = ⟨.done (.table members), []⟩) inside ?_ ?_ rfl
      · rintro _ next other rfl taken
        cases other with
        | none => cases taken
        | some c => exact (stepDone_eq_some taken).2
      · rintro _ rfl
        cases symbol with
        | none => rfl
        | some c => exact if_neg (by simp [visible c rfl])
    rw [refused]
    rfl

/-! ## Controls -/

def State.isVisible (state : State) : Prop :=
  ∀ rest value, state.mode = .word rest value → ∀ c ∈ rest, 0x20 ≤ c.toNat

theorem isVisible_complete {value : Document} {stack : List Frame} {next : State}
    (completes : complete value stack = some next) : next.isVisible := by
  intro rest word spelled
  match stack, completes with
  | [], completes => cases completes; cases spelled
  | .items _ :: _, completes => cases completes; cases spelled
  | .member .. :: _, completes => cases completes; cases spelled

theorem isVisible_openValue {c : Char} {stack : List Frame} {next : State}
    (opened : openValue c stack = some next) : next.isVisible := by
  intro rest word spelled
  unfold openValue at opened
  split at opened
  case h_9 =>
    split at opened
    · cases opened
      cases spelled
    · cases opened
  all_goals
    cases opened
    cases spelled
  all_goals simp

theorem isVisible_stepAfter {c : Char} {stack : List Frame} {next : State}
    (taken : stepAfter c stack = some next) : next.isVisible := by
  unfold stepAfter at taken
  split at taken
  · cases taken; nofun
  · exact isVisible_complete taken
  · cases taken; nofun
  · exact isVisible_complete taken
  · split at taken
    · cases taken; nofun
    · cases taken

theorem isVisible_stepBehind {state next : State} {c : Char}
    (taken : stepBehind state c = some next) : next.isVisible := by
  unfold stepBehind at taken
  split at taken
  · exact isVisible_stepAfter taken
  · rw [(stepDone_eq_some taken).2]
    nofun
  · cases taken

theorem isVisible_closeString {isName : Bool} {pieces : List Piece} {stack : List Frame}
    {next : State} (closed : closeString isName pieces stack = some next) : next.isVisible := by
  unfold closeString at closed
  dsimp only at closed
  split at closed
  · exact isVisible_complete closed
  · cases closed; nofun
  · cases closed

theorem isVisible_step {state next : State} {symbol : Symbol} (visible : state.isVisible)
    (taken : step state symbol = some next) : next.isVisible := by
  unfold step at taken
  split at taken
  · rename_i c
    unfold stepChar at taken
    dsimp only at taken
    split at taken
    case h_1 =>
      split at taken
      · cases taken
        exact visible
      · exact isVisible_openValue taken
    case h_2 =>
      split at taken
      · exact isVisible_complete taken
      · split at taken
        · cases taken
          exact visible
        · exact isVisible_openValue taken
    case h_3 =>
      split at taken
      · exact isVisible_complete taken
      · cases taken; nofun
      · split at taken
        · cases taken
          exact visible
        · cases taken
    case h_4 =>
      split at taken
      · cases taken; nofun
      · split at taken
        · cases taken
          exact visible
        · cases taken
    case h_5 =>
      split at taken
      · cases taken; nofun
      · split at taken
        · cases taken
          exact visible
        · cases taken
    case h_6 => exact isVisible_stepAfter taken
    case h_7 =>
      split at taken
      · exact isVisible_closeString taken
      · split at taken
        · cases taken; nofun
        · split at taken
          · cases taken
          · cases taken; nofun
    case h_8 =>
      split at taken
      · cases taken; nofun
      · obtain ⟨char, -, rfl⟩ := Option.map_eq_some_iff.1 taken
        nofun
    case h_9 =>
      obtain ⟨digit, -, rfl⟩ := Option.map_eq_some_iff.1 taken
      split <;> nofun
    case h_10 =>
      split at taken
      · cases taken; nofun
      · obtain ⟨value, -, taken⟩ := Option.bind_eq_some_iff.1 taken
        obtain ⟨middle, -, behind⟩ := Option.bind_eq_some_iff.1 taken
        exact isVisible_stepBehind behind
    -- Only a word holds characters to come, and those that are left of it were visible before.
    case h_11 rest value spelled =>
      split at taken
      · cases taken
      · split at taken
        · exact isVisible_complete taken
        · cases taken
      · rename_i head rest notLast
        split at taken
        · cases taken
          rintro _ _ ⟨⟩ d member
          exact visible _ _ spelled d (List.mem_cons_of_mem _ member)
        · cases taken
    case h_12 =>
      rw [(stepDone_eq_some taken).2]
      nofun
  · split at taken
    · cases taken; nofun
    · cases taken

section Control
variable {c : Char}

theorem ne_of_control (control : c.toNat < 0x20) {d : Char} (visible : 0x20 ≤ d.toNat) : c ≠ d := by
  rintro rfl
  omega

theorem not_le_of_control (control : c.toNat < 0x20) {d : Char} (visible : 0x20 ≤ d.toNat) :
    ¬ d ≤ c := by
  intro larger
  have : d.toNat ≤ c.toNat := larger
  omega

theorem not_isDecimal (control : c.toNat < 0x20) : Numeral.isDecimal c = false := by
  simp [Numeral.isDecimal, Numeral.decimalDigit?, not_le_of_control control (d := '0') (by decide)]

theorem hexDigit?_control (control : c.toNat < 0x20) : Numeral.hexDigit? c = none := by
  have smaller {d : Char} (visible : 0x20 ≤ d.toNat) : ¬ d ≤ c := not_le_of_control control visible
  simp [Numeral.hexDigit?, smaller (d := '0') (by decide), smaller (d := 'a') (by decide),
    smaller (d := 'A') (by decide)]

theorem openValue_control (control : c.toNat < 0x20) (stack : List Frame) :
    openValue c stack = none := by
  unfold openValue
  split
  case h_9 => rw [not_isDecimal control]; rfl
  all_goals exact absurd control (by decide)

theorem next?_control (control : c.toNat < 0x20) (phase : Phase) : phase.next? c = none := by
  have other (d : Char) (visible : 0x20 ≤ d.toNat) : c ≠ d := ne_of_control control visible
  cases phase <;> simp [Phase.next?, Phase.isMark, not_isDecimal control, other]

theorem stepAfter_control (control : c.toNat < 0x20) (notBlank : isBlank c = false)
    (stack : List Frame) : stepAfter c stack = none := by
  unfold stepAfter
  split
  case h_5 => rw [notBlank]; rfl
  all_goals exact absurd control (by decide)

theorem stepBehind_control (control : c.toNat < 0x20) (notBlank : isBlank c = false)
    (state : State) : stepBehind state c = none := by
  unfold stepBehind
  split
  · exact stepAfter_control control notBlank _
  · exact if_neg (by simp [notBlank])
  · rfl

theorem step_control (control : c.toNat < 0x20) (notBlank : isBlank c = false) {state : State}
    (visible : state.isVisible) : step state (some c) = none := by
  have other {d : Char} (visible : 0x20 ≤ d.toNat) : c ≠ d := ne_of_control control visible
  obtain ⟨mode, stack⟩ := state
  simp only [step, stepChar]
  cases mode with
  | value => simp [notBlank, openValue_control control]
  | firstItem =>
      dsimp only
      split
      · exact absurd control (by decide)
      · simp [notBlank, openValue_control control]
  | firstName =>
      dsimp only
      split
      · exact absurd control (by decide)
      · exact absurd control (by decide)
      · simp [notBlank]
  | name => simp [notBlank, other (d := '"') (by decide)]
  | colon => simp [notBlank, other (d := ':') (by decide)]
  | after => exact stepAfter_control control notBlank stack
  | string isName pieces =>
      simp [control, other (d := '"') (by decide), other (d := '\\') (by decide)]
  | escape isName pieces =>
      dsimp only
      rw [if_neg (other (by decide)), Option.map_eq_none_iff]
      unfold escaped?
      split
      case h_9 => rfl
      all_goals exact absurd control (by decide)
  | unit isName pieces seen code =>
      dsimp only
      rw [hexDigit?_control control]
      rfl
  | number phase spelled =>
      dsimp only
      rw [next?_control control]
      refine Option.bind_eq_none_iff.2 fun value _ => Option.bind_eq_none_iff.2 fun state _ => ?_
      exact stepBehind_control control notBlank state
  | word rest value =>
      -- The characters that are to come are visible, so the control is none of them.
      have different (d : Char) (member : d ∈ rest) : c ≠ d :=
        other (visible rest value rfl d member)
      dsimp only
      split
      · rfl
      · rw [if_neg (different _ List.mem_cons_self)]
      · rw [if_neg (different _ List.mem_cons_self)]
  | done value => exact if_neg (by simp [notBlank])

end Control

theorem ofOctets?_of_control {octets : List UInt8} {octet : UInt8} (member : octet ∈ octets)
    (control : octet.toNat < 0x20) (notBlank : octet ∉ blanks) : ofOctets? octets = none := by
  obtain ⟨symbol, inside, stands⟩ := Utf8.exists_symbol member
  rw [Utf8.StandsFor, if_pos (by omega)] at stands
  have value : (Char.ofNat octet.toNat).toNat = octet.toNat := Utf8.toNat_ofNat (.inl (by omega))
  have visible : isBlank (Char.ofNat octet.toNat) = false := by
    rw [Bool.eq_false_iff, ne_eq, isBlank_ofNat (by omega)]
    exact notBlank
  have starts : start.isVisible := fun rest value spelled => by cases spelled
  rw [ofOctets?, read,
    run_eq_none_of_mem State.isVisible inside (fun _ _ _ => isVisible_step) ?_ starts]
  · rfl
  · intro state good
    rw [stands]
    exact step_control (by omega) visible good

end Json
end NatReach
