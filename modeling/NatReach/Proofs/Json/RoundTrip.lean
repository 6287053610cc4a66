import NatReach.Proofs.Json.Number

namespace NatReach

namespace Json

def Part.IsRead : Part → List Char → Prop
  | value document, text =>
    (∃ c rest, text = c :: rest ∧ isBlank c = false ∧ c ≠ ']') ∧
      ∀ stack, (complete document stack).isSome → ∃ state,
        run ⟨.value, stack⟩ (text.map some) = some state ∧ Settled document stack state
  | element document, text =>
    ∀ mode, (mode = .value ∨ mode = .firstItem) → ∀ stack, (complete document stack).isSome →
      ∃ state, run ⟨mode, stack⟩ (text.map some) = some state ∧ Settled document stack state
  | elements documents, text =>
    ∀ mode, (mode = .value ∨ mode = .firstItem) → ∀ read stack,
      run ⟨mode, .items read :: stack⟩ ((text ++ [']']).map some) =
        complete (.list (read.reverse ++ documents)) stack
  | member (name, document), text =>
    ∀ mode, (mode = .firstName ∨ mode = .name) → ∀ read stack,
      ∃ state, run ⟨mode, .members read :: stack⟩ (text.map some) = some state ∧
        Settled document (.member read name :: stack) state
  | members entries, text =>
    ∀ mode, (mode = .firstName ∨ mode = .name) → ∀ read stack,
      run ⟨mode, .members read :: stack⟩ ((text ++ ['}']).map some) =
        complete (.table (read.reverse ++ entries)) stack

/-! ## Blanks -/

theorem run_gap {state : State} {gap : List Char} (blank : Gap gap)
    (stays : ∀ c, isBlank c = true → step state (some c) = some state) :
    run state (gap.map some) = some state := by
  induction gap with
  | nil => rfl
  | cons c rest ih =>
      rw [List.map_cons, run_cons, stays c (blank c List.mem_cons_self), Option.bind_some]
      exact ih fun c member => blank c (List.mem_cons_of_mem _ member)

theorem ne_of_blank {c : Char} (blank : isBlank c = true) {d : Char} (visible : isBlank d = false) :
    c ≠ d := by
  rintro rfl
  rw [blank] at visible
  cases visible

theorem step_value_blank {mode : Mode} (values : mode = .value ∨ mode = .firstItem)
    (stack : List Frame) {c : Char} (blank : isBlank c = true) :
    step ⟨mode, stack⟩ (some c) = some ⟨mode, stack⟩ := by
  rcases values with rfl | rfl
  · exact if_pos blank
  · have other : c ≠ ']' := ne_of_blank blank rfl
    simp only [step, stepChar]
    split
    · contradiction
    · exact if_pos blank

theorem step_name_blank {mode : Mode} (names : mode = .firstName ∨ mode = .name)
    (stack : List Frame) {c : Char} (blank : isBlank c = true) :
    step ⟨mode, stack⟩ (some c) = some ⟨mode, stack⟩ := by
  have notBrace : c ≠ '}' := ne_of_blank blank rfl
  have notQuote : c ≠ '"' := ne_of_blank blank rfl
  rcases names with rfl | rfl
  · simp only [step, stepChar]
    split
    · contradiction
    · contradiction
    · exact if_pos blank
  · simp only [step, stepChar, if_neg notQuote, if_pos blank]

theorem step_colon_blank (stack : List Frame) {c : Char} (blank : isBlank c = true) :
    step ⟨.colon, stack⟩ (some c) = some ⟨.colon, stack⟩ := by
  have other : c ≠ ':' := ne_of_blank blank rfl
  simp only [step, stepChar, if_neg other, if_pos blank]

/-! ## Parts -/

theorem step_firstItem {c : Char} (visible : isBlank c = false) (other : c ≠ ']')
    (stack : List Frame) :
    step ⟨.firstItem, stack⟩ (some c) = step ⟨.value, stack⟩ (some c) := by
  simp only [step, stepChar]
  split
  · contradiction
  · rw [visible]
    rfl

theorem run_ended {document : Document} {stack : List Frame} {state start next : State}
    {text : List Char} (reached : run start (text.map some) = some state)
    (settled : Settled document stack state) (completes : complete document stack = some next)
    {c : Char} (ends : endsValue c = true) (rest : List Char) :
    run start ((text ++ c :: rest).map some) =
      (stepBehind next c).bind fun state => run state (rest.map some) := by
  rw [List.map_append, run_append, reached, Option.bind_some, List.map_cons, run_cons,
    settled.step ends, completes]
  rfl

theorem isRead_word {document : Document} {c : Char} {rest : List Char}
    (visible : isBlank c = false ∧ c ≠ ']')
    (reads : ∀ stack, run ⟨.value, stack⟩ ((c :: rest).map some) = complete document stack) :
    (Part.value document).IsRead (c :: rest) := by
  refine ⟨⟨c, rest, rfl, visible⟩, fun stack room => ?_⟩
  obtain ⟨state, completes⟩ := Option.isSome_iff_exists.1 room
  exact ⟨state, by rw [reads, completes], .ended completes⟩

theorem Spells.isRead {part : Part} {text : List Char} (spelled : Spells part text) :
    part.IsRead text := by
  induction spelled with
  | null => exact isRead_word (by decide) fun stack => Option.bind_fun_some (complete _ stack)
  | true => exact isRead_word (by decide) fun stack => Option.bind_fun_some (complete _ stack)
  | false => exact isRead_word (by decide) fun stack => Option.bind_fun_some (complete _ stack)
  | number number => exact ⟨number.head, fun stack _ => run_number number stack⟩
  | string quotes =>
      cases quotes
      rename_i quotes
      exact isRead_word (by decide) (run_text (.mk quotes))
  | @emptyList gap blank =>
      refine isRead_word (by decide) fun stack => ?_
      have opened : step ⟨.value, stack⟩ (some '[') = some ⟨.firstItem, .items [] :: stack⟩ := rfl
      have waits := run_gap blank fun c => step_value_blank (.inr rfl) (.items [] :: stack)
      rw [List.map_cons, run_cons, opened, Option.bind_some, List.map_append, run_append, waits]
      exact Option.bind_fun_some (complete _ stack)
  | @list items body _ ih =>
      refine isRead_word (by decide) fun stack => ?_
      have opened : step ⟨.value, stack⟩ (some '[') = some ⟨.firstItem, .items [] :: stack⟩ := rfl
      rw [List.map_cons, run_cons, opened, Option.bind_some, ih .firstItem (.inr rfl) [] stack]
      rfl
  | @emptyTable gap blank =>
      refine isRead_word (by decide) fun stack => ?_
      have opened : step ⟨.value, stack⟩ (some '{') = some ⟨.firstName, .members [] :: stack⟩ := rfl
      have waits := run_gap blank fun c => step_name_blank (.inl rfl) (.members [] :: stack)
      rw [List.map_cons, run_cons, opened, Option.bind_some, List.map_append, run_append, waits]
      exact Option.bind_fun_some (complete _ stack)
  | @table entries body _ ih =>
      refine isRead_word (by decide) fun stack => ?_
      have opened : step ⟨.value, stack⟩ (some '{') = some ⟨.firstName, .members [] :: stack⟩ := rfl
      rw [List.map_cons, run_cons, opened, Option.bind_some, ih .firstName (.inl rfl) [] stack]
      rfl
  | @element document before text after opens _ closes ih =>
      obtain ⟨⟨c, rest, rfl, visible, other⟩, reads⟩ := ih
      intro mode values stack room
      obtain ⟨state, reached, settled⟩ := reads stack room
      obtain ⟨last, waited, settled⟩ := settled.gap room closes
      -- A value does not start with the end of a list, so it may stand first in one.
      have starts : run ⟨mode, stack⟩ ((c :: rest).map some) = some state := by
        rcases values with rfl | rfl
        · exact reached
        · rw [List.map_cons, run_cons, step_firstItem visible other, ← run_cons, ← List.map_cons,
            reached]
      refine ⟨last, ?_, settled⟩
      rw [List.map_append, run_append, run_gap opens fun c => step_value_blank values stack,
        Option.bind_some, List.map_append, run_append, starts, Option.bind_some, waited]
  | @lastElement document text _ ih =>
      intro mode values read stack
      obtain ⟨state, reached, settled⟩ := ih mode values (.items read :: stack) rfl
      rw [run_ended reached settled rfl rfl]
      simp [stepBehind, stepAfter]
  | @moreElements document documents text rest _ _ ih others =>
      intro mode values read stack
      obtain ⟨state, reached, settled⟩ := ih mode values (.items read :: stack) rfl
      have after := others .value (.inl rfl) (document :: read) stack
      rw [List.append_assoc, List.cons_append, run_ended reached settled rfl rfl]
      simpa [stepBehind, stepAfter] using after
  | @member name document before quoted after text opens quotes closes _ ih =>
      intro mode names read stack
      obtain ⟨state, reached, settled⟩ := ih .value (.inl rfl) (.member read name :: stack) rfl
      have waits := run_gap closes fun c => step_colon_blank (.member read name :: stack)
      have colon : step ⟨.colon, .member read name :: stack⟩ (some ':') =
          some ⟨.value, .member read name :: stack⟩ := rfl
      refine ⟨state, ?_, settled⟩
      rw [List.map_append, run_append, run_gap opens fun c => step_name_blank names _,
        Option.bind_some, List.map_append, run_append, run_name quotes names, Option.bind_some,
        List.map_append, run_append, waits, Option.bind_some, List.map_cons, run_cons, colon,
        Option.bind_some, reached]
  | @lastMember entry text _ ih =>
      obtain ⟨name, document⟩ := entry
      intro mode names read stack
      obtain ⟨state, reached, settled⟩ := ih mode names read stack
      rw [run_ended reached settled rfl rfl]
      simp [stepBehind, stepAfter]
  | @moreMembers entry entries text rest _ _ ih others =>
      obtain ⟨name, document⟩ := entry
      intro mode names read stack
      obtain ⟨state, reached, settled⟩ := ih mode names read stack
      have after := others .name (.inr rfl) ((name, document) :: read) stack
      rw [List.append_assoc, List.cons_append, run_ended reached settled rfl rfl]
      simpa [stepBehind, stepAfter] using after

/-! ## Texts -/

theorem run_of_spells {document : Document} {text : List Char}
    (spelled : Spells (.element document) text) :
    ∃ state, run start (text.map some) = some state ∧ Settled document [] state :=
  spelled.isRead .value (.inl rfl) [] rfl

theorem ofOctets?_of_spells {document : Document} {text : List Char}
    (spelled : Spells (.element document) text) : ofOctets? (Utf8.encode text) = some document := by
  obtain ⟨state, reached, settled⟩ := run_of_spells spelled
  have symbols : Utf8.symbols (Utf8.encode text) = text.map some := by
    have all := Utf8.symbols_encode text []
    rw [List.append_nil] at all
    exact all.trans (List.append_nil _)
  rw [ofOctets?, read, symbols, reached, Option.bind_some, settled.finish]

theorem ofOctets?_render {document : Document} (integral : document.isIntegral = true) :
    ofOctets? (Utf8.encode (render document)) = some document :=
  ofOctets?_of_spells (spells_render document integral).bare

theorem ofText?_text {document : Document} (integral : document.isIntegral = true) :
    ofText? (text document) = some document := by
  obtain ⟨state, reached, settled⟩ := run_of_spells (spells_render document integral).bare
  rw [ofText?, read, text, String.toList_ofList, reached, Option.bind_some, settled.finish]

end Json
end NatReach
