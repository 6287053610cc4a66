import NatReach.Proofs.Json.Grammar

namespace NatReach

namespace Json
open Utf8 (Symbol)

@[simp] theorem run_nil (state : State) : run state [] = some state := rfl

theorem run_cons (state : State) (symbol : Symbol) (symbols : List Symbol) :
    run state (symbol :: symbols) = (step state symbol).bind fun state => run state symbols := rfl

section
variable (isName : Bool) (read : List Piece) (stack : List Frame)

theorem step_unit {c : Char} {digit : Nat} (hex : Numeral.hexDigit? c = some digit)
    (seen code : Nat) :
    step ⟨.unit isName read seen code, stack⟩ (some c) = some
      (if seen = 3 then ⟨.string isName (.unit (16 * code + digit) :: read), stack⟩
      else ⟨.unit isName read (seen + 1) (16 * code + digit), stack⟩) := by
  simp only [step, stepChar, hex, Option.map_some]

theorem run_piece {piece : Piece} {text : List Char} (spelled : SpellsPiece piece text) :
    run ⟨.string isName read, stack⟩ (text.map some) =
      some ⟨.string isName (piece :: read), stack⟩ := by
  cases spelled with
  | @plain c notQuote notBackslash visible =>
      have reads : step ⟨.string isName read, stack⟩ (some c) =
          some ⟨.string isName (.char c :: read), stack⟩ := by
        simp only [step, stepChar]
        rw [if_neg notQuote, if_neg notBackslash, if_neg (Nat.not_lt.2 visible)]
      rw [List.map_singleton, run_cons, reads, Option.bind_some, run_nil]
  | @short letter c escaped =>
      have notUnit : letter ≠ 'u' := by
        rintro rfl
        cases escaped
      have opened : step ⟨.string isName read, stack⟩ (some '\\') =
          some ⟨.escape isName read, stack⟩ := rfl
      have reads : step ⟨.escape isName read, stack⟩ (some letter) =
          some ⟨.string isName (.char c :: read), stack⟩ := by
        simp only [step, stepChar, if_neg notUnit, escaped, Option.map_some]
      rw [List.map_cons, List.map_singleton, run_cons, opened, Option.bind_some, run_cons, reads,
        Option.bind_some, run_nil]
  | @long a b c d digits hex =>
      have opened : run ⟨.string isName read, stack⟩ (['\\', 'u'].map some) =
          some ⟨.unit isName read 0 0, stack⟩ := rfl
      simp only [List.mapM_cons, List.mapM_nil, Option.bind_eq_bind, Option.pure_def,
        Option.bind_eq_some_iff, Option.some.injEq] at hex
      obtain ⟨first, isFirst, _, ⟨second, isSecond, _, ⟨third, isThird, _, ⟨fourth, isFourth, _, rfl,
        rfl⟩, rfl⟩, rfl⟩, rfl⟩ := hex
      have parts : ['\\', 'u', a, b, c, d] = ['\\', 'u'] ++ [a, b, c, d] := rfl
      rw [parts, List.map_append, run_append, opened, Option.bind_some]
      simp [run_cons, step_unit, isFirst, isSecond, isThird, isFourth, Numeral.ofDigits]

theorem run_pieces {pieces : List Piece} {text : List Char} (spelled : SpellsPieces pieces text) :
    run ⟨.string isName read, stack⟩ (text.map some) =
      some ⟨.string isName (pieces.reverse ++ read), stack⟩ := by
  induction spelled generalizing read with
  | nil => rfl
  | cons first others ih =>
      rw [List.map_append, run_append, run_piece isName read stack first, Option.bind_some, ih,
        List.reverse_cons, List.append_assoc, List.singleton_append]

end

theorem step_closing_quote (isName : Bool) (pieces : List Piece) (stack : List Frame) :
    step ⟨.string isName pieces, stack⟩ (some '"') = closeString isName pieces stack := rfl

theorem run_string {text : Option String} {quoted : List Char} (quotes : Quotes text quoted)
    {isName : Bool} {state : State} {stack : List Frame}
    (opened : step state (some '"') = some ⟨.string isName [], stack⟩) :
    ∃ pieces, (content pieces.reverse).map String.ofList = text ∧
      run state (quoted.map some) = closeString isName pieces stack := by
  cases quotes with
  | @mk pieces body spelled =>
      refine ⟨pieces.reverse, by rw [List.reverse_reverse], ?_⟩
      rw [List.map_cons, run_cons, opened, Option.bind_some, List.map_append, run_append,
        run_pieces isName [] stack spelled, Option.bind_some, List.append_nil, List.map_singleton,
        run_cons, step_closing_quote]
      exact Option.bind_fun_some _

theorem run_text {text : Option String} {quoted : List Char} (quotes : Quotes text quoted)
    (stack : List Frame) :
    run ⟨.value, stack⟩ (quoted.map some) = complete (.text text) stack := by
  have opened : step ⟨.value, stack⟩ (some '"') = some ⟨.string false [], stack⟩ := rfl
  obtain ⟨pieces, stands, read⟩ := run_string quotes opened
  rw [read, closeString, stands]

theorem run_name {name : Option String} {quoted : List Char} (quotes : Quotes name quoted)
    {mode : Mode} (names : mode = .firstName ∨ mode = .name)
    (read : List (Option String × Document)) (stack : List Frame) :
    run ⟨mode, .members read :: stack⟩ (quoted.map some) =
      some ⟨.colon, .member read name :: stack⟩ := by
  have opened : step ⟨mode, .members read :: stack⟩ (some '"') =
      some ⟨.string true [], .members read :: stack⟩ := by
    rcases names with rfl | rfl <;> rfl
  obtain ⟨pieces, stands, reads⟩ := run_string quotes opened
  rw [reads, closeString, stands]

end Json
end NatReach
