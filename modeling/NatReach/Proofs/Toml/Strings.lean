import NatReach.Proofs.Text.Numeral
import NatReach.Toml.Writer

namespace NatReach.Toml

/-! ## Repetitions -/

theorem span_append {accept : Char → Bool} {front rest : List Char} (inside : ∀ c ∈ front, accept c = true)
    (ends : ∀ c ∈ rest.head?, accept c = false) :
    (front ++ rest).takeWhile accept = front ∧ (front ++ rest).dropWhile accept = rest := by
  rw [List.takeWhile_append_of_pos inside, List.dropWhile_append_of_pos inside]
  cases rest with
  | nil => exact ⟨List.append_nil front, rfl⟩
  | cons c rest =>
      have outside : ¬ accept c = true := by simp [ends c rfl]
      rw [List.takeWhile_cons_of_neg outside, List.dropWhile_cons_of_neg outside, List.append_nil]
      exact ⟨rfl, rfl⟩

section
variable {α β : Type} {read : Reader α}

inductive Takes (read : Reader α) : List Char → List α → List Char → Prop
  | stop {cs} (nothing : read cs = none) : Takes read cs [] cs
  | more {cs value next values rest} (taking : read cs = some (value, next))
      (shorter : next.length < cs.length) (others : Takes read next values rest) :
      Takes read cs (value :: values) rest

namespace Takes
variable {cs rest : List Char} {values : List α}

theorem manyWithin (takes : Takes read cs values rest) {bound : List Char}
    (enough : cs.length ≤ bound.length) (taken : List α) :
    manyWithin read bound taken cs = (taken.reverse ++ values, rest) := by
  induction takes generalizing bound taken with
  | stop nothing => cases bound <;> simp [Toml.manyWithin, nothing]
  | more taking shorter others ih =>
      cases bound with
      | nil => exact absurd (Nat.lt_of_lt_of_le shorter enough) (Nat.not_lt_zero _)
      | cons c bound =>
          rw [Toml.manyWithin, taking]
          dsimp only
          rw [ih (Nat.le_of_lt_succ (Nat.lt_of_lt_of_le shorter enough))]
          simp

theorem many (takes : Takes read cs values rest) : many read cs = (values, rest) :=
  takes.manyWithin (Nat.le_refl _) []

theorem parts {spell : β → List Char} {value : β → α} {parts : List β}
    (reads : ∀ part ∈ parts, ∀ cs, read (spell part ++ cs) = some (value part, cs))
    (spelled : ∀ part ∈ parts, spell part ≠ []) (others : Takes read cs values rest) :
    Takes read (parts.flatMap spell ++ cs) (parts.map value ++ values) rest := by
  induction parts with
  | nil => exact others
  | cons part parts ih =>
      rw [List.forall_mem_cons] at reads spelled
      rw [List.flatMap_cons, List.append_assoc]
      refine .more (reads.1 _) ?_ (ih reads.2 spelled.2)
      have some := List.length_pos_iff.2 spelled.1
      simp only [List.length_append]
      omega

end Takes
end

/-! ## Escapes -/

def escaped (inLines : Bool) (c : Char) : List Char :=
  if c = '"' then ['\\', '"'] else (escapeOf? inLines c).getD [c]

theorem readCodePoint_append {count : Nat} {digits : List Char} {c : Char}
    (length : digits.length = count) (reads : readCodePoint count digits = some (c, []))
    (cs : List Char) : readCodePoint count (digits ++ cs) = some (c, cs) := by
  subst length
  unfold readCodePoint at *
  rw [List.take_left, List.drop_left]
  rw [List.take_length, List.drop_length] at reads
  cases hex : digits.mapM Numeral.hexDigit? with
  | none => simp [hex] at reads
  | some values =>
      simp only [hex, Option.bind_eq_bind, Option.bind_some] at reads ⊢
      split at reads
      · rename_i all
        rw [if_pos all]
        obtain ⟨scalar, stands, same⟩ := Option.bind_eq_some_iff.1 reads
        cases same
        rw [stands]
        rfl
      · cases reads

theorem readCodePoint_code :
    ∀ n < 0x80, ((Numeral.paddedHex 4 n).map Char.toUpper).length = 4 ∧
      readCodePoint 4 ((Numeral.paddedHex 4 n).map Char.toUpper) = some (Char.ofNat n, []) := by
  decide +kernel

theorem readEscape_code {c : Char} (control : isControl c = true) (cs : List Char) :
    readEscape ('u' :: ((Numeral.paddedHex 4 c.toNat).map Char.toUpper ++ cs)) = some (c, cs) := by
  have ascii : c.toNat < 0x80 := by
    simp only [isControl, Bool.or_eq_true, Bool.and_eq_true, decide_eq_true_eq, beq_iff_eq] at control
    omega
  obtain ⟨four, reads⟩ := readCodePoint_code c.toNat ascii
  rw [Char.ofNat_toNat] at reads
  exact readCodePoint_append four reads cs

theorem escaped_cases (inLines : Bool) (c : Char) :
    (escaped inLines c = [c] ∧ c ≠ '"' ∧ c ≠ '\\' ∧
      (isControl c = true → inLines = true ∧ c = '\n')) ∨
    ∃ letter more, escaped inLines c = '\\' :: letter :: more ∧
      (isBlank letter = false ∧ letter ≠ '\n' ∧ letter ≠ '\r') ∧
      ∀ cs, readEscape (letter :: (more ++ cs)) = some (c, cs) := by
  unfold escaped
  split
  · rename_i quote
    exact .inr ⟨'"', [], rfl, by decide, fun cs => congrArg some (congrArg (·, cs) quote.symm)⟩
  · rename_i notQuote
    unfold escapeOf?
    split
    case h_1 => exact .inr ⟨'b', [], rfl, by decide, fun _ => rfl⟩
    case h_2 => exact .inr ⟨'t', [], rfl, by decide, fun _ => rfl⟩
    case h_3 =>
      cases inLines
      · exact .inr ⟨'n', [], rfl, by decide, fun _ => rfl⟩
      · exact .inl ⟨rfl, by decide, by decide, fun _ => ⟨rfl, rfl⟩⟩
    case h_4 => exact .inr ⟨'f', [], rfl, by decide, fun _ => rfl⟩
    case h_5 => exact .inr ⟨'r', [], rfl, by decide, fun _ => rfl⟩
    case h_6 => exact .inr ⟨'\\', [], rfl, by decide, fun _ => rfl⟩
    case h_7 notBackslash =>
      split
      · rename_i control
        exact .inr ⟨'u', _, rfl, by decide, readEscape_code control⟩
      · rename_i notControl
        exact .inl ⟨rfl, notQuote, notBackslash, fun control => absurd control notControl⟩

theorem escape_eq (run : Nat) (text : List Char) :
    escape false run text = text.flatMap (escaped false) := by
  induction text generalizing run with
  | nil => rfl
  | cons c rest ih =>
      rw [escape, List.flatMap_cons, escaped]
      split
      · have noRun : ¬ run < quotesInRow false := Nat.not_lt_zero run
        rw [if_neg noRun, ih]
        rfl
      · rw [ih]

/-! ## Strings in one line -/

theorem readBasicChar_escaped (c : Char) (cs : List Char) :
    readBasicChar (escaped false c ++ cs) = some (c, cs) := by
  rcases escaped_cases false c with
    ⟨plain, notQuote, notBackslash, control⟩ | ⟨letter, more, code, -, reads⟩
  · have visible : isControl c = false :=
      Bool.eq_false_iff.2 fun isControl => nomatch (control isControl).1
    rw [plain, List.singleton_append]
    unfold readBasicChar
    split
    · rename_i same
      exact absurd (List.cons.inj same).1 notBackslash
    · simp [readChar, notQuote, visible]
  · rw [code, List.cons_append, List.cons_append]
    exact reads cs

theorem readLineString_basic (text rest : List Char) :
    readLineString (renderAs .basic text ++ rest) = some (text, rest) := by
  have takes : Takes readBasicChar (text.flatMap (escaped false) ++ '"' :: rest)
      (text.map id ++ []) ('"' :: rest) := by
    refine Takes.parts (fun c _ => readBasicChar_escaped c) (fun c _ => ?_) (.stop rfl)
    rcases escaped_cases false c with ⟨plain, -⟩ | ⟨letter, more, code, -⟩
    · exact plain ▸ List.cons_ne_nil _ _
    · exact code ▸ List.cons_ne_nil _ _
  rw [List.map_id, List.append_nil] at takes
  simp [renderAs, readLineString, readLine, escape_eq, takes.many, skip]

theorem readLineString_literal {text : List Char}
    (plain : ∀ c ∈ text, c ≠ '\'' ∧ isControl c = false) (rest : List Char) :
    readLineString (renderAs .literal text ++ rest) = some (text, rest) := by
  have reads (c) (member : c ∈ text) (cs : List Char) :
      readLiteralChar ([c] ++ cs) = some (id c, cs) := by
    simp [readLiteralChar, readChar, plain c member]
  have takes : Takes readLiteralChar (text.flatMap (fun c => [c]) ++ '\'' :: rest)
      (text.map id ++ []) ('\'' :: rest) :=
    Takes.parts reads (fun c _ => List.cons_ne_nil c []) (.stop rfl)
  rw [List.map_id, List.append_nil, List.flatMap_singleton'] at takes
  simp [renderAs, readLineString, readLine, takes.many, skip]

/-! ## Strings in several lines -/

section
variable {close : Char} {read : Reader (List Char)}

inductive Body (close : Char) (read : Reader (List Char)) : Nat → List Char → List Char → Prop
  | nil {run} (few : run ≤ 2) : Body close read run [] []
  | quote {run written text} (few : run < 2) (others : Body close read (run + 1) written text) :
      Body close read run (close :: written) (close :: text)
  | other {run first spelled c written text} (few : run ≤ 2) (noQuote : first ≠ close)
      (reads : ∀ cs, read (first :: (spelled ++ cs)) = some ([c], cs))
      (others : Body close read 0 written text) :
      Body close read run (first :: spelled ++ written) (c :: text)

theorem takeWhile_quotes (run : Nat) {cs : List Char} (noQuote : cs.head? ≠ some close) :
    (List.replicate run close ++ cs).takeWhile (· == close) = List.replicate run close := by
  refine (span_append (by simp) fun c head => beq_eq_false_iff_ne.2 ?_).1
  rintro rfl
  exact noQuote head

theorem readFewQuotes_replicate {run : Nat} (few : run ≤ 2) {cs : List Char}
    (noQuote : cs.head? ≠ some close) :
    readFewQuotes close (List.replicate run close ++ cs) = some (List.replicate run close, cs) := by
  have small : run < 3 := by omega
  simp [readFewQuotes, takeWhile_quotes run noQuote, small]

theorem readFewQuotes_closing (run : Nat) {rest : List Char} (noQuote : rest.head? ≠ some close) :
    readFewQuotes close (List.replicate (run + 3) close ++ rest) = none := by
  simp [readFewQuotes, takeWhile_quotes (run + 3) noQuote]

theorem readClosing_replicate {run : Nat} (few : run ≤ 2) {rest : List Char}
    (noQuote : rest.head? ≠ some close) :
    readClosing close (List.replicate (run + 3) close ++ rest) =
      some (List.replicate run close, rest) := by
  have own : min run 2 = run := Nat.min_eq_left few
  simp [readClosing, takeWhile_quotes (run + 3) noQuote, own]

theorem Takes.quotes (quotes : ∀ cs, read (close :: cs) = readFewQuotes close (close :: cs))
    {cs stop : List Char} {pieces : List (List Char)} (noQuote : cs.head? ≠ some close)
    (takes : Takes read cs pieces stop) {run : Nat} (few : run ≤ 2) :
    ∃ more, Takes read (List.replicate run close ++ cs) more stop ∧
      more.flatten = List.replicate run close ++ pieces.flatten := by
  cases run with
  | zero => exact ⟨pieces, takes, rfl⟩
  | succ run =>
      have taking : read (List.replicate (run + 1) close ++ cs) =
          some (List.replicate (run + 1) close, cs) := by
        rw [List.replicate_succ, List.cons_append, quotes, ← List.cons_append, ← List.replicate_succ]
        exact readFewQuotes_replicate few noQuote
      refine ⟨_, .more taking ?_ takes, rfl⟩
      simp only [List.length_append, List.length_replicate]
      omega

theorem Body.takes (quotes : ∀ cs, read (close :: cs) = readFewQuotes close (close :: cs))
    {run : Nat} {written text : List Char} (body : Body close read run written text)
    {rest : List Char} (noQuote : rest.head? ≠ some close) :
    ∃ pieces last stop,
      Takes read (List.replicate run close ++ written ++ threefold close ++ rest) pieces stop ∧
      readClosing close stop = some (last, rest) ∧
      pieces.flatten ++ last = List.replicate run close ++ text := by
  -- a run of quotes is taken off at once, when what follows it is known: until then it stays in front
  induction body with
  | @nil run few =>
      have ending : List.replicate run close ++ [] ++ threefold close ++ rest =
          List.replicate (run + 3) close ++ rest := by
        rw [threefold, List.append_nil, List.replicate_append_replicate]
      have nothing : read (List.replicate (run + 3) close ++ rest) = none := by
        rw [List.replicate_succ, List.cons_append, quotes, ← List.cons_append, ← List.replicate_succ]
        exact readFewQuotes_closing run noQuote
      refine ⟨[], _, _, ?_, readClosing_replicate few noQuote, by simp⟩
      rw [ending]
      exact .stop nothing
  | @quote run written text few others ih =>
      have moved (cs : List Char) :
          List.replicate run close ++ close :: cs = List.replicate (run + 1) close ++ cs := by
        rw [List.replicate_succ', List.append_assoc, List.singleton_append]
      simp only [moved]
      exact ih
  | @other run first spelled c written text few notClose reads others ih =>
      obtain ⟨pieces, last, stop, takes, closes, content⟩ := ih
      rw [List.replicate_zero, List.nil_append] at takes content
      have next : Takes read
          (first :: spelled ++ written ++ threefold close ++ rest) ([c] :: pieces) stop := by
        have taking := reads (written ++ threefold close ++ rest)
        simp only [List.cons_append, List.append_assoc] at taking takes ⊢
        refine .more taking ?_ takes
        simp only [List.length_cons, List.length_append]
        omega
      obtain ⟨more, all, same⟩ := next.quotes quotes (by simpa using notClose) few
      refine ⟨more, last, stop, ?_, closes, ?_⟩
      · simpa only [List.append_assoc] using all
      · rw [same, List.append_assoc, List.flatten_cons, List.append_assoc, content]
        rfl

theorem skipNewline_of_head {cs : List Char} (noEnd : ∀ c ∈ cs.head?, c ≠ '\n' ∧ c ≠ '\r') :
    skipNewline cs = none := by
  unfold skipNewline
  split
  · exact absurd rfl (noEnd '\n' rfl).1
  · exact absurd rfl (noEnd '\r' rfl).2
  · rfl

theorem Body.readLines (quotes : ∀ cs, read (close :: cs) = readFewQuotes close (close :: cs))
    {written text : List Char} (body : Body close read 0 written text)
    (oneLine : '\n' ∉ text → ∀ c ∈ (written ++ [close]).head?, c ≠ '\n' ∧ c ≠ '\r')
    {rest : List Char} (noQuote : rest.head? ≠ some close) :
    readLines close read (opening text ++ written ++ threefold close ++ rest) = some (text, rest) := by
  obtain ⟨pieces, last, stop, takes, closes, content⟩ := body.takes quotes noQuote
  rw [List.replicate_zero, List.nil_append] at takes content
  have opened : (skipNewline (opening text ++ written ++ threefold close ++ rest)).getD
      (opening text ++ written ++ threefold close ++ rest) = written ++ threefold close ++ rest := by
    unfold opening
    split
    · rfl
    · rename_i noLine
      rw [List.nil_append, skipNewline_of_head, Option.getD_none]
      have head : (written ++ threefold close ++ rest).head? = (written ++ [close]).head? := by
        cases written <;> rfl
      rw [head]
      exact oneLine (by simpa using noLine)
  simp only [Toml.readLines, opened, takes.many, closes, content, Option.bind_eq_bind, Option.bind_some,
    Option.pure_def]

end

theorem ne_of_not_control {c : Char} (visible : isControl c = false) : c ≠ '\n' ∧ c ≠ '\r' := by
  constructor <;>
  · rintro rfl
    cases visible

theorem readLineFeed_or {read : Reader Char} {c : Char} (lines : isControl c = true → c = '\n')
    (reads : isControl c = false → ∀ cs, read (c :: cs) = some (c, cs)) (cs : List Char) :
    ((readLineFeed (c :: cs)).or (single read (c :: cs))) = some ([c], cs) := by
  cases control : isControl c with
  | true =>
      obtain rfl := lines control
      rfl
  | false =>
      have noEnd : skipNewline (c :: cs) = none :=
        skipNewline_of_head fun first head => by
          obtain rfl := Option.some.inj head
          exact ne_of_not_control control
      simp [readLineFeed, noEnd, single, reads control]

theorem readBasicPiece_escaped (c : Char) :
    ∃ first spelled, escaped true c = first :: spelled ∧ first ≠ '"' ∧
      ('\n' ≠ c → first ≠ '\n' ∧ first ≠ '\r') ∧
      ∀ cs, readBasicPiece (first :: (spelled ++ cs)) = some ([c], cs) := by
  rcases escaped_cases true c with
    ⟨plain, notQuote, notBackslash, control⟩ | ⟨letter, more, code, ⟨notBlank, notEnd⟩, reads⟩
  · refine ⟨c, [], plain, notQuote, fun noEnd => ?_, fun cs => ?_⟩
    · exact ne_of_not_control (Bool.eq_false_iff.2 fun isControl => noEnd (control isControl).2.symm)
    · unfold readBasicPiece
      split
      · rename_i same
        exact absurd (List.cons.inj same).1 notQuote
      · rename_i same
        exact absurd (List.cons.inj same).1 notBackslash
      · refine readLineFeed_or (fun isControl => (control isControl).2) (fun visible cs => ?_) cs
        unfold readBasicChar
        split
        · rename_i same
          exact absurd (List.cons.inj same).1 notBackslash
        · simp [readChar, notQuote, visible]
  · refine ⟨'\\', letter :: more, code, by decide, fun _ => by decide, fun cs => ?_⟩
    have noEnd : skipNewline (skipBlanks (letter :: (more ++ cs))) = none := by
      rw [skipBlanks, List.dropWhile_cons_of_neg (by simp [notBlank])]
      exact skipNewline_of_head fun first head => Option.some.inj head ▸ notEnd
    simp [readBasicPiece, readContinuation, noEnd, single, reads]

theorem body_escape {run : Nat} (few : run ≤ 2) (text : List Char) :
    Body '"' readBasicPiece run (escape true run text) text := by
  induction text generalizing run with
  | nil => exact .nil few
  | cons c text ih =>
      obtain ⟨first, spelled, code, noQuote, -, reads⟩ := readBasicPiece_escaped c
      rw [escape]
      split
      · rename_i quote
        subst quote
        split
        · rename_i fewer
          exact .quote fewer (ih fewer)
        · rw [escaped, if_pos rfl] at code
          cases code
          exact .other few noQuote reads (ih (Nat.zero_le 2))
      · rename_i notQuote
        rw [escaped, if_neg notQuote] at code
        rw [code]
        exact .other few noQuote reads (ih (Nat.zero_le 2))

theorem head_escape {text : List Char} (oneLine : '\n' ∉ text) :
    ∀ c ∈ (escape true 0 text ++ ['"']).head?, c ≠ '\n' ∧ c ≠ '\r' := by
  cases text with
  | nil =>
      intro c head
      obtain rfl := Option.some.inj head
      decide
  | cons c text =>
      obtain ⟨first, spelled, code, -, noEnd, -⟩ := readBasicPiece_escaped c
      have plain := noEnd fun same => oneLine (same ▸ List.mem_cons_self)
      intro head isHead
      rw [escape] at isHead
      split at isHead
      · obtain rfl := Option.some.inj isHead
        decide
      · rename_i notQuote
        rw [escaped, if_neg notQuote] at code
        rw [code] at isHead
        obtain rfl := Option.some.inj isHead
        exact plain

def nextRun (c : Char) (runs : Nat × Nat) (other : Char) : Nat × Nat :=
  let run := if other = c then runs.1 + 1 else 0
  (run, max run runs.2)

theorem le_foldl_nextRun (c : Char) (text : List Char) (runs : Nat × Nat) :
    runs.2 ≤ (text.foldl (nextRun c) runs).2 := by
  induction text generalizing runs with
  | nil => exact Nat.le_refl _
  | cons other text ih =>
      have first : runs.2 ≤ (nextRun c runs other).2 := Nat.le_max_right _ _
      exact Nat.le_trans first (ih _)

theorem body_literal {run longest : Nat} (few : run ≤ 2) {text : List Char}
    (lines : ∀ c ∈ text, isControl c = true → c = '\n')
    (runs : (text.foldl (nextRun '\'') (run, longest)).2 ≤ 2) :
    Body '\'' readLiteralPiece run text text := by
  induction text generalizing run longest with
  | nil => exact .nil few
  | cons c text ih =>
      rw [List.forall_mem_cons] at lines
      rw [List.foldl_cons] at runs
      have reached : (nextRun '\'' (run, longest) c).1 ≤ (nextRun '\'' (run, longest) c).2 :=
        Nat.le_max_left _ _
      have within := Nat.le_trans reached (Nat.le_trans (le_foldl_nextRun ..) runs)
      have others := ih within lines.2 runs
      by_cases quote : c = '\''
      · subst quote
        exact .quote within others
      · have ends : (nextRun '\'' (run, longest) c).1 = 0 := if_neg quote
        rw [ends] at others
        change Body '\'' readLiteralPiece run (c :: [] ++ text) (c :: text)
        refine .other few quote (fun cs => ?_) others
        unfold readLiteralPiece
        split
        · rename_i same
          exact absurd (List.cons.inj same).1 quote
        · refine readLineFeed_or lines.1 (fun visible cs => ?_) cs
          simp [readLiteralChar, readChar, quote, visible]

/-! ## All strings -/

theorem plain_of_literal {text : List Char} (form : formOf text = .literal) :
    ∀ c ∈ text, c ≠ '\'' ∧ isControl c = false := by
  unfold formOf at form
  simp only at form
  split at form
  · cases form
  · split at form
    · rename_i fits
      simp only [Bool.and_eq_true, Bool.not_eq_true', needsEscape, List.any_eq_false,
        List.contains_eq_mem, decide_eq_false_iff_not] at fits
      obtain ⟨⟨noCode, oneLine⟩, noQuote⟩ := fits
      intro c member
      refine ⟨fun quote => noQuote (quote ▸ member), ?_⟩
      have notEnd : c ≠ '\n' := fun lineEnd => oneLine (lineEnd ▸ member)
      simpa [notEnd] using noCode c member
    · split at form
      · cases form
      · split at form
        · cases form
        · split at form <;> cases form

theorem runs_of_literalLines {text : List Char} (form : formOf text = .literalLines) :
    (∀ c ∈ text, isControl c = true → c = '\n') ∧ longestRun '\'' text ≤ 2 := by
  unfold formOf at form
  simp only at form
  split at form
  · cases form
  · split at form
    · cases form
    · split at form
      · cases form
      · split at form
        · rename_i fits
          simp only [Bool.and_eq_true, Bool.not_eq_true', needsEscape, List.any_eq_false,
            decide_eq_true_eq] at fits
          refine ⟨fun c member control => ?_, fits.2⟩
          simpa [control] using fits.1 c member
        · split at form <;> cases form

theorem readString_eq_readLineString {cs : List Char}
    (double : ¬ threefold '"' <+: cs) (simple : ¬ threefold '\'' <+: cs) :
    readString cs = readLineString cs := by
  unfold readString
  split
  · exact absurd ⟨_, rfl⟩ double
  · exact absurd ⟨_, rfl⟩ simple
  · rfl

theorem readLineString_of_ne {c : Char} (notDouble : c ≠ '"') (notSimple : c ≠ '\'') (cs : List Char) :
    readLineString (c :: cs) = none := by
  unfold readLineString
  split
  · rename_i same
    exact absurd (List.cons.inj same).1 notDouble
  · rename_i same
    exact absurd (List.cons.inj same).1 notSimple
  · rfl

theorem readString_of_ne {c : Char} (notDouble : c ≠ '"') (notSimple : c ≠ '\'') (cs : List Char) :
    readString (c :: cs) = none := by
  rw [readString_eq_readLineString, readLineString_of_ne notDouble notSimple]
  · rintro ⟨behind, same⟩
    exact notDouble (List.cons.inj same).1.symm
  · rintro ⟨behind, same⟩
    exact notSimple (List.cons.inj same).1.symm

theorem readString_renderText (text : String) {rest : List Char} (noDouble : rest.head? ≠ some '"')
    (noSimple : rest.head? ≠ some '\'') :
    readString (renderText text ++ rest) = some (text.toList, rest) := by
  unfold renderText
  generalize text.toList = text
  -- What is written in one line must not look as if it started with three quotes.
  cases form : formOf text with
  | basic =>
      rw [readString_eq_readLineString]
      · exact readLineString_basic text rest
      · rintro ⟨behind, same⟩
        cases text with
        | nil =>
            obtain rfl : '"' :: behind = rest := List.cons.inj (List.cons.inj same).2 |>.2
            exact noDouble rfl
        | cons c text =>
            rw [renderAs, escape_eq, List.flatMap_cons] at same
            rcases escaped_cases false c with ⟨plain, notQuote, -⟩ | ⟨letter, more, code, -⟩
            · rw [plain] at same
              exact notQuote (List.cons.inj (List.cons.inj same).2).1.symm
            · rw [code] at same
              cases (List.cons.inj (List.cons.inj same).2).1
      · rintro ⟨behind, same⟩
        cases (List.cons.inj same).1
  | literal =>
      have plain := plain_of_literal form
      rw [readString_eq_readLineString]
      · exact readLineString_literal plain rest
      · rintro ⟨behind, same⟩
        cases (List.cons.inj same).1
      · rintro ⟨behind, same⟩
        cases text with
        | nil =>
            obtain rfl : '\'' :: behind = rest := List.cons.inj (List.cons.inj same).2 |>.2
            exact noSimple rfl
        | cons c text =>
            exact (plain c List.mem_cons_self).1 (List.cons.inj (List.cons.inj same).2).1.symm
  | basicLines =>
      have quotes (cs) : readBasicPiece ('"' :: cs) = readFewQuotes '"' ('"' :: cs) := rfl
      exact (body_escape (Nat.zero_le 2) text).readLines quotes head_escape noDouble
  | literalLines =>
      obtain ⟨lines, runs⟩ := runs_of_literalLines form
      have quotes (cs) : readLiteralPiece ('\'' :: cs) = readFewQuotes '\'' ('\'' :: cs) := rfl
      refine (body_literal (Nat.zero_le 2) lines runs).readLines quotes ?_ noSimple
      intro oneLine c head
      cases text with
      | nil =>
          obtain rfl := Option.some.inj head
          decide
      | cons first text =>
          obtain rfl := Option.some.inj head
          refine ne_of_not_control (Bool.eq_false_iff.2 fun control => oneLine ?_)
          rw [← lines first List.mem_cons_self control]
          exact List.mem_cons_self

/-! ## Names -/

theorem isBlank_of_isBare {c : Char} (bare : isBare c = true) :
    isBlank c = false ∧ c ≠ '"' ∧ c ≠ '\'' := by
  refine ⟨?_, ?_, ?_⟩
  · rw [Bool.eq_false_iff]
    intro blank
    simp only [isBlank, Bool.or_eq_true, beq_iff_eq] at blank
    rcases blank with rfl | rfl <;> cases bare
  all_goals
    rintro rfl
    cases bare

theorem skipBlanks_of_head {cs : List Char} (noBlank : ∀ c ∈ cs.head?, isBlank c = false) :
    skipBlanks cs = cs :=
  (span_append (List.forall_mem_nil _) noBlank).2

theorem exists_head_renderName (name : String) :
    ∃ c rest, renderName name = c :: rest ∧ (c = '"' ∨ c = '\'' ∨ isBare c = true) := by
  unfold renderName
  simp only
  split
  · rename_i bare
    rw [Bool.and_eq_true, List.all_eq_true] at bare
    cases text : name.toList with
    | nil =>
        rw [text] at bare
        cases bare.1
    | cons c rest =>
        rw [text] at bare
        exact ⟨c, rest, rfl, .inr (.inr (bare.2 c List.mem_cons_self))⟩
  · split
    · exact ⟨'"', _, rfl, .inl rfl⟩
    · split
      · exact ⟨'\'', _, rfl, .inr (.inl rfl)⟩
      · exact ⟨'"', _, rfl, .inl rfl⟩

theorem readBareName_append {name rest : List Char} (some : name ≠ [])
    (bare : ∀ c ∈ name, isBare c = true) (ends : ∀ c ∈ rest.head?, isBare c = false) :
    readBareName (name ++ rest) = .some (name, rest) := by
  simp [readBareName, span_append bare ends, some]

theorem readName_renderName (name : String) {rest : List Char}
    (ends : ∀ c ∈ rest.head?, isBare c = false) :
    readName (renderName name ++ rest) = some (name, skipBlanks rest) := by
  have noBlank : skipBlanks (renderName name ++ rest) = renderName name ++ rest := by
    obtain ⟨c, more, starts, first⟩ := exists_head_renderName name
    refine skipBlanks_of_head fun head isHead => ?_
    rw [starts] at isHead
    obtain rfl := Option.some.inj isHead
    rcases first with rfl | rfl | bare
    · rfl
    · rfl
    · exact (isBlank_of_isBare bare).1
  have reads : (readLineString (renderName name ++ rest)).or (readBareName (renderName name ++ rest)) =
      some (name.toList, rest) := by
    unfold renderName
    simp only
    split
    · rename_i bare
      simp only [Bool.and_eq_true, Bool.not_eq_true', List.isEmpty_eq_false_iff, List.all_eq_true] at bare
      rw [readBareName_append bare.1 bare.2 ends]
      cases text : name.toList with
      | nil => exact absurd text bare.1
      | cons c cs =>
          rw [text] at bare
          obtain ⟨-, notDouble, notSimple⟩ := isBlank_of_isBare (bare.2 c List.mem_cons_self)
          rw [List.cons_append, readLineString_of_ne notDouble notSimple, Option.none_or]
    · split
      · rw [readLineString_basic, Option.some_or]
      · split
        · rename_i plain
          simp only [Bool.and_eq_true, Bool.not_eq_true', List.any_eq_false, List.contains_eq_mem,
            decide_eq_false_iff_not] at plain
          rw [readLineString_literal, Option.some_or]
          intro c member
          exact ⟨fun quote => plain.2 (quote ▸ member), Bool.eq_false_iff.2 (plain.1 c member)⟩
        · rw [readLineString_basic, Option.some_or]
  simp [readName, noBlank, reads]

end NatReach.Toml
