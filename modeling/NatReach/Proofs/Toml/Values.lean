import NatReach.Proofs.Toml.Strings

namespace NatReach.Toml

/-! ## Numbers -/

section
variable {digits rest : List Char} {stop : Char}

theorem ne_of_isDecimal {c other : Char} (decimal : Numeral.isDecimal c = true)
    (noDigit : Numeral.isDecimal other = false) : c ≠ other := by
  rintro rfl
  exact Bool.false_ne_true (noDigit.symm.trans decimal)

theorem readWithin_digits (decimal : ∀ c ∈ digits, Numeral.isDecimal c = true)
    (noDigit : Numeral.isDecimal stop = false) {count low high : Nat} {taken behind : List Char}
    (reads : readWithin count low high (digits ++ stop :: rest) = some (taken, behind)) :
    ∃ later, (∀ c ∈ later, Numeral.isDecimal c = true) ∧ behind = later ++ stop :: rest := by
  simp only [readWithin, readDigitCount, Option.bind_eq_bind, Option.bind_eq_some_iff] at reads
  obtain ⟨⟨_, remaining⟩, counted, value, -, within⟩ := reads
  split at within
  · cases within
    split at counted
    · rename_i all
      cases counted
      simp only [Bool.and_eq_true, decide_eq_true_eq, List.all_eq_true] at all
      have enough : count ≤ digits.length := by
        refine Nat.le_of_not_lt fun short => ?_
        have inside : stop ∈ (digits ++ stop :: rest).take count := by
          rw [List.take_append, List.mem_append]
          obtain ⟨more, same⟩ : ∃ more, count - digits.length = more + 1 :=
            ⟨count - digits.length - 1, by omega⟩
          rw [same]
          exact .inr List.mem_cons_self
        exact Bool.false_ne_true (noDigit.symm.trans (all.2 stop inside))
      refine ⟨digits.drop count, fun c member => decimal c (List.mem_of_mem_drop member), ?_⟩
      rw [List.drop_append_of_le_length enough]
    · cases counted
  · cases within

theorem skip_digits (decimal : ∀ c ∈ digits, Numeral.isDecimal c = true) {mark : Char}
    (noDigit : Numeral.isDecimal mark = false) (other : stop ≠ mark) :
    skip [mark] (digits ++ stop :: rest) = none := by
  cases digits with
  | nil => exact if_neg other
  | cons c digits => exact if_neg (ne_of_isDecimal (decimal c List.mem_cons_self) noDigit)

theorem readMoment_digits (decimal : ∀ c ∈ digits, Numeral.isDecimal c = true)
    (noDigit : Numeral.isDecimal stop = false) (noDash : stop ≠ '-') (noColon : stop ≠ ':') :
    readMoment (digits ++ stop :: rest) = none := by
  have noDate : readDate (digits ++ stop :: rest) = none := by
    cases reads : readWithin 4 0 9999 (digits ++ stop :: rest) with
    | none => simp [readDate, reads]
    | some taking =>
        obtain ⟨later, others, same⟩ := readWithin_digits decimal noDigit reads
        have noMark : skip ['-'] taking.2 = none := same ▸ skip_digits others rfl noDash
        simp [readDate, reads, noMark]
  have noTime : readHourMinute (digits ++ stop :: rest) = none := by
    cases reads : readWithin 2 0 23 (digits ++ stop :: rest) with
    | none => simp [readHourMinute, reads]
    | some taking =>
        obtain ⟨later, others, same⟩ := readWithin_digits decimal noDigit reads
        have noMark : skip [':'] taking.2 = none := same ▸ skip_digits others rfl noColon
        simp [readHourMinute, reads, noMark]
  simp [readMoment, readDateTime, readTime, noDate, noTime]

theorem readSign_of_isDecimal {c : Char} (decimal : Numeral.isDecimal c = true) (cs : List Char) :
    readSign (c :: cs) = some ([], c :: cs) := by
  unfold readSign
  split
  · rename_i same
    exact absurd (List.cons.inj same).1 (ne_of_isDecimal decimal rfl)
  · rename_i same
    exact absurd (List.cons.inj same).1 (ne_of_isDecimal decimal rfl)
  · rfl

theorem readSeparated_of_ne {c : Char} (noUnderscore : c ≠ '_') (cs : List Char) :
    readSeparated Numeral.isDecimal (c :: cs) = readChar Numeral.isDecimal (c :: cs) := by
  unfold readSeparated
  split
  · rename_i same
    exact absurd (List.cons.inj same).1 noUnderscore
  · rfl

theorem readDigits_append {c : Char} (decimal : ∀ d ∈ c :: digits, Numeral.isDecimal d = true)
    (noDigit : Numeral.isDecimal stop = false) (noUnderscore : stop ≠ '_') :
    readDigits Numeral.isDecimal (c :: digits ++ stop :: rest) = some (c :: digits, stop :: rest) := by
  rw [List.forall_mem_cons] at decimal
  have reads (d) (member : d ∈ digits) (cs : List Char) :
      readSeparated Numeral.isDecimal ([d] ++ cs) = some (id d, cs) := by
    have isDigit := decimal.2 d member
    rw [List.singleton_append, readSeparated_of_ne (ne_of_isDecimal isDigit rfl)]
    exact if_pos isDigit
  have stops : readSeparated Numeral.isDecimal (stop :: rest) = none := by
    rw [readSeparated_of_ne noUnderscore]
    exact if_neg (Bool.eq_false_iff.1 noDigit)
  have takes : Takes (readSeparated Numeral.isDecimal) (digits.flatMap (fun d => [d]) ++ stop :: rest)
      (digits.map id ++ []) (stop :: rest) :=
    Takes.parts reads (fun d _ => List.cons_ne_nil d []) (.stop stops)
  rw [List.flatMap_singleton', List.map_id, List.append_nil] at takes
  simp [readDigits, readChar, decimal.1, takes.many]

theorem exists_head_toDigits (n : Nat) :
    ∃ c digits, Nat.toDigits 10 n = c :: digits ∧ (c = '0' → digits = []) ∧
      ∀ d ∈ c :: digits, Numeral.isDecimal d = true := by
  have decimal : ∀ d ∈ Nat.toDigits 10 n, Numeral.isDecimal d = true :=
    fun d => Numeral.isDecimal_of_mem_toDigits
  rcases Nat.eq_zero_or_pos n with rfl | positive
  · exact ⟨'0', [], rfl, fun _ => rfl, decimal⟩
  · obtain ⟨c, digits, written, notZero⟩ := Numeral.toDigits_eq_cons positive
    exact ⟨c, digits, written, fun zero => absurd zero notZero, written ▸ decimal⟩

theorem readDecimal_toDigits (n : Nat) (noDigit : Numeral.isDecimal stop = false)
    (noUnderscore : stop ≠ '_') :
    readDecimal (Nat.toDigits 10 n ++ stop :: rest) = some (Nat.toDigits 10 n, stop :: rest) := by
  obtain ⟨c, digits, written, alone, decimal⟩ := exists_head_toDigits n
  rw [written, readDecimal, List.cons_append, readSign_of_isDecimal (decimal c List.mem_cons_self)]
  simp only [Option.bind_eq_bind, Option.bind_some]
  split
  · rename_i same
    obtain ⟨zero, behind⟩ := List.cons.inj same
    obtain rfl := alone zero
    rw [zero, ← behind]
    rfl
  · rw [← List.cons_append, readDigits_append decimal noDigit noUnderscore]
    rfl

theorem decimalValue?_toDigits (n : Nat) : decimalValue? (Nat.toDigits 10 n) = some (n : Int) := by
  obtain ⟨values, hex, -, value⟩ :=
    Numeral.mapM_toDigits (by decide : 1 < 10)
      (fun d small => Numeral.hexDigit?_digitChar d (by omega)) n
  have based : ofBase? 10 (Nat.toDigits 10 n) = some n := by rw [ofBase?, hex, Option.map_some, value]
  obtain ⟨c, digits, written, -, decimal⟩ := exists_head_toDigits n
  have isDigit := decimal c List.mem_cons_self
  unfold decimalValue?
  split
  · rename_i same
    obtain rfl := (List.cons.inj (written.symm.trans same)).1
    cases isDigit
  · rename_i same
    obtain rfl := (List.cons.inj (written.symm.trans same)).1
    cases isDigit
  · rw [based]
    rfl

theorem readInteger_toDigits {n : Nat} (fits : fitsInt64 n = true) (rest : List Char) :
    readInteger (Nat.toDigits 10 n ++ '\n' :: rest) = some (.nat n, '\n' :: rest) := by
  have any : readAnyInteger (Nat.toDigits 10 n ++ '\n' :: rest) = some ((n : Int), '\n' :: rest) := by
    obtain ⟨c, digits, written, alone, decimal⟩ := exists_head_toDigits n
    have plain : readAnyInteger (Nat.toDigits 10 n ++ '\n' :: rest) =
        (readDecimal (Nat.toDigits 10 n ++ '\n' :: rest)).bind fun spelled =>
          (decimalValue? spelled.1).bind fun value => some (value, spelled.2) := by
      -- behind a leading zero no mark of a base can stand, but the end of the line
      rw [written]
      unfold readAnyInteger
      split
      case h_4 => rfl
      all_goals
        rename_i same
        obtain ⟨zero, behind⟩ := List.cons.inj same
        obtain rfl := alone zero
        cases behind
    rw [plain, readDecimal_toDigits n rfl (by decide), Option.bind_some, decimalValue?_toDigits]
    rfl
  simp [readInteger, any, fits, Document.nat]

theorem readScalar_toDigits {n : Nat} (fits : fitsInt64 n = true) (rest : List Char) :
    readScalar (Nat.toDigits 10 n ++ '\n' :: rest) = some (.nat n, '\n' :: rest) := by
  obtain ⟨c, digits, written, -, decimal⟩ := exists_head_toDigits n
  have isDigit := decimal c List.mem_cons_self
  have noString : readString (Nat.toDigits 10 n ++ '\n' :: rest) = none := by
    rw [written]
    exact readString_of_ne (ne_of_isDecimal isDigit rfl) (ne_of_isDecimal isDigit rfl) _
  have noBool : readBool (Nat.toDigits 10 n ++ '\n' :: rest) = none := by
    have noTrue : c ≠ 't' := ne_of_isDecimal isDigit rfl
    have noFalse : c ≠ 'f' := ne_of_isDecimal isDigit rfl
    simp [readBool, written, skip, noTrue, noFalse]
  have noMoment : readMoment (Nat.toDigits 10 n ++ '\n' :: rest) = none :=
    readMoment_digits (written ▸ decimal) rfl (by decide) (by decide)
  have noReal : readReal (Nat.toDigits 10 n ++ '\n' :: rest) = none := by
    rw [readReal, readDecimal_toDigits n rfl (by decide)]
    rfl
  have noSpecial : readSpecial (Nat.toDigits 10 n ++ '\n' :: rest) = none := by
    rw [written, List.cons_append, readSpecial, readSign_of_isDecimal isDigit]
    simp only [Option.bind_eq_bind, Option.bind_some]
    split
    · rename_i same
      exact absurd (List.cons.inj same).1 (ne_of_isDecimal isDigit rfl)
    · rename_i same
      exact absurd (List.cons.inj same).1 (ne_of_isDecimal isDigit rfl)
    · rfl
  simp [readScalar, noString, noBool, noMoment, readNumber, noReal, noSpecial,
    readInteger_toDigits fits]

end

/-! ## Texts -/

theorem exists_head_renderText (text : String) :
    ∃ c rest, renderText text = c :: rest ∧ (c = '"' ∨ c = '\'') := by
  unfold renderText
  cases formOf text.toList
  · exact ⟨'"', _, rfl, .inl rfl⟩
  · exact ⟨'\'', _, rfl, .inr rfl⟩
  · exact ⟨'"', _, rfl, .inl rfl⟩
  · exact ⟨'\'', _, rfl, .inr rfl⟩

theorem readValue_of_ne {c : Char} (noList : c ≠ '[') (noTable : c ≠ '\x7b') (depth : Nat)
    (cs : List Char) : readValue depth (c :: cs) = readScalar (c :: cs) := by
  cases depth with
  | zero => rfl
  | succ depth =>
      unfold readValue
      split
      · rename_i same
        exact absurd (List.cons.inj same).1 noList
      · rename_i same
        exact absurd (List.cons.inj same).1 noTable
      · rfl

theorem readValue_renderText (depth : Nat) (text : String) {stop : Char} (noDouble : stop ≠ '"')
    (noSimple : stop ≠ '\'') (rest : List Char) :
    readValue depth (renderText text ++ stop :: rest) = some (.str text, stop :: rest) := by
  have reads : readString (renderText text ++ stop :: rest) = some (text.toList, stop :: rest) :=
    readString_renderText text (fun head => noDouble (Option.some.inj head))
      fun head => noSimple (Option.some.inj head)
  obtain ⟨c, more, written, quote⟩ := exists_head_renderText text
  have scalar : readValue depth (renderText text ++ stop :: rest) =
      readScalar (renderText text ++ stop :: rest) := by
    rw [written]
    rcases quote with rfl | rfl <;> exact readValue_of_ne (by decide) (by decide) depth _
  rw [scalar, readScalar, reads]
  simp [Document.str]

theorem readValue_bracket (depth : Nat) (cs : List Char) : readValue depth (']' :: cs) = none := by
  have noMoment : readMoment (']' :: cs) = none :=
    @readMoment_digits [] cs ']' (List.forall_mem_nil _) rfl (by decide) (by decide)
  have noNumber : readNumber (']' :: cs) = none := rfl
  rw [readValue_of_ne (by decide) (by decide), readScalar, readString_of_ne (by decide) (by decide),
    noMoment, noNumber]
  rfl

/-! ## Lists -/

def readItem (read : Reader Document) : Reader Document := fun cs =>
  (read (skipGap false cs)).map fun (value, cs) => (value, skipGap false cs)

def itemLines (items : List String) (rest : List Char) : List Char :=
  '\n' :: (renderItemLines items ++ ']' :: rest)

section
variable {depth : Nat} {rest : List Char}

theorem skipGap_renderText (text : String) (rest : List Char) :
    skipGap false (renderText text ++ rest) = renderText text ++ rest ∧
      skipGap false ('\n' :: "    ".toList ++ (renderText text ++ rest)) = renderText text ++ rest := by
  obtain ⟨c, more, written, rfl | rfl⟩ := exists_head_renderText text <;>
    exact written ▸ ⟨rfl, rfl⟩

theorem readItem_of_skipGap {cs : List Char} {text : String} {stop : Char}
    (ends : stop = ',' ∨ stop = ']') (gap : skipGap false cs = renderText text ++ stop :: rest) :
    readItem (readValue depth) cs = some (.str text, stop :: rest) := by
  have reads : readValue depth (renderText text ++ stop :: rest) = some (.str text, stop :: rest) := by
    rcases ends with rfl | rfl <;> exact readValue_renderText depth text (by decide) (by decide) rest
  have stays : skipGap false (stop :: rest) = stop :: rest := by rcases ends with rfl | rfl <;> rfl
  simp only [readItem, gap, reads, Option.map_some, stays]

theorem itemLines_cons (text : String) (items : List String) :
    itemLines (text :: items) rest =
      '\n' :: "    ".toList ++ (renderText text ++ ',' :: itemLines items rest) := by
  simp [itemLines, renderItemLines]

theorem readItem_itemLines (text : String) (items : List String) :
    readItem (readValue depth) (itemLines (text :: items) rest) =
      some (.str text, ',' :: itemLines items rest) := by
  rw [itemLines_cons]
  exact readItem_of_skipGap (.inl rfl) (skipGap_renderText text _).2

theorem takes_itemLines (items : List String) :
    Takes (fun cs => (skip [','] cs).bind (readItem (readValue depth))) (',' :: itemLines items rest)
      (items.map Document.str) (',' :: itemLines [] rest) := by
  have behind (items : List String) :
      skip [','] (',' :: itemLines items rest) = some (itemLines items rest) := rfl
  induction items with
  | nil =>
      have closed : skipGap false (itemLines [] rest) = ']' :: rest := rfl
      refine .stop ?_
      rw [behind, Option.bind_some, readItem, closed, readValue_bracket]
      rfl
  | cons text items ih =>
      refine .more ?_ ?_ ih
      · rw [behind, Option.bind_some, readItem_itemLines]
      · rw [itemLines_cons]
        simp only [List.length_cons, List.length_append]
        omega

theorem readItems_of_separated {cs stop : List Char} {items : List Document}
    (separates : separated ',' (readItem (readValue depth)) cs = (items, stop))
    (closes : skip [']'] (skipGap false (if items.isEmpty then stop else (skip [','] stop).getD stop)) =
      some rest) : readItems (readValue depth) cs = some (.list items, rest) := by
  unfold readItem at separates
  simp only [readItems, separates, closes, Option.bind_eq_bind, Option.bind_some, Option.pure_def]

theorem separated_of_takes {cs next stop : List Char} {first : Document} {more : List Document}
    (taking : readItem (readValue depth) cs = some (first, next))
    (takes : Takes (fun cs => (skip [','] cs).bind (readItem (readValue depth))) next more stop) :
    separated ',' (readItem (readValue depth)) cs = (first :: more, stop) := by
  simp only [separated, taking, takes.many]

theorem readValue_texts (items : List String) :
    readValue (depth + 1) (renderLine (.texts items) ++ rest) =
      some (.list (items.map Document.str), rest) := by
  have opened (cs : List Char) : readValue (depth + 1) ('[' :: cs) = readItems (readValue depth) cs := rfl
  match items with
  | [] =>
      have nothing : separated ',' (readItem (readValue depth)) (']' :: rest) = ([], ']' :: rest) := by
        have closed : skipGap false (']' :: rest) = ']' :: rest := rfl
        simp only [separated, readItem, closed, readValue_bracket, Option.map_none]
      exact (opened _).trans (readItems_of_separated nothing rfl)
  | [item] =>
      have text : renderLine (.texts [item]) ++ rest = '[' :: (renderText item ++ ']' :: rest) := by
        simp [renderLine]
      rw [text, opened]
      have first : readItem (readValue depth) (renderText item ++ ']' :: rest) =
          some (.str item, ']' :: rest) :=
        readItem_of_skipGap (.inr rfl) (skipGap_renderText item _).1
      exact readItems_of_separated (separated_of_takes first (.stop rfl)) rfl
  | item :: next :: others =>
      have text : renderLine (.texts (item :: next :: others)) ++ rest =
          '[' :: itemLines (item :: next :: others) rest := by
        simp [renderLine, itemLines]
      rw [text, opened]
      exact readItems_of_separated
        (separated_of_takes (readItem_itemLines item _) (takes_itemLines (next :: others))) rfl

end

/-! ## All values -/

namespace Line

def document : Line → Document
  | text content => .str content
  | number value => .nat value
  | texts items => .list (items.map .str)

def fits : Line → Bool
  | number value => fitsInt64 value
  | _ => true

end Line

def documents (lines : List (String × Line)) : List (String × Document) :=
  lines.map fun line => (line.1, line.2.document)

theorem names_documents (lines : List (String × Line)) :
    (documents lines).map Prod.fst = lines.map Prod.fst := by
  rw [documents, List.map_map]
  rfl

theorem readValue_renderLine {line : Line} (fits : line.fits = true) (depth : Nat) (rest : List Char) :
    readValue (depth + 1) (renderLine line ++ '\n' :: rest) = some (line.document, '\n' :: rest) := by
  cases line with
  | text content => exact readValue_renderText (depth + 1) content (by decide) (by decide) rest
  | number value =>
      obtain ⟨c, digits, written, -, decimal⟩ := exists_head_toDigits value
      have isDigit := decimal c List.mem_cons_self
      have scalar := readScalar_toDigits fits rest
      rw [renderLine]
      rw [written, List.cons_append] at scalar ⊢
      rw [readValue_of_ne (ne_of_isDecimal isDigit rfl) (ne_of_isDecimal isDigit rfl), scalar]
      rfl
  | texts items => exact readValue_texts items

end NatReach.Toml
