import NatReach.Json.Reader
import NatReach.Json.Writer
import NatReach.Proofs.Text.Numeral

namespace NatReach

mutual

def Document.isIntegral : Document → Bool
  | .real _ => false
  | .list items => Document.areIntegral items
  | .table members => Document.haveIntegral members
  | _ => true

def Document.areIntegral : List Document → Bool
  | [] => true
  | item :: rest => item.isIntegral && Document.areIntegral rest

def Document.haveIntegral : List (Option String × Document) → Bool
  | [] => true
  | (_, value) :: rest => value.isIntegral && Document.haveIntegral rest

end

theorem Document.areIntegral_iff {items : List Document} :
    areIntegral items = true ↔ ∀ item ∈ items, item.isIntegral = true := by
  induction items with
  | nil => simp [areIntegral]
  | cons item rest ih => simp [areIntegral, ih]

theorem Document.haveIntegral_iff {members : List (Option String × Document)} :
    haveIntegral members = true ↔ ∀ member ∈ members, member.2.isIntegral = true := by
  induction members with
  | nil => simp [haveIntegral]
  | cons member rest ih => simp [haveIntegral, ih]

namespace Json

def Gap (text : List Char) : Prop := ∀ c ∈ text, isBlank c = true

instance (text : List Char) : Decidable (Gap text) :=
  List.decidableBAll (fun c => isBlank c = true) text

theorem gap_nil : Gap [] := by
  intro c member
  cases member

/-! ## Strings -/

inductive SpellsPiece : Piece → List Char → Prop
  | plain {c : Char} (notQuote : c ≠ '"') (notBackslash : c ≠ '\\') (visible : 0x20 ≤ c.toNat) :
      SpellsPiece (.char c) [c]
  | short {letter c : Char} (escaped : escaped? letter = some c) :
      SpellsPiece (.char c) ['\\', letter]
  | long {a b c d : Char} {digits : List Nat}
      (hex : [a, b, c, d].mapM Numeral.hexDigit? = some digits) :
      SpellsPiece (.unit (Numeral.ofDigits 16 digits)) ['\\', 'u', a, b, c, d]

inductive SpellsPieces : List Piece → List Char → Prop
  | nil : SpellsPieces [] []
  | cons {piece pieces front back} (first : SpellsPiece piece front)
      (others : SpellsPieces pieces back) : SpellsPieces (piece :: pieces) (front ++ back)

inductive Quotes : Option String → List Char → Prop
  | mk {pieces body} (spelled : SpellsPieces pieces body) :
      Quotes ((content pieces).map String.ofList) ('"' :: (body ++ ['"']))

/-! ## Numbers -/

def Digits (text : List Char) : Prop := text ≠ [] ∧ ∀ c ∈ text, Numeral.isDecimal c = true

def Whole (text : List Char) : Prop := Digits text ∧ (text.head? = some '0' → text = ['0'])

inductive Fraction : List Char → Prop
  | none : Fraction []
  | some {digits} (decimal : Digits digits) : Fraction ('.' :: digits)

inductive Exponent : List Char → Prop
  | none : Exponent []
  | some {mark sign digits} (marked : Phase.isMark mark = true)
      (signed : sign = [] ∨ sign = ['+'] ∨ sign = ['-']) (decimal : Digits digits) :
      Exponent (mark :: (sign ++ digits))

inductive SpellsNumber : Document → List Char → Prop
  | natural {digits n} (whole : Whole digits) (denotes : Numeral.readDecimal? digits = some n) :
      SpellsNumber (.int n) digits
  | negative {digits n} (whole : Whole digits) (notZero : digits ≠ ['0'])
      (denotes : Numeral.readDecimal? digits = some n) : SpellsNumber (.int (-n)) ('-' :: digits)
  | real {sign digits part power} (signed : sign = [] ∨ sign = ['-']) (whole : Whole digits)
      (fraction : Fraction part) (exponent : Exponent power)
      (notInt : part ++ power ≠ [] ∨ (sign = ['-'] ∧ digits = ['0'])) :
      SpellsNumber (.real (String.ofList (sign ++ digits ++ part ++ power)))
        (sign ++ digits ++ part ++ power)

/-! ## Documents -/

inductive Part where
  | value (document : Document)
  | element (document : Document)
  | elements (documents : List Document)
  | member (member : Option String × Document)
  | members (members : List (Option String × Document))

inductive Spells : Part → List Char → Prop
  | null : Spells (.value .null) ['n', 'u', 'l', 'l']
  | true : Spells (.value (.bool true)) ['t', 'r', 'u', 'e']
  | false : Spells (.value (.bool false)) ['f', 'a', 'l', 's', 'e']
  | number {document text} (number : SpellsNumber document text) : Spells (.value document) text
  | string {content text} (quotes : Quotes content text) : Spells (.value (.text content)) text
  | emptyList {gap} (blank : Gap gap) : Spells (.value (.list [])) ('[' :: (gap ++ [']']))
  | list {items body} (elements : Spells (.elements items) body) :
      Spells (.value (.list items)) ('[' :: (body ++ [']']))
  | emptyTable {gap} (blank : Gap gap) : Spells (.value (.table [])) ('{' :: (gap ++ ['}']))
  | table {entries body} (members : Spells (.members entries) body) :
      Spells (.value (.table entries)) ('{' :: (body ++ ['}']))
  | element {document before text after} (opens : Gap before) (value : Spells (.value document) text)
      (closes : Gap after) : Spells (.element document) (before ++ (text ++ after))
  | lastElement {document text} (element : Spells (.element document) text) :
      Spells (.elements [document]) text
  | moreElements {document documents text rest} (element : Spells (.element document) text)
      (others : Spells (.elements documents) rest) :
      Spells (.elements (document :: documents)) (text ++ ',' :: rest)
  | member {name document before quoted after text} (opens : Gap before)
      (quotes : Quotes name quoted) (closes : Gap after) (element : Spells (.element document) text) :
      Spells (.member (name, document)) (before ++ (quoted ++ (after ++ ':' :: text)))
  | lastMember {entry text} (member : Spells (.member entry) text) : Spells (.members [entry]) text
  | moreMembers {entry entries text rest} (member : Spells (.member entry) text)
      (others : Spells (.members entries) rest) :
      Spells (.members (entry :: entries)) (text ++ ',' :: rest)

/-! ## What is written -/

theorem Spells.bare {document : Document} {text : List Char} (value : Spells (.value document) text) :
    Spells (.element document) text := by
  simpa using Spells.element gap_nil value gap_nil

theorem content_unit {code : Nat} (control : code < 0x20) (rest : List Piece) :
    content (.unit code :: rest) = (content rest).map (Char.ofNat code :: ·) := by
  have notHigh : isHigh code = false := by
    simp only [isHigh, Bool.and_eq_false_iff, decide_eq_false_iff_not]
    omega
  have notLow : isLow code = false := by
    simp only [isLow, Bool.and_eq_false_iff, decide_eq_false_iff_not]
    omega
  cases rest with
  | nil => simp [content, notHigh, notLow]
  | cons piece rest => cases piece <;> simp [content, notHigh, notLow]

theorem spells_control {n : Nat} (control : n < 0x20) :
    SpellsPiece (.unit n) (['\\', 'u'] ++ Numeral.paddedHex 4 n) := by
  have zero : Numeral.hexDigit? '0' = some 0 := by decide
  have high := Numeral.hexDigit?_digitChar (n / 16) (by omega)
  have low := Numeral.hexDigit?_digitChar (n % 16) (by omega)
  have digits : ['0', '0', (n / 16).digitChar, (n % 16).digitChar].mapM Numeral.hexDigit? =
      some [0, 0, n / 16, n % 16] := by
    simp [zero, high, low]
  have value : Numeral.ofDigits 16 [0, 0, n / 16, n % 16] = n := by
    simp only [Numeral.ofDigits, List.foldl_cons, List.foldl_nil]
    omega
  have spelled := SpellsPiece.long digits
  rw [value] at spelled
  rwa [Numeral.paddedHex_of_control n control]

theorem spells_escapeChar (c : Char) :
    ∃ piece, SpellsPiece piece (escapeChar c) ∧
      ∀ rest, content (piece :: rest) = (content rest).map (c :: ·) := by
  unfold escapeChar
  split
  case h_8 notQuote notBackslash _ _ _ _ _ =>
    split
    · rename_i control
      refine ⟨.unit c.toNat, spells_control control, ?_⟩
      intro rest
      rw [content_unit control, Char.ofNat_toNat]
    · rename_i visible
      exact ⟨.char c, .plain notQuote notBackslash (Nat.not_lt.1 visible), fun _ => rfl⟩
  all_goals exact ⟨.char _, .short rfl, fun _ => rfl⟩

theorem spells_escaped (cs : List Char) :
    ∃ pieces, SpellsPieces pieces (cs.flatMap escapeChar) ∧ content pieces = some cs := by
  induction cs with
  | nil => exact ⟨[], .nil, rfl⟩
  | cons c cs ih =>
      obtain ⟨piece, first, stands⟩ := spells_escapeChar c
      obtain ⟨pieces, others, text⟩ := ih
      refine ⟨piece :: pieces, ?_, ?_⟩
      · rw [List.flatMap_cons]
        exact .cons first others
      · rw [stands, text]
        rfl

theorem quotes_quoted (text : Option String) : Quotes text (quoted text) := by
  cases text with
  | none =>
      have half : ['d', 'f', 'f', 'f'].mapM Numeral.hexDigit? = some [13, 15, 15, 15] := by decide
      exact .mk (.cons (.long half) .nil)
  | some text =>
      obtain ⟨pieces, spelled, stands⟩ := spells_escaped text.toList
      have quotes := Quotes.mk spelled
      rw [stands, Option.map_some, String.ofList_toList] at quotes
      exact quotes

theorem whole_toDigits (n : Nat) : Whole (Nat.toDigits 10 n) := by
  refine ⟨⟨Nat.toDigits_ne_nil, fun c => Numeral.isDecimal_of_mem_toDigits⟩, ?_⟩
  intro zero
  cases n with
  | zero => rfl
  | succ n =>
      obtain ⟨c, rest, digits, notZero⟩ := Numeral.toDigits_eq_cons (Nat.succ_pos n)
      rw [digits, List.head?_cons] at zero
      exact absurd (Option.some.inj zero) notZero

theorem render_int (value : Int) :
    render (.int value) =
      if 0 ≤ value then Nat.toDigits 10 value.toNat else '-' :: Nat.toDigits 10 (-value).toNat := by
  rw [render, Int.toString_eq_repr, Int.repr_eq_if]
  split
  · rw [Nat.toList_repr]
  · rw [String.toList_append, Nat.toList_repr]
    rfl

theorem spells_int (value : Int) : SpellsNumber (.int value) (render (.int value)) := by
  rw [render_int]
  split
  · rename_i natural
    have spelled := SpellsNumber.natural (whole_toDigits value.toNat)
      (Numeral.readDecimal?_toDigits value.toNat)
    rwa [Int.toNat_of_nonneg natural] at spelled
  · rename_i negative
    have notZero : Nat.toDigits 10 (-value).toNat ≠ ['0'] := by
      obtain ⟨c, rest, digits, notZero⟩ := Numeral.toDigits_eq_cons (n := (-value).toNat) (by omega)
      rw [digits]
      intro same
      exact notZero (List.cons.inj same).1
    have spelled := SpellsNumber.negative (whole_toDigits (-value).toNat) notZero
      (Numeral.readDecimal?_toDigits _)
    rwa [Int.toNat_of_nonneg (by omega), Int.neg_neg] at spelled

theorem renderItems_cons_cons (item next : Document) (rest : List Document) :
    renderItems (item :: next :: rest) = render item ++ ',' :: renderItems (next :: rest) := by
  rw [renderItems]
  intro same
  cases same

theorem spells_renderItems {items : List Document}
    (spelled : ∀ item ∈ items, Spells (.value item) (render item)) (nonempty : items ≠ []) :
    Spells (.elements items) (renderItems items) := by
  induction items with
  | nil => contradiction
  | cons item rest ih =>
      have first := (spelled item List.mem_cons_self).bare
      have others (item) (member : item ∈ rest) := spelled item (List.mem_cons_of_mem _ member)
      cases rest with
      | nil => exact .lastElement first
      | cons next rest =>
          rw [renderItems_cons_cons]
          exact .moreElements first (ih others nofun)

theorem renderMembers_cons_cons (name : Option String) (value : Document)
    (next : Option String × Document) (rest : List (Option String × Document)) :
    renderMembers ((name, value) :: next :: rest) =
      (quoted name ++ ':' :: render value) ++ ',' :: renderMembers (next :: rest) := by
  rw [renderMembers]
  intro same
  cases same

theorem spells_renderMembers {members : List (Option String × Document)}
    (spelled : ∀ member ∈ members, Spells (.value member.2) (render member.2))
    (nonempty : members ≠ []) : Spells (.members members) (renderMembers members) := by
  induction members with
  | nil => contradiction
  | cons member rest ih =>
      obtain ⟨name, value⟩ := member
      have first := (spelled (name, value) List.mem_cons_self).bare
      have others (member) (inRest : member ∈ rest) := spelled member (List.mem_cons_of_mem _ inRest)
      have member := Spells.member gap_nil (quotes_quoted name) gap_nil first
      rw [List.nil_append, List.nil_append] at member
      cases rest with
      | nil => exact .lastMember member
      | cons next rest =>
          rw [renderMembers_cons_cons]
          exact .moreMembers member (ih others nofun)

theorem spells_render (document : Document) (integral : document.isIntegral = true) :
    Spells (.value document) (render document) := by
  match document with
  | .null => exact .null
  | .bool true => exact .true
  | .bool false => exact .false
  | .int value => exact .number (spells_int value)
  | .real _ => cases integral
  | .text content => exact .string (quotes_quoted content)
  | .list [] => exact .emptyList gap_nil
  | .list (item :: rest) =>
      have parts := Document.areIntegral_iff.1 integral
      refine .list (spells_renderItems ?_ nofun)
      exact fun part member => spells_render part (parts part member)
  | .table [] => exact .emptyTable gap_nil
  | .table (entry :: rest) =>
      have parts := Document.haveIntegral_iff.1 integral
      refine .table (spells_renderMembers ?_ nofun)
      exact fun part inside => spells_render part.2 (parts part inside)
termination_by document
decreasing_by
  · have smaller := List.sizeOf_lt_of_mem member
    simp only [Document.list.sizeOf_spec]
    omega
  · have smaller := List.sizeOf_lt_of_mem inside
    obtain ⟨name, value⟩ := part
    simp only [Prod.mk.sizeOf_spec, Document.table.sizeOf_spec] at smaller ⊢
    omega

end Json
end NatReach
