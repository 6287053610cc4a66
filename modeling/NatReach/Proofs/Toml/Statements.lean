import NatReach.Proofs.Toml.Tree
import NatReach.Proofs.Toml.Values
import NatReach.Toml.Reader

namespace NatReach.Toml

/-! ## Paths -/

def Header.fits : Header → Prop
  | .none => True
  | .table path | .item path => path ≠ [] ∧ path.length ≤ maxNames

def renderOthers (names : List String) : List Char := names.flatMap fun name => '.' :: renderName name

theorem renderPath_cons (name : String) (names : List String) :
    renderPath (name :: names) = renderName name ++ renderOthers names := by
  induction names generalizing name with
  | nil => simp [renderPath, renderOthers]
  | cons other names ih =>
      have rest := ih other
      rw [renderPath, List.map_cons] at rest ⊢
      rw [List.map_cons, List.intercalate_cons_cons, rest]
      simp [renderOthers]

section
variable {rest : List Char}

theorem head_renderOthers (names : List String) :
    ∃ c cs, renderOthers names ++ ']' :: rest = c :: cs ∧ (c = '.' ∨ c = ']') := by
  cases names with
  | nil => exact ⟨']', rest, rfl, .inr rfl⟩
  | cons name names => exact ⟨'.', _, rfl, .inl rfl⟩

theorem readName_path (name : String) (names : List String) :
    readName (renderName name ++ (renderOthers names ++ ']' :: rest)) =
      some (name, renderOthers names ++ ']' :: rest) := by
  obtain ⟨c, cs, same, ends⟩ := head_renderOthers names
  rw [same, readName_renderName]
  · rcases ends with rfl | rfl <;> rfl
  · intro head isHead
    obtain rfl := Option.some.inj isHead
    rcases ends with rfl | rfl <;> rfl

theorem takes_others (names : List String) :
    Takes (fun cs => (skip ['.'] cs).bind readName) (renderOthers names ++ ']' :: rest) names
      (']' :: rest) := by
  induction names with
  | nil => exact .stop rfl
  | cons name names ih =>
      have text : renderOthers (name :: names) ++ ']' :: rest =
          '.' :: (renderName name ++ (renderOthers names ++ ']' :: rest)) := by
        simp [renderOthers]
      rw [text]
      refine .more (readName_path name names) ?_ ih
      simp only [List.length_cons, List.length_append]
      omega

theorem readKey_renderPath {path : List String} (some : path ≠ []) (few : path.length ≤ maxNames) :
    readKey (renderPath path ++ ']' :: rest) = .some (path, ']' :: rest) := by
  cases path with
  | nil => exact absurd rfl some
  | cons name names =>
      simp only [readKey, separated, renderPath_cons, List.append_assoc, readName_path,
        (takes_others names).many]
      rw [if_neg (by simpa using few)]

end

/-! ## Headers -/

namespace Header

def statements : Header → List Statement
  | none => []
  | table path => [.table path]
  | item path => [.item path]

end Header

theorem exists_head_renderPath {path : List String} (some : path ≠ []) :
    ∃ c rest, renderPath path = c :: rest ∧ c ≠ '[' := by
  cases path with
  | nil => exact absurd rfl some
  | cons name names =>
      obtain ⟨c, rest, written, first⟩ := exists_head_renderName name
      refine ⟨c, rest ++ renderOthers names, by rw [renderPath_cons, written, List.cons_append], ?_⟩
      rcases first with rfl | rfl | bare
      · decide
      · decide
      · rintro rfl
        cases bare

section
variable {path : List String}

theorem readHeader_table (fits : (Header.table path).fits) (cs : List Char) :
    readHeader (renderHeader (.table path) ++ cs) = some (.table path, '\n' :: cs) := by
  have text : renderHeader (.table path) ++ cs = '[' :: (renderPath path ++ ']' :: '\n' :: cs) := by
    simp [renderHeader]
  have key : readKey (renderPath path ++ ']' :: '\n' :: cs) = some (path, ']' :: '\n' :: cs) :=
    readKey_renderPath fits.1 fits.2
  -- a second bracket would open one more table of a list
  obtain ⟨c, more, written, noBracket⟩ := exists_head_renderPath fits.1
  rw [text]
  unfold readHeader
  split
  · rename_i same
    rw [written] at same
    exact absurd (List.cons.inj (List.cons.inj same).2).1 noBracket
  · rename_i same
    obtain rfl := (List.cons.inj same).2
    rw [key]
    rfl
  · rename_i noHeader
    exact absurd rfl (noHeader _)

theorem readHeader_item (fits : (Header.item path).fits) (cs : List Char) :
    readHeader (renderHeader (.item path) ++ cs) = some (.item path, '\n' :: cs) := by
  have text : renderHeader (.item path) ++ cs =
      '[' :: '[' :: (renderPath path ++ ']' :: ']' :: '\n' :: cs) := by
    simp [renderHeader]
  have key : readKey (renderPath path ++ ']' :: ']' :: '\n' :: cs) =
      some (path, ']' :: ']' :: '\n' :: cs) := readKey_renderPath fits.1 fits.2
  rw [text, readHeader, key]
  rfl

end

/-! ## Lines -/

def renderAssignment (assignment : String × Line) : List Char :=
  renderName assignment.1 ++ " = ".toList ++ renderLine assignment.2

theorem exists_head_renderLine (line : Line) :
    ∃ c rest, renderLine line = c :: rest ∧ isBlank c = false := by
  cases line with
  | text content =>
      obtain ⟨c, rest, written, rfl | rfl⟩ := exists_head_renderText content
      · exact ⟨'"', rest, written, rfl⟩
      · exact ⟨'\'', rest, written, rfl⟩
  | number value =>
      obtain ⟨c, rest, written, -, decimal⟩ := exists_head_toDigits value
      refine ⟨c, rest, written, Bool.eq_false_iff.2 fun blank => ?_⟩
      have isDigit := decimal c List.mem_cons_self
      simp only [isBlank, Bool.or_eq_true, beq_iff_eq] at blank
      rcases blank with blank | blank <;> exact ne_of_isDecimal isDigit rfl blank
  | texts items =>
      rcases items with _ | ⟨item, _ | ⟨next, others⟩⟩ <;> exact ⟨'[', _, rfl, rfl⟩

theorem readAssignment_render {assignment : String × Line} (fits : assignment.2.fits = true)
    (cs : List Char) :
    readAssignment (renderAssignment assignment ++ '\n' :: cs) =
      some (.value [assignment.1] assignment.2.document, '\n' :: cs) := by
  obtain ⟨name, line⟩ := assignment
  have text : renderAssignment (name, line) ++ '\n' :: cs =
      renderName name ++ ' ' :: '=' :: ' ' :: (renderLine line ++ '\n' :: cs) := by
    simp [renderAssignment]
  have named : readName (renderName name ++ ' ' :: '=' :: ' ' :: (renderLine line ++ '\n' :: cs)) =
      some (name, '=' :: ' ' :: (renderLine line ++ '\n' :: cs)) := by
    refine readName_renderName name fun c head => ?_
    obtain rfl := Option.some.inj head
    rfl
  have alone : many (fun cs => (skip ['.'] cs).bind readName)
      ('=' :: ' ' :: (renderLine line ++ '\n' :: cs)) =
        ([], '=' :: ' ' :: (renderLine line ++ '\n' :: cs)) :=
    Takes.many (.stop rfl)
  have key : readKey (renderName name ++ ' ' :: '=' :: ' ' :: (renderLine line ++ '\n' :: cs)) =
      some ([name], '=' :: ' ' :: (renderLine line ++ '\n' :: cs)) := by
    simp only [readKey, separated, named, alone]
    rfl
  have behind : skipBlanks (' ' :: (renderLine line ++ '\n' :: cs)) = renderLine line ++ '\n' :: cs := by
    obtain ⟨c, more, written, noBlank⟩ := exists_head_renderLine line
    have starts : ∀ d ∈ (c :: more ++ '\n' :: cs).head?, isBlank d = false :=
      fun _ head => Option.some.inj head ▸ noBlank
    rw [written]
    exact skipBlanks_of_head starts
  have pair : readPair (readValue maxDepth) (renderAssignment (name, line) ++ '\n' :: cs) =
      some (([name], line.document), '\n' :: cs) := by
    have value := readValue_renderLine fits 78 cs
    have depth : maxDepth = 78 + 1 := rfl
    have marked (cs : List Char) : skip ['='] ('=' :: cs) = some cs := rfl
    rw [text, readPair, key]
    simp only [Option.bind_eq_bind, Option.bind_some, marked, behind, depth, value]
    rfl
  rw [readAssignment, pair]
  rfl

theorem exists_head_renderAssignment (assignment : String × Line) :
    ∃ c rest, renderAssignment assignment = c :: rest ∧ isBlank c = false ∧ c ≠ '[' ∧ c ≠ '\uFEFF' := by
  obtain ⟨c, rest, written, first⟩ := exists_head_renderName assignment.1
  refine ⟨c, rest ++ " = ".toList ++ renderLine assignment.2, by simp [renderAssignment, written], ?_⟩
  rcases first with rfl | rfl | bare
  · decide
  · decide
  · refine ⟨(isBlank_of_isBare bare).1, ?_, ?_⟩ <;>
    · rintro rfl
      cases bare

theorem readHeader_of_ne {c : Char} (noBracket : c ≠ '[') (cs : List Char) :
    readHeader (c :: cs) = none := by
  unfold readHeader
  split
  · rename_i same
    exact absurd (List.cons.inj same).1 noBracket
  · rename_i same
    exact absurd (List.cons.inj same).1 noBracket
  · rfl

/-! ## Statements -/

section
variable {cs rest : List Char} {statements : List Statement}

theorem Takes.statement {text : List Char} {statement : Statement}
    (reads : ((readHeader text).or (readAssignment text)).getD (.blank, text) = (statement, '\n' :: cs))
    (noBlank : ∀ c ∈ text.head?, isBlank c = false) (longer : cs.length < text.length)
    (others : Takes readStatement cs statements rest) :
    Takes readStatement text (statement :: statements) rest := by
  refine .more ?_ longer others
  cases text with
  | nil => exact absurd longer (Nat.not_lt_zero _)
  | cons c text =>
      have ended : skipLineEnd ('\n' :: cs) = some cs := rfl
      simp only [readStatement, skipBlanks_of_head noBlank, reads, ended, Option.bind_eq_bind,
        Option.bind_some, Option.pure_def]

theorem Takes.blank (others : Takes readStatement cs statements rest) :
    Takes readStatement ('\n' :: cs) (.blank :: statements) rest :=
  .statement rfl (fun _ head => Option.some.inj head ▸ rfl) (Nat.lt_succ_self _) others

theorem Takes.header {header : Header} (fits : header.fits)
    (others : Takes readStatement cs statements rest) :
    Takes readStatement (renderHeader header ++ cs) (header.statements ++ statements) rest := by
  cases header with
  | none => exact others
  | table path =>
      refine .statement ?_ (fun _ head => Option.some.inj head ▸ rfl) ?_ others
      · rw [readHeader_table fits]
        rfl
      · simp [renderHeader]
        omega
  | item path =>
      refine .statement ?_ (fun _ head => Option.some.inj head ▸ rfl) ?_ others
      · rw [readHeader_item fits]
        rfl
      · simp [renderHeader]
        omega

theorem Takes.assignment {assignment : String × Line} (fits : assignment.2.fits = true)
    (others : Takes readStatement cs statements rest) :
    Takes readStatement (renderAssignment assignment ++ '\n' :: cs)
      (.value [assignment.1] assignment.2.document :: statements) rest := by
  obtain ⟨c, more, written, noBlank, noBracket, -⟩ := exists_head_renderAssignment assignment
  refine .statement ?_ ?_ ?_ others
  · rw [readAssignment_render fits, written, List.cons_append, readHeader_of_ne noBracket]
    rfl
  · rw [written]
    exact fun _ head => Option.some.inj head ▸ noBlank
  · simp only [List.length_append, List.length_cons]
    omega

end

/-! ## Blocks -/

namespace Block

def statements (block : Block) : List Statement :=
  block.header.statements ++ assignments (documents block.lines)

theorem fits_iff {block : Block} : block.fits = true ↔ ∀ line ∈ block.lines, line.2.fits = true := by
  rw [fits, List.all_eq_true]
  refine forall₂_congr fun line _ => ?_
  obtain ⟨name, value⟩ := line
  cases value <;> rfl

end Block

theorem renderBlock_eq (block : Block) :
    renderBlock block =
      renderHeader block.header ++ block.lines.flatMap fun line => renderAssignment line ++ ['\n'] := by
  simp [renderBlock, renderAssignment]

theorem Takes.block {block : Block} (header : block.header.fits) (fits : block.fits = true)
    {cs rest : List Char} {statements : List Statement}
    (others : Takes readStatement cs statements rest) :
    Takes readStatement (renderBlock block ++ cs) (block.statements ++ statements) rest := by
  rw [Block.fits_iff] at fits
  rw [renderBlock_eq, Block.statements, List.append_assoc, List.append_assoc]
  refine .header header ?_
  generalize block.lines = lines at fits
  induction lines with
  | nil => exact others
  | cons line lines ih =>
      rw [List.forall_mem_cons] at fits
      have next := Takes.assignment fits.1 (ih fits.2)
      rw [List.flatMap_cons, List.append_assoc, List.append_assoc]
      exact next

def betweenBlanks (blocks : List Block) : List Statement :=
  [.blank].intercalate (blocks.map Block.statements)

theorem takes_blocks {blocks : List Block} (headers : ∀ block ∈ blocks, block.header.fits)
    (fits : ∀ block ∈ blocks, block.fits = true) :
    Takes readStatement (['\n'].intercalate (blocks.map renderBlock)) (betweenBlanks blocks) [] := by
  induction blocks with
  | nil => exact .stop rfl
  | cons block blocks ih =>
      rw [List.forall_mem_cons] at headers fits
      have others := ih headers.2 fits.2
      cases blocks with
      | nil =>
          have nothing : Takes readStatement [] [] [] := .stop rfl
          have last := Takes.block headers.1 fits.1 nothing
          rw [List.append_nil, List.append_nil] at last
          rw [betweenBlanks, List.map_singleton, List.map_singleton, List.intercalate_singleton,
            List.intercalate_singleton]
          exact last
      | cons next blocks =>
          have more := Takes.block headers.1 fits.1 others.blank
          simp only [betweenBlanks, List.map_cons, List.intercalate_cons_cons, List.append_assoc,
            List.singleton_append] at more ⊢
          exact more

theorem foldlM_betweenBlanks (blocks : List Block) (draft : Draft) :
    (betweenBlanks blocks).foldlM Draft.step draft =
      (blocks.flatMap Block.statements).foldlM Draft.step draft := by
  induction blocks generalizing draft with
  | nil => rfl
  | cons block blocks ih =>
      rw [List.flatMap_cons, List.foldlM_append, betweenBlanks, List.map_cons]
      cases blocks with
      | nil =>
          rw [List.map_nil, List.intercalate_singleton]
          exact (Option.bind_fun_some _).symm
      | cons next blocks =>
          rw [List.map_cons, List.intercalate_cons_cons, List.append_assoc, List.foldlM_append]
          exact congrArg _ (funext ih)

theorem exists_head_renderBlock {block : Block} (some : renderBlock block ≠ []) :
    ∃ c rest, renderBlock block = c :: rest ∧ c ≠ '\uFEFF' := by
  obtain ⟨header, lines⟩ := block
  rw [renderBlock_eq] at some ⊢
  cases header with
  | none =>
      cases lines with
      | nil => exact absurd rfl some
      | cons line lines =>
          obtain ⟨c, rest, written, -, -, noMark⟩ := exists_head_renderAssignment line
          simp only [renderHeader, List.nil_append, List.flatMap_cons, written, List.cons_append]
          exact ⟨c, _, rfl, noMark⟩
  | table path => exact ⟨'[', _, rfl, by decide⟩
  | item path => exact ⟨'[', _, rfl, by decide⟩

theorem dropMark_blocks {blocks : List Block} (some : ∀ block ∈ blocks, renderBlock block ≠ []) :
    dropMark (['\n'].intercalate (blocks.map renderBlock)) =
      ['\n'].intercalate (blocks.map renderBlock) := by
  cases blocks with
  | nil => rfl
  | cons block blocks =>
      obtain ⟨c, rest, written, noMark⟩ := exists_head_renderBlock (some block List.mem_cons_self)
      have head : ∃ behind, ['\n'].intercalate ((block :: blocks).map renderBlock) = c :: behind := by
        cases blocks with
        | nil => exact ⟨rest, by simp [written]⟩
        | cons next blocks => exact ⟨_, by simp [List.intercalate_cons_cons, written]; rfl⟩
      obtain ⟨behind, head⟩ := head
      rw [head]
      unfold dropMark
      split
      · rename_i same
        exact absurd (List.cons.inj same).1 noMark
      · rfl

theorem statements_of_renderBlock {block : Block} (nothing : renderBlock block = []) :
    block.statements = [] := by
  obtain ⟨header, lines⟩ := block
  cases header with
  | none =>
      cases lines with
      | nil => rfl
      | cons line lines =>
          obtain ⟨c, rest, written, -⟩ := exists_head_renderAssignment line
          simp [renderBlock_eq, written] at nothing
  | table path => cases nothing
  | item path => cases nothing

theorem flatMap_statements_filter (blocks : List Block) :
    (blocks.filter ((fun text => !text.isEmpty) ∘ renderBlock)).flatMap Block.statements =
      blocks.flatMap Block.statements := by
  induction blocks with
  | nil => rfl
  | cons block blocks ih =>
      rw [List.flatMap_cons, ← ih]
      by_cases nothing : renderBlock block = []
      · rw [List.filter_cons_of_neg (by simp [nothing]), statements_of_renderBlock nothing,
          List.nil_append]
      · rw [List.filter_cons_of_pos (by simp [nothing]), List.flatMap_cons]

theorem read_render {blocks : List Block} (headers : ∀ block ∈ blocks, block.header.fits)
    {text : List Char} (rendered : render? blocks = some text) :
    read text = assemble? (blocks.flatMap Block.statements) := by
  unfold render? at rendered
  split at rendered
  · rename_i fits
    rw [List.all_eq_true] at fits
    cases rendered
    rw [List.filter_map]
    generalize shown : blocks.filter ((fun text => !text.isEmpty) ∘ renderBlock) = written
    have inside (block) (member : block ∈ written) : block ∈ blocks ∧ renderBlock block ≠ [] := by
      rw [← shown, List.mem_filter] at member
      exact ⟨member.1, by simpa using member.2⟩
    have takes := takes_blocks (fun block member => headers block (inside block member).1)
      fun block member => fits block (inside block member).1
    have same : written.flatMap Block.statements = blocks.flatMap Block.statements :=
      shown ▸ flatMap_statements_filter blocks
    rw [read, dropMark_blocks fun block member => (inside block member).2, takes.many, ← same]
    simp only [assemble?, foldlM_betweenBlanks]
  · cases rendered

end NatReach.Toml
