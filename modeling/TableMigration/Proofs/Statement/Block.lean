import TableMigration.Proofs.Statement.OneLine

/-!
# Blocks of statements

A block can be read back line by line: `statementsIn_block` says that it has exactly the statements
that it was put together from, in their order, whatever the indent.
-/

namespace TableMigration.Statement

/-- The statements in a block of text: its lines without their indents, but for empty ones. -/
def statementsIn (block : String) : List String :=
  ((block.toList.splitOn '\n').map fun line => String.ofList (line.dropWhile (· == ' '))).filter
    (· ≠ "")

/-- A statement on one line: from the variable of the table to the semicolon. -/
structure IsLine (statement : String) : Prop where
  oneLine : Text.OneLine statement
  first : statement.toList.head? = some '$'
  last : statement.toList.getLast? = some ';'

theorem IsLine.bounds {statement : String} (h : IsLine statement) :
    ∃ middle, statement.toList = '$' :: (middle ++ [';']) := by
  obtain ⟨rest, shape⟩ := List.head?_eq_some_iff.mp h.first
  have last := h.last
  rw [shape, List.getLast?_cons] at last
  cases ends : rest.getLast? with
  | none => rw [ends] at last; exact absurd last (by decide)
  | some c =>
    rw [ends] at last
    obtain ⟨middle, rfl⟩ := List.getLast?_eq_some_iff.mp ends
    obtain rfl : c = ';' := Option.some.inj last
    exact ⟨middle, shape⟩

/-! ### One line -/

theorem toList_indent (n : Nat) : ("".pushn ' ' n).toList = List.replicate n ' ' := by
  rw [String.pushn_eq_repeat_push]
  induction n with
  | zero => rfl
  | succ n ih => rw [Nat.repeat, String.toList_push, ih, List.replicate_succ']

theorem IsLine.dropIndent {statement : String} (h : IsLine statement) (n : Nat) :
    (List.replicate n ' ' ++ statement.toList).dropWhile (· == ' ') = statement.toList := by
  obtain ⟨middle, shape⟩ := h.bounds
  rw [List.dropWhile_append_of_pos fun c member => by simp [List.eq_of_mem_replicate member], shape]
  rfl

theorem IsLine.ne_empty {statement : String} (h : IsLine statement) : statement ≠ "" := by
  rintro rfl
  cases h.first

theorem newline_not_mem_indented {line : String} (h : Text.OneLine line) (n : Nat) :
    '\n' ∉ List.replicate n ' ' ++ line.toList := by
  rw [List.mem_append, not_or]
  exact ⟨fun member => absurd (List.eq_of_mem_replicate member) (by decide), h⟩

/-! ### Blocks -/

section

variable {indent : Nat} {statements : List String}

theorem bounds_intercalate (separator : String) (nonempty : statements ≠ [])
    (h : ∀ statement ∈ statements, IsLine statement) :
    ∃ middle, (separator.intercalate statements).toList = '$' :: (middle ++ [';']) := by
  induction statements with
  | nil => exact absurd rfl nonempty
  | cons statement rest ih =>
    obtain ⟨middle, shape⟩ := (h statement List.mem_cons_self).bounds
    cases rest with
    | nil => exact ⟨middle, by rw [String.intercalate_singleton, shape]⟩
    | cons next rest =>
      obtain ⟨middle', shape'⟩ := ih (List.cons_ne_nil next rest) fun later member =>
        h later (List.mem_cons_of_mem _ member)
      refine ⟨middle ++ ';' :: (separator.toList ++ '$' :: middle'), ?_⟩
      rw [String.intercalate_cons_of_ne_nil (List.cons_ne_nil next rest), String.toList_append,
        String.toList_append, shape, shape']
      simp

theorem trimmed_joined (h : ∀ statement ∈ statements, IsLine statement) :
    Text.trimmed (("\n" ++ "".pushn ' ' indent).intercalate statements) =
      ("\n" ++ "".pushn ' ' indent).intercalate statements := by
  by_cases nonempty : statements = []
  · rw [nonempty, String.intercalate_nil]
    decide
  · obtain ⟨middle, shape⟩ := bounds_intercalate ("\n" ++ "".pushn ' ' indent) nonempty h
    have whole := Text.trim_cons_append_cons (c := '$') (d := ';') (by decide) (by decide) middle []
    rw [Text.trimmed, shape, whole, show Text.trimEnd [] = [] from rfl, ← shape,
      String.ofList_toList]

theorem toList_block (h : ∀ statement ∈ statements, IsLine statement) :
    (block indent statements).toList =
      (("\n" ++ "".pushn ' ' indent).intercalate statements).toList ++ ['\n'] := by
  rw [block, trimmed_joined h, String.toList_append]
  rfl

theorem splitOn_joined {first : String} {rest : List String}
    (h : ∀ statement ∈ first :: rest, Text.OneLine statement) (n : Nat) :
    (List.replicate n ' ' ++
        ((("\n" ++ "".pushn ' ' indent).intercalate (first :: rest)).toList ++ ['\n'])).splitOn
          '\n' =
      (List.replicate n ' ' ++ first.toList) ::
        (rest.map (fun statement => List.replicate indent ' ' ++ statement.toList) ++ [[]]) := by
  -- What follows the first line starts with the indent, so the induction allows for spaces.
  induction rest generalizing first n with
  | nil =>
    have line := newline_not_mem_indented (h first List.mem_cons_self) n
    rw [String.intercalate_singleton, ← List.append_assoc,
      List.splitOn_append_cons_self_of_not_mem line]
    rfl
  | cons next rest ih =>
    have line := newline_not_mem_indented (h first List.mem_cons_self) n
    have later := ih (fun later member => h later (List.mem_cons_of_mem _ member)) indent
    rw [String.intercalate_cons_of_ne_nil (List.cons_ne_nil next rest), String.toList_append,
      String.toList_append, String.toList_append (s := "\n"), toList_indent]
    simp only [List.append_assoc]
    rw [show "\n".toList = ['\n'] from rfl, List.singleton_append, ← List.append_assoc,
      List.splitOn_append_cons_self_of_not_mem line, later]
    rfl

theorem statementsIn_joined (h : ∀ statement ∈ statements, IsLine statement) (n : Nat) :
    statementsIn (String.ofList (List.replicate n ' ' ++
        ((("\n" ++ "".pushn ' ' indent).intercalate statements).toList ++ ['\n']))) =
      statements := by
  rw [statementsIn, String.toList_ofList]
  cases statements with
  | nil =>
    have spaces : '\n' ∉ List.replicate n ' ' := fun member =>
      absurd (List.eq_of_mem_replicate member) (by decide)
    have blank : (List.replicate n ' ').dropWhile (· == ' ') = [] :=
      List.dropWhile_eq_nil_iff.mpr fun c member => by simp [List.eq_of_mem_replicate member]
    rw [String.intercalate_nil, show "".toList ++ ['\n'] = '\n' :: [] from rfl,
      List.splitOn_append_cons_self_of_not_mem spaces, List.map_cons, blank]
    decide
  | cons first rest =>
    -- A statement starts with no space, so the whole indent is dropped and nothing else.
    have unindented : ∀ statement ∈ first :: rest, ∀ n, String.ofList
        ((List.replicate n ' ' ++ statement.toList).dropWhile (· == ' ')) = statement :=
      fun statement member n => by rw [(h statement member).dropIndent, String.ofList_toList]
    have others : (rest.map fun statement => List.replicate indent ' ' ++ statement.toList).map
        (fun line => String.ofList (line.dropWhile (· == ' '))) = rest := by
      rw [List.map_map]
      refine (List.map_congr_left fun statement member => ?_).trans (List.map_id rest)
      exact unindented statement (List.mem_cons_of_mem _ member) indent
    have kept : (first :: rest).filter (· ≠ "") = first :: rest :=
      List.filter_eq_self.mpr fun statement member => by simpa using (h statement member).ne_empty
    rw [splitOn_joined fun statement member => (h statement member).oneLine, List.map_cons,
      List.map_append, others, unindented first List.mem_cons_self, ← List.cons_append,
      List.filter_append, kept]
    simp

/-- A block has exactly the statements that it was put together from, in their order. -/
theorem statementsIn_block (h : ∀ statement ∈ statements, IsLine statement) :
    statementsIn (block indent statements) = statements := by
  rw [← String.ofList_toList (s := block indent statements), toList_block h]
  exact statementsIn_joined h 0

end

/-! ### Lines of any text -/

theorem statementsIn_append (a b : List Char) :
    statementsIn (String.ofList (a ++ '\n' :: b)) =
      statementsIn (String.ofList a) ++ statementsIn (String.ofList b) := by
  simp only [statementsIn, String.toList_ofList, List.splitOn_append_cons_self, List.map_append,
    List.filter_append]

theorem statementsIn_lines (lines : List (List Char)) :
    statementsIn (String.ofList (lines.flatMap fun line => line ++ ['\n'])) =
      lines.flatMap fun line => statementsIn (String.ofList line) := by
  induction lines with
  | nil => decide
  | cons line lines ih =>
    rw [List.flatMap_cons, List.append_assoc, List.singleton_append, statementsIn_append, ih,
      List.flatMap_cons]

theorem statementsIn_indented {line : String} (oneLine : Text.OneLine line) {c : Char}
    (first : line.toList.head? = some c) (mark : c ≠ ' ') (n : Nat) :
    statementsIn (String.ofList (List.replicate n ' ' ++ line.toList)) = [line] := by
  obtain ⟨rest, shape⟩ := List.head?_eq_some_iff.mp first
  have whole := newline_not_mem_indented oneLine n
  have start : (List.replicate n ' ' ++ line.toList).dropWhile (· == ' ') = line.toList := by
    rw [List.dropWhile_append_of_pos fun d member => by simp [List.eq_of_mem_replicate member],
      shape, List.dropWhile_cons_of_neg (by simpa using mark)]
  have nonempty : line ≠ "" := by
    rintro rfl
    cases shape
  rw [statementsIn, String.toList_ofList, List.splitOn_eq_singleton whole, List.map_singleton, start,
    String.ofList_toList, List.filter_cons_of_pos (by simpa using nonempty), List.filter_nil]

theorem statementsIn_indented_block {statements : List String} (indent : Nat)
    (h : ∀ statement ∈ statements, IsLine statement) (n : Nat) :
    statementsIn (String.ofList (List.replicate n ' ' ++ (block indent statements).toList)) =
      statements := by
  rw [toList_block h]
  exact statementsIn_joined h n

end TableMigration.Statement

namespace TableMigration

/-! ### The three kinds -/

theorem first_append {s t : String} (h : s.toList.head? = some '$') :
    (s ++ t).toList.head? = some '$' := by
  rw [String.toList_append, List.head?_append, h]
  rfl

theorem last_append {s t : String} (h : t.toList.getLast? = some ';') :
    (s ++ t).toList.getLast? = some ';' := by
  rw [String.toList_append, List.getLast?_append, h]
  rfl

theorem Column.OneLine.isLine {column : Column} (h : column.OneLine) :
    Statement.IsLine column.statement where
  oneLine := h.statement
  first := by
    unfold Column.statement
    iterate 6 apply first_append
    decide
  last := by
    unfold Column.statement
    exact last_append (by decide)

theorem Index.OneLine.isLine {index : Index} (h : index.OneLine) :
    Statement.IsLine index.statement where
  oneLine := h.statement
  first := by
    unfold Index.statement
    split
    · iterate 2 apply first_append
      decide
    · iterate 6 apply first_append
      decide
  last := by
    unfold Index.statement
    split <;> exact last_append (by decide)

theorem ForeignKey.OneLine.isLine {key : ForeignKey} (h : key.OneLine) :
    Statement.IsLine key.statement where
  oneLine := h.statement
  first := by
    unfold ForeignKey.statement
    iterate 9 apply first_append
    decide
  last := by
    unfold ForeignKey.statement
    exact last_append (by decide)

end TableMigration
