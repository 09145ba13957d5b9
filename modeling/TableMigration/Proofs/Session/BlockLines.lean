import TableMigration.Proofs.Session.OneLine

/-!
# Blocks line by line

The blocks of a session after any loads. `lines_run` says that no text of the session has a line
feed, so each statement has a line to itself, and the indent of a block is in front of its lines and
nowhere else.
-/

namespace TableMigration

/-! ### Texts -/

def Column.texts (column : Column) : List String :=
  [column.field, column.name, column.rawType, column.method] ++ column.args.values ++
    column.defaultValue.toList ++ [column.comment]

def Index.texts (index : Index) : List String :=
  index.name :: index.columns

def ForeignKey.texts (key : ForeignKey) : List String :=
  [key.name, key.localColumn, key.referencedTable, key.referencedColumn, key.onUpdate, key.onDelete]

theorem Column.OneLine.texts {column : Column} (h : column.OneLine)
    (field : Text.OneLine column.field) (rawType : Text.OneLine column.rawType) :
    ∀ text ∈ column.texts, Text.OneLine text := by
  have default : ∀ text ∈ column.defaultValue.toList, Text.OneLine text := by
    intro text member
    exact h.defaultValue text (Option.mem_toList.mp member)
  simp only [Column.texts, List.forall_mem_append, List.forall_mem_cons]
  exact ⟨⟨⟨⟨field, h.name, rawType, h.method, List.forall_mem_nil _⟩, h.args⟩, default⟩, h.comment,
    List.forall_mem_nil _⟩

theorem Index.OneLine.texts {index : Index} (h : index.OneLine) :
    ∀ text ∈ index.texts, Text.OneLine text :=
  List.forall_mem_cons.mpr ⟨h.name, h.columns⟩

theorem ForeignKey.OneLine.texts {key : ForeignKey} (h : key.OneLine) :
    ∀ text ∈ key.texts, Text.OneLine text := by
  simp only [ForeignKey.texts, List.forall_mem_cons]
  exact ⟨h.name, h.localColumn, h.referencedTable, h.referencedColumn, h.onUpdate, h.onDelete,
    List.forall_mem_nil _⟩

/-- A column also keeps the field and the type of its row, which its statement does not show. -/
theorem Column.oneLine_texts_listOfRows {rows : List Dump.ColumnRow}
    (h : ∀ row ∈ rows, ∀ field ∈ row.fields, Text.OneLine field) :
    ∀ column ∈ listOfRows rows, ∀ text ∈ column.texts, Text.OneLine text := by
  intro column member
  obtain ⟨row, last, declared⟩ := exists_last?_listOfRows rows column member
  have fields := h row (Keyed.last?_eq_some _ last).1
  have kept : column.field = row.field ∧ column.rawType = row.type := by
    rcases declared with rfl | ⟨method, -, rfl⟩ <;> exact ⟨rfl, rfl⟩
  have field : Text.OneLine column.field := by
    rw [kept.1]
    exact fields _ (by simp [Dump.ColumnRow.fields])
  have rawType : Text.OneLine column.rawType := by
    rw [kept.2]
    exact fields _ (by simp [Dump.ColumnRow.fields])
  exact (oneLine_listOfRows h column member).texts field rawType

/-! ### Lines of a block -/

namespace Statement

/-- The text of a block of statements: one a line, and spaces before each line but the first. -/
structure IsBlock (indent : Nat) (statements : List String) (text : String) : Prop where
  untrimmed : text = ("\n" ++ "".pushn ' ' indent).intercalate statements ++ "\n"
  empty : statements = [] → text = "\n"
  lines : ∀ (first : String) (rest : List String), statements = first :: rest →
    text.toList.splitOn '\n' =
      first.toList ::
        (rest.map (fun statement => List.replicate indent ' ' ++ statement.toList) ++ [[]])

/-- The texts have the same lines, but for `n` and `m` spaces before each line after the first. -/
def SameButIndents (n m : Nat) (s t : String) : Prop :=
  ∃ (first : List Char) (rest : List (List Char)),
    s.toList.splitOn '\n' = first :: (rest.map (List.replicate n ' ' ++ ·) ++ [[]]) ∧
      t.toList.splitOn '\n' = first :: (rest.map (List.replicate m ' ' ++ ·) ++ [[]])

variable {statements : List String}

theorem isBlock_block (indent : Nat) (h : ∀ statement ∈ statements, IsLine statement) :
    IsBlock indent statements (block indent statements) where
  untrimmed := by rw [block, trimmed_joined h]
  empty := by
    rintro rfl
    rw [block, String.intercalate_nil]
    decide
  lines := by
    rintro first rest rfl
    rw [toList_block h]
    exact splitOn_joined (fun statement member => (h statement member).oneLine) 0

theorem IsBlock.sameButIndents {n m : Nat} {s t : String} (hs : IsBlock n statements s)
    (ht : IsBlock m statements t) : SameButIndents n m s t := by
  cases statements with
  | nil =>
    rw [hs.empty rfl, ht.empty rfl]
    have line : "\n".toList.splitOn '\n' = [[], []] := by decide
    exact ⟨[], [], line, line⟩
  | cons first rest =>
    refine ⟨first.toList, rest.map String.toList, ?_, ?_⟩
    · rw [hs.lines first rest rfl, List.map_map]
      rfl
    · rw [ht.lines first rest rfl, List.map_map]
      rfl

end Statement

/-! ### Sessions -/

def Blocks.ofKind (blocks : Blocks) : Dump.Kind → String
  | .columns => blocks.columns
  | .indexes => blocks.indexes
  | .foreignKeys => blocks.foreignKeys

namespace Session

/-- The texts of all columns, indexes and foreign keys. -/
def texts (session : Session) : List String :=
  session.columns.flatMap Column.texts ++ session.indexes.flatMap Index.texts ++
    session.foreignKeys.flatMap ForeignKey.texts

def statements (session : Session) : Dump.Kind → List String
  | .columns => session.columns.map Column.statement
  | .indexes => session.indexes.map Index.statement
  | .foreignKeys => session.foreignKeys.map ForeignKey.statement

theorem OneLine.isLine {session : Session} (h : session.OneLine) (kind : Dump.Kind) :
    ∀ statement ∈ session.statements kind, Statement.IsLine statement := by
  cases kind with
  | columns => exact List.forall_mem_map.mpr fun column member => (h.columns column member).isLine
  | indexes => exact List.forall_mem_map.mpr fun index member => (h.indexes index member).isLine
  | foreignKeys => exact List.forall_mem_map.mpr fun key member => (h.foreignKeys key member).isLine

theorem ofKind_blocks (session : Session) (indent : Nat) (kind : Dump.Kind) :
    (session.blocks indent).ofKind kind = Statement.block indent (session.statements kind) := by
  cases kind <;> rfl

theorem exists_rows_of_mem_columns (table : String) (loads : List Load) {column : Column}
    (member : column ∈ ((start table).run loads).columns) :
    ∃ rows, (∀ row ∈ rows, ∀ field ∈ Dump.ColumnRow.fields row, Text.OneLine field) ∧
      column ∈ Column.listOfRows rows := by
  rw [run_start] at member
  change column ∈ columnsOf loads at member
  unfold columnsOf at member
  split at member
  · rename_i rows _ found
    obtain ⟨load, -, read, -⟩ := (lastLoad?_eq_some_iff _).mp found
    cases load with
    | columns dump =>
      have read : Dump.readColumnRows dump = .ok rows := by
        rw [Load.columnRows?] at read
        cases result : Dump.readColumnRows dump with
        | ok same => rw [result] at read; exact congrArg _ (Option.some.inj read)
        | error fault => rw [result] at read; cases read
      exact ⟨rows, Dump.oneLine_of_readColumnRows read, member⟩
    | indexes dump => cases read
    | foreignKeys dump => cases read
  · cases member

theorem oneLine_texts_run (table : String) (loads : List Load) :
    ∀ text ∈ ((start table).run loads).texts, Text.OneLine text := by
  have line := oneLine_run (oneLine_start table) loads
  intro text member
  simp only [texts, List.mem_append, List.mem_flatMap] at member
  rcases member with (⟨column, kept, inside⟩ | ⟨index, kept, inside⟩) | ⟨key, kept, inside⟩
  · obtain ⟨rows, oneLine, declared⟩ := exists_rows_of_mem_columns table loads kept
    exact Column.oneLine_texts_listOfRows oneLine column declared text inside
  · exact (line.indexes index kept).texts text inside
  · exact (line.foreignKeys key kept).texts text inside

/-- After any loads no text of the session has a line feed, each block has one statement a line, and
the indent shows only in the spaces before its lines. -/
theorem lines_run (table : String) (loads : List Load) :
    (∀ text ∈ ((start table).run loads).texts, Text.OneLine text) ∧
      ∀ kind,
        (∀ indent, Statement.IsBlock indent (((start table).run loads).statements kind)
          ((((start table).run loads).blocks indent).ofKind kind)) ∧
        ∀ n m, Statement.SameButIndents n m ((((start table).run loads).blocks n).ofKind kind)
          ((((start table).run loads).blocks m).ofKind kind) := by
  have isLine := (oneLine_run (oneLine_start table) loads).isLine
  have isBlock : ∀ kind indent, Statement.IsBlock indent (((start table).run loads).statements kind)
      ((((start table).run loads).blocks indent).ofKind kind) := by
    intro kind indent
    rw [ofKind_blocks]
    exact Statement.isBlock_block indent (isLine kind)
  refine ⟨oneLine_texts_run table loads, fun kind => ⟨isBlock kind, fun n m => ?_⟩⟩
  exact (isBlock kind n).sameButIndents (isBlock kind m)

end Session

end TableMigration
