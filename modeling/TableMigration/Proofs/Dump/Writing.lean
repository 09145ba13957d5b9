import TableMigration.Proofs.Dump.Rows
import TableMigration.Proofs.Text.Decimal

/-!
# Writing dumps

A dump as a client may write it: a header, then rows and blank lines, each line ended in its own
way. `read_layout` says that each of the three dumps reads back as the rows that were written.
-/

namespace TableMigration.Dump

/-- A line below the header. -/
inductive Item (α : Type) where
  /-- A row, with so many carriage returns behind it. -/
  | row (row : α) (returns : Nat)
  | blank (text : List Char)
deriving DecidableEq

/-- The lines of a dump. -/
structure Layout (α : Type) where
  header : List Char
  items : List (Item α)
  /-- A line feed ends the last line too. -/
  closed : Bool

namespace Item

variable {α : Type}

def row? : Item α → Option α
  | row r _ => some r
  | blank _ => none

/-- The line without its line feed. -/
def line (render : α → List Char) : Item α → List Char
  | row r returns => render r ++ List.replicate returns '\r'
  | blank text => text

/-- A row that fits on a line, or a line of blanks. -/
def Fits (fits : α → Prop) : Item α → Prop
  | row r _ => fits r
  | blank text => ∀ c ∈ text, c ≠ '\n' ∧ Text.isBlank c = true

instance {fits : α → Prop} [DecidablePred fits] : DecidablePred (Fits fits)
  | row r _ => inferInstanceAs (Decidable (fits r))
  | blank text => List.decidableBAll (fun c => c ≠ '\n' ∧ Text.isBlank c = true) text

end Item

namespace Layout

variable {α : Type}

def rows (layout : Layout α) : List α :=
  layout.items.filterMap Item.row?

/-- What stands between the line feeds; behind a line feed that closes the dump, nothing. -/
def lines (render : α → List Char) (layout : Layout α) : List (List Char) :=
  layout.header :: (layout.items.map (Item.line render) ++ if layout.closed then [[]] else [])

/-- The dump, with the text of each row given by `render`. -/
def text (render : α → List Char) (layout : Layout α) : List Char :=
  ['\n'].intercalate (layout.lines render)

/-- The header stands on one line, and so does all below it. -/
def Fits (fits : α → Prop) (layout : Layout α) : Prop :=
  '\n' ∉ layout.header ∧ ∀ item ∈ layout.items, item.Fits fits

instance {fits : α → Prop} [DecidablePred fits] (layout : Layout α) :
    Decidable (layout.Fits fits) :=
  inferInstanceAs (Decidable ('\n' ∉ layout.header ∧ ∀ item ∈ layout.items, item.Fits fits))

end Layout

/-! ### Lines -/

/-- A text that is read as the line of a row just as it stands. -/
structure IsRowLine (line : List Char) : Prop where
  oneLine : '\n' ∉ line
  noReturn : line.getLast? ≠ some '\r'
  notBlank : ∃ c ∈ line, Text.isBlank c = false

theorem dropEndWhile_returns {line : List Char} (h : line.getLast? ≠ some '\r') (returns : Nat) :
    Text.dropEndWhile (· == '\r') (line ++ List.replicate returns '\r') = line := by
  induction returns with
  | zero =>
    rw [List.replicate_zero, List.append_nil, Text.dropEndWhile_eq_rdropWhile,
      List.rdropWhile_eq_self_iff]
    intro nonempty ends
    exact h ((List.getLast?_eq_some_getLast nonempty).trans (congrArg some (by simpa using ends)))
  | succ n ih =>
    rw [List.replicate_succ', ← List.append_assoc, Text.dropEndWhile_concat, if_pos (by rfl), ih]

theorem trim_dropEndWhile_of_blank {text : List Char} (h : ∀ c ∈ text, Text.isBlank c = true)
    (p : Char → Bool) : Text.trim (Text.dropEndWhile p text) = [] := by
  rw [Text.trim_eq_nil_iff, Text.dropEndWhile_eq_rdropWhile]
  exact fun c member => h c ((List.rdropWhile_prefix p text).subset member)

theorem map_fst_dataLines (text : List Char) :
    (dataLines text).map (·.1) =
      (((text.splitOn '\n').drop 1).map (Text.dropEndWhile (· == '\r'))).filter
        fun line => !(Text.trim line).isEmpty := by
  have unnumbered : ∀ (lines : List (List Char)) (n : Nat),
      (((lines.zipIdx n).filter fun line => !(Text.trim line.1).isEmpty).map (·.1)) =
        lines.filter fun line => !(Text.trim line).isEmpty := by
    intro lines
    induction lines with
    | nil => intro n; rfl
    | cons line rest ih =>
      intro n
      rw [List.zipIdx_cons, List.filter_cons, List.filter_cons, ← ih (n + 1)]
      split <;> rfl
  obtain ⟨header, rest, cut⟩ := List.exists_cons_of_ne_nil (List.splitOn_ne_nil '\n' text)
  rw [dataLines, cut, List.map_cons, List.zipIdx_cons, List.drop_succ_cons, List.drop_zero,
    unnumbered, List.drop_succ_cons, List.drop_zero]

section

variable {α : Type} {render : α → List Char} {fits : α → Prop}

theorem kept_items {items : List (Item α)} (rowLine : ∀ r, fits r → IsRowLine (render r))
    (h : ∀ item ∈ items, item.Fits fits) :
    (((items.map (Item.line render)).map (Text.dropEndWhile (· == '\r'))).filter
        fun line => !(Text.trim line).isEmpty) = (items.filterMap Item.row?).map render := by
  induction items with
  | nil => rfl
  | cons item items ih =>
    have later := ih fun other member => h other (List.mem_cons_of_mem _ member)
    have here := h item List.mem_cons_self
    rw [List.map_cons, List.map_cons]
    cases item with
    | row r returns =>
      have good := rowLine r here
      have kept : Text.trim (render r) ≠ [] := fun blank => by
        obtain ⟨c, member, mark⟩ := good.notBlank
        rw [Text.trim_eq_nil_iff.mp blank c member] at mark
        cases mark
      rw [Item.line, dropEndWhile_returns good.noReturn, List.filter_cons_of_pos (by simpa using kept),
        later]
      rfl
    | blank text =>
      have gone := trim_dropEndWhile_of_blank (fun c member => (here c member).2) (· == '\r')
      rw [Item.line, List.filter_cons_of_neg (by simp [gone]), later]
      rfl

theorem oneLine_lines {layout : Layout α} (rowLine : ∀ r, fits r → IsRowLine (render r))
    (h : layout.Fits fits) : ∀ line ∈ layout.lines render, '\n' ∉ line := by
  intro line member
  rcases List.mem_cons.mp member with rfl | member
  · exact h.1
  rcases List.mem_append.mp member with member | last
  · obtain ⟨item, inside, rfl⟩ := List.mem_map.mp member
    have here := h.2 item inside
    cases item with
    | row r returns =>
      rw [Item.line, List.mem_append]
      rintro (first | later)
      · exact (rowLine r here).oneLine first
      · exact absurd (List.eq_of_mem_replicate later) (by decide)
    | blank text => exact fun inside => (here '\n' inside).1 rfl
  · split at last <;> simp_all

theorem readRows_layout {kind : Kind} {read : List Char → Except RowFault α} {layout : Layout α}
    (rowLine : ∀ r, fits r → IsRowLine (render r)) (reads : ∀ r, fits r → read (render r) = .ok r)
    (h : layout.Fits fits) :
    readRows kind read (String.ofList (layout.text render)) = .ok layout.rows := by
  -- The header is dropped, the lines of blanks are not kept, and the others lose their returns.
  have kept : (dataLines (layout.text render)).map (·.1) = layout.rows.map render := by
    rw [map_fst_dataLines, Layout.text,
      List.splitOn_intercalate '\n' (oneLine_lines rowLine h) (List.cons_ne_nil _ _), Layout.lines,
      List.drop_succ_cons, List.drop_zero, List.map_append, List.filter_append,
      kept_items rowLine h.2]
    split <;> simp [Layout.rows, Text.dropEndWhile, Text.trim, Text.trimStart, Text.trimEnd]
  have fit : ∀ r ∈ layout.rows, fits r := by
    intro r member
    obtain ⟨item, inside, same⟩ := List.mem_filterMap.mp member
    cases item with
    | row r' returns => exact Option.some.inj same ▸ h.2 _ inside
    | blank text => cases same
  rw [readRows_eq_ok_iff, String.toList_ofList]
  have pairs : List.Forall₂ (fun line row => read line = .ok row)
      ((dataLines (layout.text render)).map (·.1)) layout.rows := by
    rw [kept, List.forall₂_map_left_iff, List.forall₂_same]
    exact fun r member => reads r (fit r member)
  rwa [List.forall₂_map_left_iff] at pairs

end

/-! ### Fields -/

/-- Fields with a tab between each two. -/
def joined (fields : List String) : List Char :=
  ['\t'].intercalate (fields.map String.toList)

theorem joined_cons {field : String} {fields : List String} (h : fields ≠ []) :
    joined (field :: fields) = field.toList ++ '\t' :: joined fields := by
  rw [joined, List.map_cons, List.intercalate_cons_of_ne_nil (by simpa using h), List.append_assoc]
  rfl

theorem of_mem_joined {fields : List String} {c : Char} (h : c ∈ joined fields) :
    c = '\t' ∨ ∃ field ∈ fields, c ∈ field.toList := by
  induction fields with
  | nil => simp [joined] at h
  | cons field rest ih =>
    by_cases last : rest = []
    · subst last
      exact .inr ⟨field, List.mem_cons_self, by simpa [joined] using h⟩
    · rw [joined_cons last, List.mem_append, List.mem_cons] at h
      rcases h with here | tab | later
      · exact .inr ⟨field, List.mem_cons_self, here⟩
      · exact .inl tab
      · exact (ih later).imp_right fun ⟨f, member, inside⟩ =>
          ⟨f, List.mem_cons_of_mem _ member, inside⟩

theorem newline_not_mem_joined {fields : List String} (h : ∀ field ∈ fields, '\n' ∉ field.toList) :
    '\n' ∉ joined fields := fun member =>
  (of_mem_joined member).elim (by decide) fun ⟨field, inside, newline⟩ => h field inside newline

theorem getLast?_joined {fields : List String} {last : String} (several : fields ≠ [])
    (h : last.toList.getLast? ≠ some '\r') : (joined (fields ++ [last])).getLast? ≠ some '\r' := by
  induction fields with
  | nil => exact absurd rfl several
  | cons field rest ih =>
    rw [List.cons_append, joined_cons (by simp), List.getLast?_append, List.getLast?_cons]
    -- An empty last field leaves the tab before it at the end.
    by_cases more : rest = []
    · subst more
      rw [List.nil_append, joined, List.map_singleton, List.intercalate_singleton]
      cases ends : last.toList.getLast? with
      | none => simp
      | some c => simpa [ends] using h
    · have later := ih more
      cases ends : (joined (rest ++ [last])).getLast? with
      | none => simp
      | some c => simpa [ends] using later

theorem splitOn_joined (fields : List String) (nonempty : fields ≠ [])
    (h : ∀ field ∈ fields, '\t' ∉ field.toList) :
    ((joined fields).splitOn '\t').map String.ofList = fields := by
  rw [joined, List.splitOn_intercalate '\t' (by simpa using h) (by simpa using nonempty),
    List.map_map]
  exact List.map_id'' (fun _ => String.ofList_toList) fields

theorem cutAtFirst_append {separator : Char} {piece : List Char} (h : separator ∉ piece) (n : Nat)
    (rest : List Char) :
    cutAtFirst separator (n + 1) (piece ++ separator :: rest) =
      piece :: cutAtFirst separator n rest := by
  have apart : ∀ c ∈ piece, (c != separator) = true := fun c member =>
    bne_iff_ne.mpr fun same => h (same ▸ member)
  rw [cutAtFirst, List.dropWhile_append_of_pos apart, List.takeWhile_append_of_pos apart]
  simp

/-! ### Rows -/

/-- The fields of a row of indexes as they are written, the position in decimal. -/
def IndexRow.written (row : IndexRow) : List String :=
  [row.table, row.nonUnique, row.name, toString row.position, row.column, row.extra]

/-- Fields that can stand on one line and be told apart. -/
def ArePlain (fields : List String) : Prop :=
  ∀ field ∈ fields, '\t' ∉ field.toList ∧ '\n' ∉ field.toList

instance : DecidablePred ArePlain := fun fields =>
  inferInstanceAs (Decidable (∀ field ∈ fields, '\t' ∉ field.toList ∧ '\n' ∉ field.toList))

/-- The line is more than blanks, and no carriage return at its end is part of it. -/
def EndsWell (fields : List String) : Prop :=
  (∃ c ∈ joined fields, Text.isBlank c = false) ∧
    ∀ field ∈ fields.getLast?, field.toList.getLast? ≠ some '\r'

instance : DecidablePred EndsWell := fun fields =>
  haveI := List.decidableBEx (fun c => Text.isBlank c = false) (joined fields)
  inferInstanceAs (Decidable ((∃ c ∈ joined fields, Text.isBlank c = false) ∧
    ∀ field ∈ fields.getLast?, field.toList.getLast? ≠ some '\r'))

/-- A row of indexes may have tabs in its last field. -/
def IndexRow.Fits (row : IndexRow) : Prop :=
  ArePlain row.written.dropLast ∧ '\n' ∉ row.extra.toList ∧ EndsWell row.written ∧
    0 < row.position ∧ row.position ≤ maxPosition

instance : DecidablePred IndexRow.Fits := fun row =>
  inferInstanceAs (Decidable (ArePlain row.written.dropLast ∧ '\n' ∉ row.extra.toList ∧
    EndsWell row.written ∧ 0 < row.position ∧ row.position ≤ maxPosition))

theorem isRowLine_joined (fields : List String) {last : String} (several : fields ≠ [])
    (oneLine : ∀ field ∈ fields ++ [last], '\n' ∉ field.toList) (ends : EndsWell (fields ++ [last])) :
    IsRowLine (joined (fields ++ [last])) where
  oneLine := newline_not_mem_joined oneLine
  noReturn := getLast?_joined several (ends.2 last (by simp))
  notBlank := ends.1

theorem ColumnRow.read_joined {row : ColumnRow} (plain : ArePlain row.fields) :
    read (joined row.fields) = .ok row := by
  rw [read, splitOn_joined row.fields (List.cons_ne_nil _ _)
    fun field member => (plain field member).1]
  rfl

theorem ForeignKeyRow.read_joined {row : ForeignKeyRow} (plain : ArePlain row.fields) :
    read (joined row.fields) = .ok row := by
  rw [read, splitOn_joined row.fields (List.cons_ne_nil _ _)
    fun field member => (plain field member).1]
  rfl

theorem IndexRow.read_joined {row : IndexRow} (fits : row.Fits) :
    read (joined row.written) = .ok row := by
  obtain ⟨plain, -, -, positive, bounded⟩ := fits
  have apart : ∀ field ∈ row.written.dropLast, '\t' ∉ field.toList :=
    fun field member => (plain field member).1
  simp only [written, List.dropLast, List.forall_mem_cons] at apart
  obtain ⟨table, nonUnique, name, position, column, -⟩ := apart
  have pieces : cutAtFirst '\t' 5 (joined row.written) = row.written.map String.toList := by
    rw [written, joined_cons (by simp), joined_cons (by simp), joined_cons (by simp),
      joined_cons (by simp), joined_cons (by simp), cutAtFirst_append table,
      cutAtFirst_append nonUnique, cutAtFirst_append name, cutAtFirst_append position,
      cutAtFirst_append column]
    simp [cutAtFirst, joined]
  rw [read, pieces]
  simp only [written, List.map, readPosition?_toString positive bounded, String.ofList_toList]

/-- What was written reads back, row by row, whatever header and blank lines stand beside the rows
and however the lines end. -/
theorem read_layout :
    (∀ layout : Layout ColumnRow,
      layout.Fits (fun row => ArePlain row.fields ∧ EndsWell row.fields) →
      readColumnRows (String.ofList (layout.text fun row => joined row.fields)) =
        .ok layout.rows) ∧
    (∀ layout : Layout IndexRow, layout.Fits IndexRow.Fits →
      readIndexRows (String.ofList (layout.text fun row => joined row.written)) =
        .ok layout.rows) ∧
    ∀ layout : Layout ForeignKeyRow,
      layout.Fits (fun row => ArePlain row.fields ∧ EndsWell row.fields) →
      readForeignKeyRows (String.ofList (layout.text fun row => joined row.fields)) =
        .ok layout.rows := by
  refine ⟨fun layout fits => ?_, fun layout fits => ?_, fun layout fits => ?_⟩
  · refine readRows_layout (fun row ⟨plain, ends⟩ => ?_) (fun row fit => row.read_joined fit.1) fits
    exact isRowLine_joined row.fields.dropLast (List.cons_ne_nil _ _)
      (fun field member => (plain field member).2) ends
  · refine readRows_layout (fun row fit => ?_) (fun row fit => row.read_joined fit) fits
    obtain ⟨plain, extra, ends, -⟩ := fit
    refine isRowLine_joined row.written.dropLast (List.cons_ne_nil _ _) ?_ ends
    intro field member
    rcases List.mem_append.mp member with before | last
    · exact (plain field before).2
    · exact List.mem_singleton.mp last ▸ extra
  · refine readRows_layout (fun row ⟨plain, ends⟩ => ?_) (fun row fit => row.read_joined fit.1) fits
    exact isRowLine_joined row.fields.dropLast (List.cons_ne_nil _ _)
      (fun field member => (plain field member).2) ends

theorem read_layout_posts :
    let columns : Layout ColumnRow := {
      header := "Field\tType\r".toList
      items := [.row ⟨"id", "int(10)", "NO", "PRI", "NULL", "", ""⟩ 1, .blank ['\r'],
        .row ⟨"\r", " ", "", "", "", "", "x\r "⟩ 0]
      closed := true }
    let indexes : Layout IndexRow := {
      header := []
      items := [.blank [' ', '\t'], .row ⟨"posts", "0", "", maxPosition, "id", "A\t0\tBTREE"⟩ 2,
        .blank [], .row ⟨" ", "", "PRIMARY", 1, "id", ""⟩ 1]
      closed := false }
    let foreignKeys : Layout ForeignKeyRow := {
      header := ['\t']
      items := [.row ⟨"fk", "", "users", "id", "", ""⟩ 0, .blank ['\x0b', '\u2003']]
      closed := false }
    (columns.Fits (fun row => ArePlain row.fields ∧ EndsWell row.fields) ∧
      readColumnRows (String.ofList (columns.text fun row => joined row.fields)) =
        .ok columns.rows) ∧
    (indexes.Fits IndexRow.Fits ∧
      readIndexRows (String.ofList (indexes.text fun row => joined row.written)) =
        .ok indexes.rows) ∧
    foreignKeys.Fits (fun row => ArePlain row.fields ∧ EndsWell row.fields) ∧
      readForeignKeyRows (String.ofList (foreignKeys.text fun row => joined row.fields)) =
        .ok foreignKeys.rows :=
  ⟨⟨by decide +kernel, read_layout.1 _ (by decide +kernel)⟩,
    ⟨by decide +kernel, read_layout.2.1 _ (by decide +kernel)⟩,
    by decide +kernel, read_layout.2.2 _ (by decide +kernel)⟩

end TableMigration.Dump
