import TableMigration.Proofs.Dump.WellFormed
import TableMigration.Session

/-!
# First faults

Which dumps cannot be read, and what is reported then. `faults_exact` says that a dump is refused
exactly for its first line that is neither blank nor well-formed, that the carriage returns before
line feeds make no difference, and that a table is refused for the first of its dumps that is.
-/

namespace TableMigration.Dump

/-- What may stand below the header: a line with a row, or blanks only. -/
def Kind.Admits (line : List Char) (kind : Kind) : Prop :=
  (∀ c ∈ line, Text.isBlank c = true) ∨ kind.WellFormed line

/-- The report on the first line below the header that is not admitted. The number of the line counts
every line, and its text is shown without the carriage returns at its end. -/
def IsFirstFault (kind : Kind) (text : String) (e : MalformedRow) : Prop :=
  ∃ header before line after,
    text.toList.splitOn '\n' = header :: (before ++ line :: after) ∧
      (∀ earlier ∈ before, kind.Admits earlier) ∧ ¬kind.Admits line ∧
      e = { kind
            line := (header :: before).length + 1
            fault := kind.faultOf line
            row := String.ofList (line.rdropWhile (· == '\r')) }

/-! ### Reading line by line -/

theorem trim_stripped_eq_nil_iff {line : List Char} :
    Text.trim (line.rdropWhile (· == '\r')) = [] ↔ ∀ c ∈ line, Text.isBlank c = true := by
  rw [Text.trim_eq_nil_iff]
  constructor
  · intro blanks c member
    rw [← List.rdropWhile_append_rtakeWhile (p := (· == '\r')) (l := line),
      List.mem_append] at member
    rcases member with kept | taken
    · exact blanks c kept
    · obtain rfl : c = '\r' := by simpa using List.mem_rtakeWhile_imp taken
      decide
  · intro blanks c member
    exact blanks c ((List.rdropWhile_prefix _ line).subset member)

section

variable {α : Type} {kind : Kind} {read : List Char → Except RowFault α}

/-- The rows of lines that are counted from `first`. -/
def rowsFrom (kind : Kind) (read : List Char → Except RowFault α) (first : Nat)
    (lines : List (List Char)) : Except MalformedRow (List α) :=
  (((lines.map (Text.dropEndWhile (· == '\r'))).zipIdx first).filter
    fun line => !(Text.trim line.1).isEmpty).mapM fun line =>
      (read line.1).mapError fun fault =>
        { kind, line := line.2, fault, row := String.ofList line.1 }

theorem readRows_of_lines {text : String} {header : List Char} {lines : List (List Char)}
    (cut : text.toList.splitOn '\n' = header :: lines) :
    readRows kind read text = rowsFrom kind read 2 lines := by
  unfold readRows dataLines rowsFrom
  rw [cut, List.map_cons, List.zipIdx_cons, List.drop_succ_cons, List.drop_zero]

theorem rowsFrom_blank {line : List Char} (blank : ∀ c ∈ line, Text.isBlank c = true) (first : Nat)
    (rest : List (List Char)) :
    rowsFrom kind read first (line :: rest) = rowsFrom kind read (first + 1) rest := by
  have gone := trim_stripped_eq_nil_iff.mpr blank
  unfold rowsFrom
  rw [List.map_cons, List.zipIdx_cons, Text.dropEndWhile_eq_rdropWhile,
    List.filter_cons_of_neg (by simp [gone])]

theorem rowsFrom_cons {line : List Char} (solid : ¬∀ c ∈ line, Text.isBlank c = true) (first : Nat)
    (rest : List (List Char)) :
    rowsFrom kind read first (line :: rest) =
      match read (line.rdropWhile (· == '\r')) with
      | .ok row => (rowsFrom kind read (first + 1) rest).map (row :: ·)
      | .error fault =>
        .error
          { kind, line := first, fault, row := String.ofList (line.rdropWhile (· == '\r')) } := by
  have kept := mt trim_stripped_eq_nil_iff.mp solid
  unfold rowsFrom
  rw [List.map_cons, List.zipIdx_cons, Text.dropEndWhile_eq_rdropWhile,
    List.filter_cons_of_pos (by simpa using kept), List.mapM_cons]
  dsimp only
  cases read (line.rdropWhile (· == '\r')) with
  | error fault => rfl
  | ok row =>
    show (rowsFrom kind read (first + 1) rest >>= fun rows => pure (row :: rows)) =
      (rowsFrom kind read (first + 1) rest).map (row :: ·)
    cases rowsFrom kind read (first + 1) rest <;> rfl

/-- Lines that are admitted give rows, and what follows them is read with their numbers counted. -/
theorem rowsFrom_admitted (reads : kind.ReadBy read) {before : List (List Char)}
    (admitted : ∀ line ∈ before, kind.Admits line) (first : Nat) (rest : List (List Char)) :
    ∃ rows, rowsFrom kind read first (before ++ rest) =
      (rowsFrom kind read (first + before.length) rest).map (rows ++ ·) := by
  induction before generalizing first with
  | nil =>
    refine ⟨[], ?_⟩
    rw [List.nil_append, List.length_nil, Nat.add_zero]
    cases rowsFrom kind read first rest <;> rfl
  | cons line before ih =>
    rw [List.forall_mem_cons] at admitted
    obtain ⟨rows, later⟩ := ih admitted.2 (first + 1)
    have counted : first + 1 + before.length = first + (line :: before).length := by
      rw [List.length_cons]
      omega
    rw [counted] at later
    -- A blank line counts, but adds no row.
    by_cases blank : ∀ c ∈ line, Text.isBlank c = true
    · exact ⟨rows, by rw [List.cons_append, rowsFrom_blank blank, later]⟩
    · obtain ⟨row, accepted⟩ := reads.accepts _
        ((kind.wellFormed_stripped line).mpr (admitted.1.resolve_left blank))
      refine ⟨row :: rows, ?_⟩
      rw [List.cons_append, rowsFrom_cons blank, accepted, later]
      cases rowsFrom kind read (first + (line :: before).length) rest <;> rfl

theorem rowsFrom_refused (reads : kind.ReadBy read) {line : List Char} (h : ¬kind.Admits line)
    (first : Nat) (rest : List (List Char)) :
    rowsFrom kind read first (line :: rest) =
      .error
        { kind
          line := first
          fault := kind.faultOf line
          row := String.ofList (line.rdropWhile (· == '\r')) } := by
  unfold Kind.Admits at h
  rw [not_or] at h
  have refused := reads.refuses _ (mt (kind.wellFormed_stripped line).mp h.2)
  rw [rowsFrom_cons h.1, refused, kind.faultOf_stripped]

/-! ### Whole dumps -/

/-- The dump with a carriage return before each of its line feeds. -/
def withReturns (text : String) : String :=
  String.ofList (text.toList.flatMap fun c => if c = '\n' then ['\r', '\n'] else [c])

/-- A dump is read exactly if every line below its header is admitted, and otherwise refused for the
first that is not. Carriage returns before the line feeds make no difference. -/
structure Exact (kind : Kind) (read : String → Except MalformedRow (List α)) : Prop where
  reads : ∀ text, (∃ rows, read text = .ok rows) ↔
    ∀ line ∈ (text.toList.splitOn '\n').drop 1, kind.Admits line
  reports : ∀ text e, read text = .error e ↔ IsFirstFault kind text e
  returns : ∀ text, read (withReturns text) = read text

theorem readRows_ok (reads : kind.ReadBy read) {text : String}
    (admitted : ∀ line ∈ (text.toList.splitOn '\n').drop 1, kind.Admits line) :
    ∃ rows, readRows kind read text = .ok rows := by
  obtain ⟨header, lines, cut⟩ := List.exists_cons_of_ne_nil (List.splitOn_ne_nil '\n' text.toList)
  rw [cut, List.drop_succ_cons, List.drop_zero] at admitted
  obtain ⟨rows, read⟩ := rowsFrom_admitted reads admitted 2 []
  rw [List.append_nil] at read
  exact ⟨rows ++ [], by rw [readRows_of_lines cut, read]; rfl⟩

theorem readRows_error (reads : kind.ReadBy read) {text : String} {e : MalformedRow}
    (h : IsFirstFault kind text e) : readRows kind read text = .error e := by
  obtain ⟨header, before, line, after, cut, admitted, refused, rfl⟩ := h
  obtain ⟨rows, read⟩ := rowsFrom_admitted reads admitted 2 (line :: after)
  have counted : 2 + before.length = (header :: before).length + 1 := by
    rw [List.length_cons]
    omega
  rw [readRows_of_lines cut, read, rowsFrom_refused reads refused, counted]
  rfl

theorem exists_firstFault {text : String}
    (h : ¬∀ line ∈ (text.toList.splitOn '\n').drop 1, kind.Admits line) :
    ∃ e, IsFirstFault kind text e := by
  classical
  obtain ⟨header, lines, cut⟩ := List.exists_cons_of_ne_nil (List.splitOn_ne_nil '\n' text.toList)
  rw [cut, List.drop_succ_cons, List.drop_zero] at h
  cases found : lines.find? fun line => ¬kind.Admits line with
  | none => exact absurd (by simpa using found) h
  | some line =>
    obtain ⟨refused, before, after, split, admitted⟩ := List.find?_eq_some_iff_append.mp found
    exact ⟨_, header, before, line, after, split ▸ cut, by simpa using admitted,
      by simpa using refused, rfl⟩

theorem stripped_withReturns (s : List Char) :
    ((s.flatMap fun c => if c = '\n' then ['\r', '\n'] else [c]).splitOn '\n').map
        (Text.dropEndWhile (· == '\r')) =
      (s.splitOn '\n').map (Text.dropEndWhile (· == '\r')) := by
  induction s with
  | nil => rfl
  | cons c s ih =>
    rw [List.flatMap_cons, List.splitOn_cons_eq_if_modifyHead]
    by_cases newline : c = '\n'
    · subst newline
      rw [if_pos rfl, if_pos (by decide), List.map_cons, ← ih]
      show ((['\r'] ++ '\n' :: _).splitOn '\n').map _ = _
      rw [List.splitOn_append_cons_self, List.map_append]
      rfl
    · rw [if_neg newline, if_neg (by simpa using newline), List.singleton_append,
        List.splitOn_cons_eq_if_modifyHead, if_neg (by simpa using newline)]
      obtain ⟨piece, pieces, cut⟩ := List.exists_cons_of_ne_nil (List.splitOn_ne_nil '\n' s)
      obtain ⟨piece', pieces', cut'⟩ := List.exists_cons_of_ne_nil
        (List.splitOn_ne_nil '\n' (s.flatMap fun c => if c = '\n' then ['\r', '\n'] else [c]))
      rw [cut, cut', List.map_cons, List.map_cons] at ih
      obtain ⟨same, others⟩ := List.cons.inj ih
      rw [cut, cut', List.modifyHead_cons, List.modifyHead_cons, List.map_cons, List.map_cons, others,
        Text.dropEndWhile, Text.dropEndWhile, same]

theorem exact_readRows (reads : kind.ReadBy read) : Exact kind (readRows kind read) where
  reads := by
    refine fun text => ⟨fun ⟨rows, ok⟩ => ?_, readRows_ok reads⟩
    by_contra refused
    obtain ⟨e, fault⟩ := exists_firstFault refused
    rw [readRows_error reads fault] at ok
    cases ok
  reports := by
    refine fun text e => ⟨fun failed => ?_, readRows_error reads⟩
    by_cases admitted : ∀ line ∈ (text.toList.splitOn '\n').drop 1, kind.Admits line
    · obtain ⟨rows, ok⟩ := readRows_ok reads admitted
      rw [ok] at failed
      cases failed
    · obtain ⟨e', fault⟩ := exists_firstFault admitted
      rw [readRows_error reads fault] at failed
      exact Except.error.inj failed ▸ fault
  returns := by
    intro text
    unfold readRows dataLines withReturns
    rw [String.toList_ofList, stripped_withReturns]

end

/-! ### The three dumps of a table -/

theorem migrationOf_error_iff (table columns indexes foreignKeys : String) (template : Template)
    (indent : Nat) (e : MalformedRow) :
    migrationOf table columns indexes foreignKeys template indent = .error e ↔
      readColumnRows columns = .error e ∨
      (∃ rows, readColumnRows columns = .ok rows) ∧ readIndexRows indexes = .error e ∨
      (∃ rows, readColumnRows columns = .ok rows) ∧ (∃ rows, readIndexRows indexes = .ok rows) ∧
        readForeignKeyRows foreignKeys = .error e := by
  simp only [migrationOf, Session.loadColumns_eq, Session.loadIndexes_eq,
    Session.loadForeignKeys_eq]
  cases readColumnRows columns with
  | error fault => simp [Except.map, bind, Except.bind]
  | ok columnRows =>
    cases readIndexRows indexes with
    | error fault => simp [Except.map, bind, Except.bind]
    | ok indexRows =>
      cases readForeignKeyRows foreignKeys <;>
        simp [Except.map, bind, Except.bind, pure, Except.pure]

/-- Each of the three dumps is read or refused exactly, and a table is refused for the first of its
dumps that is. -/
theorem faults_exact :
    Exact .columns readColumnRows ∧ Exact .indexes readIndexRows ∧
      Exact .foreignKeys readForeignKeyRows ∧
      ∀ table columns indexes foreignKeys template indent,
        ((∃ e, migrationOf table columns indexes foreignKeys template indent = .error e) ↔
          (∃ e, readColumnRows columns = .error e) ∨ (∃ e, readIndexRows indexes = .error e) ∨
            ∃ e, readForeignKeyRows foreignKeys = .error e) ∧
        ∀ e, migrationOf table columns indexes foreignKeys template indent = .error e ↔
          readColumnRows columns = .error e ∨
          (∃ rows, readColumnRows columns = .ok rows) ∧ readIndexRows indexes = .error e ∨
          (∃ rows, readColumnRows columns = .ok rows) ∧ (∃ rows, readIndexRows indexes = .ok rows) ∧
            readForeignKeyRows foreignKeys = .error e := by
  refine ⟨exact_readRows columns_readBy, exact_readRows indexes_readBy,
    exact_readRows foreignKeys_readBy, ?_⟩
  intro table columns indexes foreignKeys template indent
  refine ⟨?_, migrationOf_error_iff table columns indexes foreignKeys template indent⟩
  simp only [migrationOf_error_iff]
  cases readColumnRows columns with
  | error fault => simp
  | ok columnRows =>
    cases readIndexRows indexes with
    | error fault => simp
    | ok indexRows => simp

end TableMigration.Dump
