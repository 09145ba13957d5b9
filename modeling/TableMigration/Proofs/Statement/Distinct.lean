import TableMigration.Proofs.Php.Pieces
import TableMigration.Proofs.Statement.Calls
import TableMigration.Proofs.Statement.Number

/-!
# Distinct statements

Different indexes and different foreign keys have different statements, whatever marks stand in
their names (`statements_distinct`). A name without quotes has neither a comma nor a bracket, so the
columns of an index come apart again.
-/

namespace TableMigration

open Php (Token Reads marks)

namespace Statement

/-! ### Names -/

def namePieces (s : String) : List Token :=
  if isNumeric s then marks s else [.text s]

theorem reads_argument (s : String) : Reads (argument s) (namePieces s) := by
  unfold argument namePieces
  split
  · rename_i numeric
    exact Php.reads_code (not_mem_of_isNumeric numeric (by decide))
  · exact Php.reads_quote s

theorem not_mem_namePieces {c : Char} (h : isNumberChar c = false) (s : String) :
    .mark c ∉ namePieces s := by
  unfold namePieces
  split
  · rename_i numeric
    exact fun member => not_mem_of_isNumeric numeric h (Php.mem_marks.mp member)
  · simp

theorem namePieces_ne_nil (s : String) : namePieces s ≠ [] := by
  unfold namePieces
  split
  · rename_i numeric
    simpa [marks] using ne_empty_of_isNumeric numeric
  · simp

theorem namePieces_inj {s t : String} (h : namePieces s = namePieces t) : s = t := by
  unfold namePieces at h
  split at h <;> split at h
  · exact Php.marks_inj.mp h
  · exact absurd (h ▸ List.mem_singleton_self _) (Php.text_not_mem_marks t s)
  · exact absurd (h ▸ List.mem_singleton_self _) (Php.text_not_mem_marks s t)
  · exact Token.text.inj (List.singleton_inj.mp h)

/-! ### Lists of names -/

def joinedPieces : List String → List Token
  | [] => []
  | [name] => namePieces name
  | name :: names => namePieces name ++ .mark ',' :: .mark ' ' :: joinedPieces names

theorem reads_intercalate (names : List String) :
    Reads (", ".intercalate (names.map argument)) (joinedPieces names) := by
  induction names with
  | nil => exact fun rest => rfl
  | cons name names ih =>
    cases names with
    | nil => simpa [joinedPieces] using reads_argument name
    | cons next names =>
      have comma : Reads ", " [.mark ',', .mark ' '] := Php.reads_code (by decide)
      have whole := ((reads_argument name).append comma).append ih
      rw [List.map_cons, String.intercalate_cons_of_ne_nil (by simp), joinedPieces]
      · simpa using whole
      · simp

theorem joinedPieces_cons_cons (name next : String) (names : List String) :
    joinedPieces (name :: next :: names) =
      namePieces name ++ .mark ',' :: .mark ' ' :: joinedPieces (next :: names) := by
  rw [joinedPieces]
  simp

theorem comma_mem_joinedPieces (names : List String) :
    .mark ',' ∈ joinedPieces names ↔ 1 < names.length := by
  cases names with
  | nil => simp [joinedPieces]
  | cons name names =>
    cases names with
    | nil => simpa [joinedPieces] using not_mem_namePieces (by decide) name
    | cons next names => simp [joinedPieces_cons_cons]

theorem joinedPieces_eq_nil {names : List String} : joinedPieces names = [] ↔ names = [] := by
  cases names with
  | nil => simp [joinedPieces]
  | cons name names =>
    cases names with
    | nil => simpa [joinedPieces] using namePieces_ne_nil name
    | cons next names => simp [joinedPieces_cons_cons]

theorem joinedPieces_inj {names others : List String}
    (h : joinedPieces names = joinedPieces others) : names = others := by
  induction names generalizing others with
  | nil => exact (joinedPieces_eq_nil.mp h.symm).symm
  | cons name names ih =>
    -- A comma outside literals shows on both sides or on neither.
    have several : 1 < (name :: names).length ↔ 1 < others.length := by
      rw [← comma_mem_joinedPieces, ← comma_mem_joinedPieces, h]
    match names, others with
    | names, [] => exact joinedPieces_eq_nil.mp h
    | [], [other] => rw [namePieces_inj h]
    | [], _ :: _ :: _ => simp at several
    | _ :: _, [_] => simp at several
    | next :: names, other :: next' :: others =>
      rw [joinedPieces_cons_cons, joinedPieces_cons_cons] at h
      have comma := not_mem_namePieces (c := ',') (by decide)
      obtain ⟨first, later⟩ := Php.append_mark_inj (comma name) (comma other) h
      rw [namePieces_inj first, ih (List.cons.inj later).2]

/-- The pieces of names as one argument. -/
def argumentsPieces (names : List String) : List Token :=
  if 1 < names.length then .mark '[' :: (joinedPieces names ++ [.mark ']']) else joinedPieces names

theorem reads_arguments (names : List String) :
    Reads (arguments names) (argumentsPieces names) := by
  have opening : Reads "[" [.mark '['] := Php.reads_code (by decide)
  have closing : Reads "]" [.mark ']'] := Php.reads_code (by decide)
  rw [arguments, argumentsPieces, List.length_map]
  split
  · exact (opening.append (reads_intercalate names)).append closing
  · exact reads_intercalate names

theorem bracket_not_mem_joinedPieces (names : List String) : .mark '[' ∉ joinedPieces names := by
  induction names with
  | nil => simp [joinedPieces]
  | cons name names ih =>
    have first := not_mem_namePieces (c := '[') (by decide) name
    cases names with
    | nil => exact first
    | cons next names => simpa [joinedPieces_cons_cons, first] using ih

theorem argumentsPieces_inj {names others : List String}
    (h : argumentsPieces names = argumentsPieces others) : names = others := by
  have bracket : ∀ names rest, joinedPieces names ≠ .mark '[' :: rest := by
    intro names rest same
    have outside := bracket_not_mem_joinedPieces names
    rw [same] at outside
    exact outside List.mem_cons_self
  unfold argumentsPieces at h
  split at h <;> split at h
  · exact joinedPieces_inj (List.append_cancel_right (List.cons.inj h).2)
  · exact absurd h.symm (bracket others _)
  · exact absurd h (bracket names _)
  · exact joinedPieces_inj h

end Statement

/-! ### Indexes -/

namespace Index

def method (index : Index) : String :=
  if index.name = primaryName then "primary" else if index.unique then "unique" else "index"

/-- The pieces after the columns in the call of an index. -/
def namingPieces (index : Index) : List Token :=
  if index.name = primaryName then []
  else [.mark ',', .mark ' ', .text index.name]

theorem method_code (index : Index) : '\'' ∉ index.method.toList ∧ '(' ∉ index.method.toList := by
  unfold method
  split
  · decide
  · split <;> decide

theorem reads_statement (index : Index) :
    Reads index.statement
      (marks "$table" ++ (Php.callPieces index.method
        (Statement.argumentsPieces index.columns ++ index.namingPieces) ++ [.mark ';'])) := by
  have columns := Statement.reads_arguments index.columns
  have table : Reads "$table" (marks "$table") := Php.reads_code (by decide)
  have argument : Reads index.call.argument
      (Statement.argumentsPieces index.columns ++ index.namingPieces) := by
    unfold call namingPieces
    split
    · simpa using columns
    · have comma : Reads ", " [.mark ',', .mark ' '] := Php.reads_code (by decide)
      simpa using (columns.append comma).append (Php.reads_quote index.name)
  have method : index.call.method = index.method := by
    unfold call Index.method
    split <;> rfl
  rw [statement_eq, ← method]
  exact table.append (argument.chain (method ▸ index.method_code.1) Php.reads_chain_nil)

/-- The statements of two indexes are the same if the methods and the arguments are. -/
theorem statement_pieces {index other : Index} (h : index.statement = other.statement) :
    index.method = other.method ∧
      Statement.argumentsPieces index.columns ++ index.namingPieces =
        Statement.argumentsPieces other.columns ++ other.namingPieces := by
  have pieces := index.reads_statement.unique (h ▸ other.reads_statement)
  have call := List.append_cancel_right (List.append_cancel_left pieces)
  unfold Php.callPieces at call
  obtain ⟨method, argument⟩ := Php.append_mark_inj
    (fun member => index.method_code.2 (Php.mem_marks.mp member))
    (fun member => other.method_code.2 (Php.mem_marks.mp member)) (List.append_cancel_left call)
  exact ⟨Php.marks_inj.mp method, List.append_cancel_right argument⟩

theorem method_eq_primary_iff (index : Index) :
    index.method = "primary" ↔ index.name = primaryName := by
  unfold method
  split
  · simp [*]
  · split <;> simp [*]

theorem columns_of_statement {index other : Index} (primary : index.name = primaryName)
    (primary' : other.name = primaryName) (h : index.statement = other.statement) :
    index.columns = other.columns := by
  have arguments := (statement_pieces h).2
  simp only [namingPieces, if_pos primary, if_pos primary', List.append_nil] at arguments
  exact Statement.argumentsPieces_inj arguments

theorem eq_of_statement {index other : Index} (named : index.name ≠ primaryName)
    (named' : other.name ≠ primaryName) (h : index.statement = other.statement) :
    index = other := by
  obtain ⟨method, arguments⟩ := statement_pieces h
  simp only [namingPieces, if_neg named, if_neg named'] at arguments
  obtain ⟨columns, name⟩ := List.append_inj' arguments rfl
  have columns := Statement.argumentsPieces_inj columns
  have name : index.name = other.name := by simpa using name
  have unique : index.unique = other.unique := by
    simp only [Index.method, if_neg named, if_neg named'] at method
    cases kind : index.unique <;> cases kind' : other.unique <;> simp [kind, kind'] at method ⊢
  obtain ⟨_, _, _⟩ := index
  obtain ⟨_, _, _⟩ := other
  simp_all

theorem primary_iff_of_statement {index other : Index} (h : index.statement = other.statement) :
    index.name = primaryName ↔ other.name = primaryName := by
  rw [← method_eq_primary_iff, ← method_eq_primary_iff, (statement_pieces h).1]

end Index

/-! ### Foreign keys -/

namespace ForeignKey

/-- The pieces of the calls after the first one in the statement of a foreign key. -/
def laterPieces (key : ForeignKey) : List Token :=
  Php.callPieces "references" [.text key.referencedColumn] ++
    (Php.callPieces "on" [.text key.referencedTable] ++
      (Php.callPieces "onDelete" [.text key.onDelete] ++
        (Php.callPieces "onUpdate" [.text key.onUpdate] ++ [.mark ';'])))

theorem reads_statement (key : ForeignKey) :
    Reads key.statement
      (marks "$table" ++
        (Php.callPieces "foreign"
            (Statement.namePieces key.localColumn ++
              ([.mark ',', .mark ' '] ++ [.text key.name])) ++
          key.laterPieces)) := by
  have table : Reads "$table" (marks "$table") := Php.reads_code (by decide)
  have column : Reads (Statement.arguments [key.localColumn])
      (Statement.namePieces key.localColumn) := Statement.reads_arguments [key.localColumn]
  have comma : Reads ", " [.mark ',', .mark ' '] := Php.reads_code (by decide)
  have first := (column.append comma).append (Php.reads_quote key.name)
  rw [List.append_assoc] at first
  rw [statement_eq]
  refine table.append (first.chain (by decide) ?_)
  refine (Php.reads_quote _).chain (by decide) ?_
  refine (Php.reads_quote _).chain (by decide) ?_
  refine (Php.reads_quote _).chain (by decide) ?_
  exact (Php.reads_quote _).chain (by decide) Php.reads_chain_nil

theorem eq_of_statement {key other : ForeignKey} (h : key.statement = other.statement) :
    key = other := by
  have reading := other.reads_statement
  rw [← h] at reading
  have pieces := List.append_cancel_left (key.reads_statement.unique reading)
  have first := Php.callPieces_append_inj pieces
  simp only [List.append_assoc, List.cons_append] at first
  have comma := Statement.not_mem_namePieces (c := ',') (by decide)
  obtain ⟨column, naming⟩ :=
    Php.append_mark_inj (comma key.localColumn) (comma other.localColumn) first
  have column := Statement.namePieces_inj column
  obtain ⟨name, later⟩ : key.name = other.name ∧ key.laterPieces = other.laterPieces := by
    simpa using naming
  obtain ⟨referencedColumn, later⟩ := Php.callPieces_text_inj later
  obtain ⟨referencedTable, later⟩ := Php.callPieces_text_inj later
  obtain ⟨onDelete, later⟩ := Php.callPieces_text_inj later
  obtain ⟨onUpdate, -⟩ := Php.callPieces_text_inj later
  cases key
  cases other
  simp_all only

end ForeignKey

/-! ### All statements -/

/-- Equal statements declare the same. A primary key shows its columns only, and every other index
and every foreign key shows all it has. -/
theorem statements_distinct :
    (∀ index other : Index, index.name ≠ Index.primaryName → other.name ≠ Index.primaryName →
      (index.statement = other.statement ↔
        index.unique = other.unique ∧ index.columns = other.columns ∧ index.name = other.name)) ∧
    (∀ index other : Index, index.name = Index.primaryName → other.name = Index.primaryName →
      (index.statement = other.statement ↔ index.columns = other.columns)) ∧
    (∀ index other : Index, index.name = Index.primaryName → other.name ≠ Index.primaryName →
      index.statement ≠ other.statement) ∧
    ∀ key other : ForeignKey, key.statement = other.statement ↔ key = other := by
  refine ⟨?_, ?_, ?_, ?_⟩
  · intro index other named named'
    constructor
    · intro same
      obtain rfl := Index.eq_of_statement named named' same
      exact ⟨rfl, rfl, rfl⟩
    · rintro ⟨unique, columns, name⟩
      rw [Index.statement, Index.statement, unique, columns, name]
  · intro index other primary primary'
    constructor
    · exact Index.columns_of_statement primary primary'
    · intro columns
      simp only [Index.statement, columns, if_pos primary, if_pos primary']
  · intro index other primary named same
    exact named ((Index.primary_iff_of_statement same).mp primary)
  · intro key other
    exact ⟨ForeignKey.eq_of_statement, congrArg ForeignKey.statement⟩

theorem statements_distinct_commas :
    let single : Index := { name := "k", unique := false, columns := ["a', 'b"] }
    let pair : Index := { name := "k", unique := false, columns := ["a", "b"] }
    single.statement ≠ pair.statement := by
  intro single pair same
  have columns := ((statements_distinct.1 single pair (by decide) (by decide)).mp same).2.1
  exact absurd columns (by decide)

end TableMigration
