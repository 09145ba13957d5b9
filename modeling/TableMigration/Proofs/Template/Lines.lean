import TableMigration.Proofs.Statement.Block
import TableMigration.Proofs.Template.Substitution

/-!
# Templates by lines

No mark has a line feed, so a template is filled line by line (`fillFrom_lines`). Filled with blocks
of statements, the template of a migration has the statements line by line between its own lines
(`statementsIn_fill_builtin`).
-/

namespace TableMigration

theorem Hole.newline_not_mem_mark (hole : Hole) : '\n' ∉ hole.mark.toList := by
  cases hole <;> decide

/-- A mark that a line starts with ends on that line. -/
theorem Hole.ofStart?_append_newline (a b : List Char) :
    Hole.ofStart? (a ++ '\n' :: b) = Hole.ofStart? a := by
  refine Option.ext fun hole => ?_
  rw [Hole.ofStart?_eq_some_iff, Hole.ofStart?_eq_some_iff]
  constructor
  · intro start
    rcases List.prefix_or_prefix_of_prefix start (List.prefix_append a _) with within | ⟨rest, across⟩
    · exact within
    rw [← across, List.prefix_append_right_inj] at start
    cases rest with
    | nil => rw [← across, List.append_nil]
    | cons c rest =>
      obtain ⟨rfl, -⟩ := List.cons_prefix_cons.mp start
      have inside : '\n' ∈ hole.mark.toList := by
        rw [← across]
        simp
      exact absurd inside hole.newline_not_mem_mark
  · exact fun start => start.trans (List.prefix_append a _)

namespace Template

variable (value : Hole → List Char)

/-- Filling comes apart at the end of a line. -/
theorem fillFrom_append_newline (a b : List Char) :
    fillFrom value 0 (a ++ '\n' :: b) = fillFrom value 0 a ++ '\n' :: fillFrom value 0 b := by
  -- A mark is skipped as a whole, so the induction is on the length and not on the list.
  induction length : a.length using Nat.strong_induction_on generalizing a with
  | _ n ih =>
    cases a with
    | nil =>
      have plain : Hole.ofStart? ('\n' :: b) = none := Hole.ofStart?_append_newline [] b
      rw [List.nil_append, fillFrom_cons value plain]
      rfl
    | cons c a =>
      have same := Hole.ofStart?_append_newline (c :: a) b
      cases found : Hole.ofStart? (c :: a) with
      | some hole =>
        obtain ⟨rest, split⟩ := Hole.ofStart?_eq_some_iff.mp found
        have shorter : rest.length < n := by
          have := List.length_pos_iff.mpr hole.mark_ne_nil
          rw [← length, ← split, List.length_append]
          omega
        rw [← split, List.append_assoc, fillFrom_mark, fillFrom_mark, ih _ shorter rest rfl,
          List.append_assoc]
      | none =>
        have shorter : a.length < n := by
          rw [← length]
          exact Nat.lt_succ_self _
        rw [List.cons_append] at same ⊢
        rw [fillFrom_cons value (same.trans found), fillFrom_cons value found, ih _ shorter a rfl]
        rfl

/-- A text of whole lines. -/
def ofLines (lines : List String) : List Char :=
  lines.flatMap fun line => line.toList ++ ['\n']

theorem fillFrom_lines (lines : List String) :
    fillFrom value 0 (ofLines lines) =
      lines.flatMap fun line => fillFrom value 0 line.toList ++ ['\n'] := by
  induction lines with
  | nil => rfl
  | cons line lines ih =>
    rw [ofLines, List.flatMap_cons, List.append_assoc, List.singleton_append,
      fillFrom_append_newline, List.flatMap_cons, List.append_assoc, List.singleton_append]
    exact congrArg _ (congrArg _ ih)

/-! ### Lines without their indents -/

instance (s : List Char) : Decidable (Unmarked s) :=
  decidable_of_iff (∀ hole ∈ Hole.all, ¬hole.mark.toList <:+: s)
    ⟨fun h hole => h hole hole.mem_all, fun h hole _ => h hole⟩

theorem statementsIn_fill (value : Hole → String) (lines : List String) :
    Statement.statementsIn (fill ⟨String.ofList (ofLines lines)⟩ value) =
      lines.flatMap fun line => Statement.statementsIn (fill ⟨line⟩ value) := by
  have filled : (lines.flatMap fun line =>
        fillFrom (fun hole => (value hole).toList) 0 line.toList ++ ['\n']) =
      (lines.map fun line => fillFrom (fun hole => (value hole).toList) 0 line.toList).flatMap
        (· ++ ['\n']) := by
    rw [List.flatMap_map]
  simp only [fill_eq]
  rw [String.toList_ofList, fillFrom_lines, filled, Statement.statementsIn_lines, List.flatMap_map]

theorem statementsIn_fill_unmarked (value : Hole → String) {lines : List String}
    (h : ∀ line ∈ lines, Unmarked line.toList) :
    (lines.flatMap fun line => Statement.statementsIn (fill ⟨line⟩ value)) =
      lines.flatMap Statement.statementsIn := by
  refine List.flatMap_congr fun line member => ?_
  rw [fill_unmarked value (h line member)]

/-- A line of a template: an indent, and a mark between two texts. -/
def markedLine (n : Nat) (front : String) (hole : Hole) (back : String) : String :=
  String.ofList (List.replicate n ' ' ++ front.toList) ++ hole.mark ++ back

theorem fill_markedLine (value : Hole → String) (hole : Hole) {n : Nat} {front back : String}
    (plain : Unmarked (List.replicate n ' ' ++ front.toList)) (plain' : Unmarked back.toList) :
    fill ⟨markedLine n front hole back⟩ value =
      String.ofList (List.replicate n ' ' ++ (front ++ value hole ++ back).toList) := by
  rw [markedLine, fill_mark, fill_unmarked value (by simpa using plain), fill_unmarked value plain']
  apply String.toList_inj.mp
  simp

theorem statementsIn_markedLine {value : Hole → String} {hole : Hole} {n : Nat} {front back : String}
    (plain : Unmarked (List.replicate n ' ' ++ front.toList)) (plain' : Unmarked back.toList)
    {c : Char} (first : front.toList.head? = some c) (mark : c ≠ ' ')
    (line : Text.OneLine front ∧ Text.OneLine back) (filled : Text.OneLine (value hole)) :
    Statement.statementsIn (fill ⟨markedLine n front hole back⟩ value) =
      [front ++ value hole ++ back] := by
  rw [fill_markedLine value hole plain plain']
  refine Statement.statementsIn_indented ((line.1.append filled).append line.2) ?_ mark n
  rw [String.toList_append, String.toList_append, List.append_assoc, List.head?_append, first]
  rfl

theorem statementsIn_blockLine {value : Hole → String} {hole : Hole} {statements : List String}
    {indent : Nat} (filled : value hole = Statement.block indent statements)
    (h : ∀ statement ∈ statements, Statement.IsLine statement) {n : Nat}
    (plain : Unmarked (List.replicate n ' ')) :
    Statement.statementsIn (fill ⟨markedLine n "" hole ""⟩ value) = statements := by
  have nothing : Unmarked "".toList := unmarked_nil
  rw [fill_markedLine value hole (by simpa using plain) nothing, filled, String.append_empty,
    String.empty_append]
  exact Statement.statementsIn_indented_block indent h n

/-- The lines of a filled migration without their indents. -/
theorem statementsIn_fill_builtin {value : Hole → String} {columns indexes foreignKeys : List String}
    {indent : Nat} (className : Text.OneLine (value .className))
    (tableName : Text.OneLine (value .tableName))
    (hc : value .columns = Statement.block indent columns)
    (hi : value .indexes = Statement.block indent indexes)
    (hf : value .foreignKeys = Statement.block indent foreignKeys)
    (lines : ∀ statement ∈ columns ++ (indexes ++ foreignKeys), Statement.IsLine statement) :
    Statement.statementsIn (builtin.fill value) =
      ["<?php", "use Illuminate\\Database\\Migrations\\Migration;",
          "use Illuminate\\Database\\Schema\\Blueprint;",
          "use Illuminate\\Support\\Facades\\Schema;",
          "class " ++ value .className ++ " extends Migration", "\x7b", "/**",
          "* Run the migrations.", "*", "* @return void", "*/", "public function up()", "\x7b"] ++
        ("Schema::create('" ++ value .tableName ++ "', function (Blueprint $table) \x7b") ::
          (columns ++ (indexes ++ (foreignKeys ++
            (["\x7d);", "\x7d", "/**", "* Reverse the migrations.", "*", "* @return void", "*/",
                "public function down()", "\x7b"] ++
              ("Schema::drop('" ++ value .tableName ++ "');") :: ["\x7d", "\x7d"])))) := by
  -- The template is cut at the six lines with a mark: only they depend on the values.
  have cut : builtinLines = builtinLines.take 6 ++
      (markedLine 0 "class " .className " extends Migration" :: ((builtinLines.drop 7).take 8 ++
        (markedLine 8 "Schema::create('" .tableName "', function (Blueprint $table) \x7b" ::
          markedLine 12 "" .columns "" :: markedLine 12 "" .indexes "" ::
            markedLine 12 "" .foreignKeys "" :: ((builtinLines.drop 19).take 10 ++
              (markedLine 8 "Schema::drop('" .tableName "');" :: builtinLines.drop 30))))) := by
    decide
  have plain : ∀ line ∈ builtinLines.take 6 ++ ((builtinLines.drop 7).take 8 ++
      ((builtinLines.drop 19).take 10 ++ builtinLines.drop 30)), Unmarked line.toList := by decide
  have text : builtin = ⟨String.ofList (ofLines builtinLines)⟩ := rfl
  simp only [List.forall_mem_append] at plain lines
  rw [text, statementsIn_fill, cut]
  simp only [List.flatMap_append, List.flatMap_cons]
  rw [statementsIn_fill_unmarked value plain.1, statementsIn_fill_unmarked value plain.2.1,
    statementsIn_fill_unmarked value plain.2.2.1, statementsIn_fill_unmarked value plain.2.2.2,
    statementsIn_markedLine (by decide) (by decide) rfl (by decide) (by decide) className,
    statementsIn_markedLine (by decide) (by decide) rfl (by decide) (by decide) tableName,
    statementsIn_markedLine (by decide) (by decide) rfl (by decide) (by decide) tableName,
    statementsIn_blockLine hc lines.1 (by decide), statementsIn_blockLine hi lines.2.1 (by decide),
    statementsIn_blockLine hf lines.2.2 (by decide)]
  have lead : (builtinLines.take 6).flatMap Statement.statementsIn =
      ["<?php", "use Illuminate\\Database\\Migrations\\Migration;",
        "use Illuminate\\Database\\Schema\\Blueprint;",
        "use Illuminate\\Support\\Facades\\Schema;"] := by decide
  have up : ((builtinLines.drop 7).take 8).flatMap Statement.statementsIn =
      ["\x7b", "/**", "* Run the migrations.", "*", "* @return void", "*/", "public function up()",
        "\x7b"] := by decide
  have down : ((builtinLines.drop 19).take 10).flatMap Statement.statementsIn =
      ["\x7d);", "\x7d", "/**", "* Reverse the migrations.", "*", "* @return void", "*/",
        "public function down()", "\x7b"] := by decide
  have ending : (builtinLines.drop 30).flatMap Statement.statementsIn = ["\x7d", "\x7d"] := by decide
  rw [lead, up, down, ending]
  simp only [List.cons_append, List.nil_append]

end Template

end TableMigration
