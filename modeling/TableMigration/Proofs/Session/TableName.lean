import TableMigration.Proofs.Naming
import TableMigration.Proofs.Php.Default
import TableMigration.Proofs.Session.OneLine
import TableMigration.Proofs.Template.Lines

/-!
# The table in its migration

The name of the table stands between quotes as it is, so the migration creates and drops the table
of that name exactly when the name stands for itself there (`argumentsOf_migration`).
-/

namespace TableMigration

namespace Php

/-- The first argument, read as a literal, of the call that a line starts with, if it starts with
a call of this method. -/
def argumentOf? (method line : String) : Option (Option String) :=
  (take? (method ++ "(") line.toList).map fun inner => (readLiteral? inner).map (·.1)

def argumentsOf (method text : String) : List (Option String) :=
  (Statement.statementsIn text).filterMap (argumentOf? method)

theorem argumentOf?_eq_none {method line : String} {c : Char}
    (hm : method.toList.head? = some c) (hl : line.toList.head? ≠ some c) :
    argumentOf? method line = none := by
  obtain ⟨_, methodShape⟩ := List.head?_eq_some_iff.mp hm
  rw [argumentOf?, take?, String.toList_append, methodShape, List.cons_append]
  cases chars : line.toList with
  | nil => rfl
  | cons d rest =>
    have other : c ≠ d := fun same => hl (by rw [chars, same]; rfl)
    rw [List.isPrefixOf?, if_neg (by simpa using other)]
    rfl

theorem argumentOf?_call {method line : String} {inner : List Char}
    (shape : line.toList = method.toList ++ '(' :: inner) :
    argumentOf? method line = some ((readLiteral? inner).map (·.1)) := by
  rw [argumentOf?, shape, take?_call]
  rfl

theorem argumentOf?_other {method line : String} (other : String) {inner : List Char}
    (shape : line.toList = other.toList ++ '(' :: inner)
    (h : '(' ∉ method.toList ∧ '(' ∉ other.toList ∧ method ≠ other) :
    argumentOf? method line = none := by
  rw [argumentOf?, shape, take?_call_of_ne h.1 h.2.1 h.2.2]
  rfl

end Php

namespace Session

/-- The lines of the migration of a session, without their indents. -/
theorem statementsIn_migration {session : Session} (h : session.OneLine)
    (line : Text.OneLine session.table) (indent : Nat) :
    Statement.statementsIn (session.migration .builtin indent) =
      ["<?php", "use Illuminate\\Database\\Migrations\\Migration;",
          "use Illuminate\\Database\\Schema\\Blueprint;",
          "use Illuminate\\Support\\Facades\\Schema;",
          "class " ++ Naming.className session.table ++ " extends Migration", "\x7b", "/**",
          "* Run the migrations.", "*", "* @return void", "*/", "public function up()", "\x7b"] ++
        ("Schema::create('" ++ session.table ++ "', function (Blueprint $table) \x7b") ::
          (session.columns.map Column.statement ++ (session.indexes.map Index.statement ++
            (session.foreignKeys.map ForeignKey.statement ++
            (["\x7d);", "\x7d", "/**", "* Reverse the migrations.", "*", "* @return void", "*/",
                "public function down()", "\x7b"] ++
              ("Schema::drop('" ++ session.table ++ "');") :: ["\x7d", "\x7d"])))) := by
  refine Template.statementsIn_fill_builtin (Naming.oneLine_className line) line rfl rfl rfl ?_
  simp only [List.forall_mem_append, List.forall_mem_map]
  exact ⟨fun column member => (h.columns column member).isLine,
    fun index member => (h.indexes index member).isLine,
    fun key member => (h.foreignKeys key member).isLine⟩

theorem toList_createLine (table : String) :
    ("Schema::create('" ++ table ++ "', function (Blueprint $table) \x7b").toList =
      "Schema::create".toList ++
        '(' :: '\'' :: (table.toList ++ '\'' :: ", function (Blueprint $table) \x7b".toList) := by
  simp

theorem toList_dropLine (table : String) :
    ("Schema::drop('" ++ table ++ "');").toList =
      "Schema::drop".toList ++ '(' :: '\'' :: (table.toList ++ '\'' :: ");".toList) := by
  simp

section

variable {session : Session} (h : session.OneLine) (line : Text.OneLine session.table) (indent : Nat)
include h line

/-- Only the two lines of the table start with a call of this initial. -/
theorem argumentsOf_eq {method : String} (first : method.toList.head? = some 'S') :
    Php.argumentsOf method (session.migration .builtin indent) =
      ["Schema::create('" ++ session.table ++ "', function (Blueprint $table) \x7b",
        "Schema::drop('" ++ session.table ++ "');"].filterMap (Php.argumentOf? method) := by
  have quiet : ∀ lines : List String, (∀ line ∈ lines, line.toList.head? ≠ some 'S') →
      lines.filterMap (Php.argumentOf? method) = [] := by
    intro lines others
    rw [List.filterMap_eq_nil_iff]
    exact fun line member => Php.argumentOf?_eq_none first (others line member)
  -- A statement starts with the dollar of its table, whatever it declares.
  have statement : ∀ line, Statement.IsLine line → line.toList.head? ≠ some 'S' := by
    intro line whole
    rw [whole.first]
    decide
  have columns := quiet (session.columns.map Column.statement) <| List.forall_mem_map.mpr
    fun column member => statement _ (h.columns column member).isLine
  have indexes := quiet (session.indexes.map Index.statement) <| List.forall_mem_map.mpr
    fun index member => statement _ (h.indexes index member).isLine
  have foreignKeys := quiet (session.foreignKeys.map ForeignKey.statement) <| List.forall_mem_map.mpr
    fun key member => statement _ (h.foreignKeys key member).isLine
  have skip : ∀ {front : List String} (back : List String),
      front.filterMap (Php.argumentOf? method) = [] →
        (front ++ back).filterMap (Php.argumentOf? method) =
          back.filterMap (Php.argumentOf? method) := by
    intro front back nothing
    rw [List.filterMap_append, nothing, List.nil_append]
  have keep : ∀ (line : String) (back : List String),
      (line :: back).filterMap (Php.argumentOf? method) =
        [line].filterMap (Php.argumentOf? method) ++ back.filterMap (Php.argumentOf? method) :=
    fun line back => List.filterMap_append (l := [line])
  rw [Php.argumentsOf, statementsIn_migration h line, skip _ (quiet _ (by simp)), keep _ (_ ++ _),
    skip _ columns, skip _ indexes, skip _ foreignKeys, skip _ (quiet _ (by decide)),
    keep _ ["\x7d", "\x7d"], quiet ["\x7d", "\x7d"] (by decide), List.append_nil,
    ← List.filterMap_append]
  rfl

theorem argumentsOf_create :
    Php.argumentsOf "Schema::create" (session.migration .builtin indent) =
      [(Php.readLiteral? ('\'' :: (session.table.toList ++
        '\'' :: ", function (Blueprint $table) \x7b".toList))).map (·.1)] := by
  rw [argumentsOf_eq h line indent (by decide),
    List.filterMap_cons_some (Php.argumentOf?_call (toList_createLine session.table)),
    List.filterMap_cons_none
      (Php.argumentOf?_other "Schema::drop" (toList_dropLine session.table) (by decide)),
    List.filterMap_nil]

theorem argumentsOf_drop :
    Php.argumentsOf "Schema::drop" (session.migration .builtin indent) =
      [(Php.readLiteral? ('\'' :: (session.table.toList ++ '\'' :: ");".toList))).map (·.1)] := by
  rw [argumentsOf_eq h line indent (by decide),
    List.filterMap_cons_none
      (Php.argumentOf?_other "Schema::create" (toList_createLine session.table) (by decide)),
    List.filterMap_cons_some (Php.argumentOf?_call (toList_dropLine session.table)),
    List.filterMap_nil]

end

/-- The migration creates and drops the table of its session exactly if the name of the table stands
for itself between quotes. -/
theorem argumentsOf_migration {table : String} (line : Text.OneLine table) (loads : List Load)
    (indent : Nat) :
    (Php.argumentsOf "Schema::create" (((start table).run loads).migration .builtin indent) =
        [some table] ∧
      Php.argumentsOf "Schema::drop" (((start table).run loads).migration .builtin indent) =
        [some table]) ↔
      Php.Verbatim table.toList := by
  have h := oneLine_run (oneLine_start table) loads
  have same : ((start table).run loads).table = table := table_run (start table) loads
  have line' : Text.OneLine ((start table).run loads).table := by rwa [same]
  rw [argumentsOf_create h line', argumentsOf_drop h line', same, List.singleton_inj,
    List.singleton_inj, Php.readLiteral?_between_iff, Php.readLiteral?_between_iff, and_self]

theorem argumentsOf_migration_backslash :
    Text.OneLine "App\\Post" ∧
      Php.argumentsOf "Schema::create" (((start "App\\Post").run []).migration .builtin 12) =
        [some "App\\Post"] ∧
      Php.argumentsOf "Schema::drop" (((start "App\\Post").run []).migration .builtin 12) =
        [some "App\\Post"] := by
  have line : Text.OneLine "App\\Post" := by decide
  have verbatim : Php.Verbatim "App\\Post".toList := ⟨by decide, by decide, by decide⟩
  exact ⟨line, (argumentsOf_migration line [] 12).mpr verbatim⟩

/-- A quote in the name of a table ends the literal: the migration is about another table. -/
theorem argumentsOf_quote :
    Text.OneLine "it's" ∧
      Php.argumentsOf "Schema::create" (((start "it's").run []).migration .builtin 12) =
        [some "it"] ∧
      Php.argumentsOf "Schema::drop" (((start "it's").run []).migration .builtin 12) =
        [some "it"] ∧
      ¬(Php.argumentsOf "Schema::create" (((start "it's").run []).migration .builtin 12) =
          [some "it's"] ∧
        Php.argumentsOf "Schema::drop" (((start "it's").run []).migration .builtin 12) =
          [some "it's"]) := by
  have line : Text.OneLine "it's" := by decide
  have h := oneLine_start "it's"
  have create := argumentsOf_create h line 12
  have drop := argumentsOf_drop h line 12
  refine ⟨line, create.trans (by decide), drop.trans (by decide), ?_⟩
  rintro ⟨same, -⟩
  exact absurd (create.symm.trans same) (by decide)

end Session

end TableMigration
