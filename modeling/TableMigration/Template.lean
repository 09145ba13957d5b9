import TableMigration.Text.Basic

/-!
# Templates

The text of a migration with holes in it. All holes are filled in one pass, so a text that is put
in is not looked at again.
-/

namespace TableMigration

inductive Hole where
  | className
  | tableName
  | columns
  | indexes
  | foreignKeys
deriving DecidableEq, Repr

namespace Hole

def mark : Hole → String
  | .className => "DummyClass"
  | .tableName => "DummyTable"
  | .columns => "// structure"
  | .indexes => "// keys"
  | .foreignKeys => "// constraints"

def all : List Hole := [.className, .tableName, .columns, .indexes, .foreignKeys]

theorem mark_pos (hole : Hole) : 0 < hole.mark.length := by
  cases hole <;> decide

/-- Of holes with what stands before their marks, the one with the least. Of two at one place it is
the one that comes first in the list. -/
def earliest : List (Nat × Hole) → Option (Nat × Hole)
  | [] => none
  | found :: others =>
    match earliest others with
    | some other => if other.1 < found.1 then some other else some found
    | none => some found

/-- The first mark in a text: how much stands before it, and its hole. Each mark is looked for on
its own. -/
def first? (s : List Char) : Option (Nat × Hole) :=
  earliest (all.filterMap fun hole =>
    (Text.position? hole.mark.toList s).map fun before => (before, hole))

end Hole

/-- The text of a migration with holes. -/
structure Template where
  text : String
deriving DecidableEq, Repr

inductive TemplateFault where
  /-- There is no place for the name of the class. -/
  | noClassName
deriving DecidableEq, Repr

def TemplateFault.message : TemplateFault → String
  | .noClassName => "迁移模板错误: 模板缺少类名占位符 " ++ Hole.className.mark

namespace Template

/-- The template of a text with a hole for the name of the class. -/
def ofText (text : String) : Except TemplateFault Template :=
  if Text.contains text Hole.className.mark then .ok { text } else .error .noClassName

/-- Fills the first hole, and goes on behind its mark until no mark is left. -/
def fillText (value : Hole → List Char) : List Char → List Char
  | [] => []
  | c :: rest =>
    let s := c :: rest
    match Hole.first? s with
    | some (before, hole) =>
      s.take before ++ (value hole ++ fillText value (s.drop (before + hole.mark.length)))
    | none => s
termination_by s => s.length
decreasing_by
  have := hole.mark_pos
  rw [List.length_drop, List.length_cons]
  omega

def fill (template : Template) (value : Hole → String) : String :=
  String.ofList (fillText (fun hole => (value hole).toList) template.text.toList)

/-- The lines of the template of a migration that creates a table. -/
def builtinLines : List String := [
  "<?php",
  "",
  "use Illuminate\\Database\\Migrations\\Migration;",
  "use Illuminate\\Database\\Schema\\Blueprint;",
  "use Illuminate\\Support\\Facades\\Schema;",
  "",
  "class DummyClass extends Migration",
  "\x7b",
  "    /**",
  "     * Run the migrations.",
  "     *",
  "     * @return void",
  "     */",
  "    public function up()",
  "    \x7b",
  "        Schema::create('DummyTable', function (Blueprint $table) \x7b",
  "            // structure",
  "            // keys",
  "            // constraints",
  "        \x7d);",
  "    \x7d",
  "",
  "    /**",
  "     * Reverse the migrations.",
  "     *",
  "     * @return void",
  "     */",
  "    public function down()",
  "    \x7b",
  "        Schema::drop('DummyTable');",
  "    \x7d",
  "\x7d"]

def builtin : Template where
  text := String.ofList (builtinLines.flatMap fun line => line.toList ++ ['\n'])

end Template

end TableMigration
