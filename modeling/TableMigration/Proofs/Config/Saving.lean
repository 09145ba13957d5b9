import TableMigration.Command.Setup
import TableMigration.Proofs.Document.Lines
import TableMigration.Proofs.File.Growth

/-!
# Saving settings

Saved settings load again (`Command.loadConfig_save`), unless one of their texts holds the mark of a
setting that is written over later: that mark is written over inside the text too
(`read?_write_lost`).
-/

namespace TableMigration.Config

open Document (Line Reads ReadsLine Shows)

/-! ### Writing over the outline -/

/-- Writes values over their marks, one after another. -/
def writeOver (values : List (String × String)) (text : List Char) : List Char :=
  values.foldl (fun text (setting, value) => Text.replaceAll (mark setting).toList value.toList text)
    text

theorem mark_toList (setting : String) :
    (mark setting).toList = '\x7b' :: (setting.toList ++ ['\x7d']) := by
  simp [mark]

theorem writeOver_cons (setting value : String) (values : List (String × String))
    (text : List Char) :
    writeOver ((setting, value) :: values) text =
      writeOver values (Text.replaceAll (mark setting).toList value.toList text) := rfl

section

variable {values : List (String × String)}

theorem writeOver_of_absent {text : List Char}
    (h : ∀ item ∈ values, ¬(mark item.1).toList <:+: text) : writeOver values text = text := by
  induction values with
  | nil => rfl
  | cons item values ih =>
    rw [List.forall_mem_cons] at h
    obtain ⟨setting, value⟩ := item
    rw [writeOver_cons, Text.replaceAll_of_not_infix h.1]
    exact ih h.2

theorem writeOver_braceless {text : List Char} (h : '\x7b' ∉ text) : writeOver values text = text := by
  refine writeOver_of_absent fun item _ inside => h (inside.subset ?_)
  rw [mark_toList]
  exact List.mem_cons_self

theorem writeOver_lines (names : ∀ item ∈ values, '\n' ∉ item.1.toList) (lines : List (List Char)) :
    writeOver values (lines.flatMap (· ++ ['\n'])) =
      (lines.map (writeOver values)).flatMap (· ++ ['\n']) := by
  induction values generalizing lines with
  | nil => exact congrArg (List.flatMap _) (List.map_id lines).symm
  | cons item values ih =>
    rw [List.forall_mem_cons] at names
    obtain ⟨setting, value⟩ := item
    have oneLine : '\n' ∉ (mark setting).toList := by
      simpa [mark_toList] using names.1
    have nonempty : (mark setting).toList ≠ [] := by simp [mark_toList]
    rw [writeOver_cons, Text.replaceAll_lines oneLine nonempty, ih names.2, List.map_map]
    rfl

/-- A setting has its value in the end, unless that holds the mark of a later one. -/
theorem writeOver_settingLine {before after : List (String × String)} {setting value : String}
    (earlier : ∀ item ∈ before, ¬(mark item.1).toList <:+: (settingLine setting).toList)
    (later : ∀ item ∈ after, ¬(mark item.1).toList <:+: value.toList)
    (names : ∀ item ∈ (setting, value) :: after, ' ' ∉ item.1.toList)
    (braceless : '\x7b' ∉ setting.toList) :
    writeOver (before ++ (setting, value) :: after) (settingLine setting).toList =
      setting.toList ++ ' ' :: '=' :: ' ' :: value.toList := by
  have spaceless : ∀ item ∈ (setting, value) :: after, ' ' ∉ (mark item.1).toList := by
    intro item member
    simpa [mark_toList] using names item member
  have nonempty : ∀ name, (mark name).toList ≠ [] := by simp [mark_toList]
  have front : '\x7b' ∉ setting.toList ++ [' ', '='] := by simpa using braceless
  have frontless : ∀ name, ¬(mark name).toList <:+: setting.toList ++ [' ', '='] := by
    intro name inside
    rw [mark_toList] at inside
    exact front (inside.subset List.mem_cons_self)
  have line : (settingLine setting).toList =
      (setting.toList ++ [' ', '=']) ++ ' ' :: (mark setting).toList := by
    simp [settingLine]
  have apart : ∀ item ∈ after,
      ¬(mark item.1).toList <:+: (setting.toList ++ [' ', '=']) ++ ' ' :: value.toList := by
    intro item member inside
    rcases Text.infix_of_append_cons (spaceless item (List.mem_cons_of_mem _ member)) inside with
      inFront | inValue
    · exact frontless _ inFront
    · exact later item member inValue
  -- Marks written before do not occur in the line, those written later not in its value.
  rw [writeOver, List.foldl_append]
  change writeOver ((setting, value) :: after) (writeOver before (settingLine setting).toList) = _
  rw [writeOver_of_absent earlier, writeOver_cons, line,
    Text.replaceAll_append_cons (spaceless _ List.mem_cons_self) (nonempty setting),
    Text.replaceAll_of_not_infix (frontless setting), Text.replaceAll_self (nonempty setting),
    writeOver_of_absent apart, List.append_assoc]
  rfl

end

/-! ### Settings that stay apart -/

/-- The settings as they are meant, in the order of writing. -/
def meant (config : Config) : List (String × String) := [
  ("indent", toString config.output.indent),
  ("template", config.output.template),
  ("directory", config.output.directory),
  ("timestamp_prefix", if config.output.timestampPrefix then "true" else "false"),
  ("structure_file", config.dump.structureFile),
  ("keys_file", config.dump.keysFile),
  ("constraints_file", config.dump.constraintsFile)]

/-- No setting holds the mark of one that is written later. -/
def KeepsApart (config : Config) : Prop :=
  config.meant.Pairwise fun setting later => Text.contains setting.2 (mark later.1) = false

instance (config : Config) : Decidable config.KeepsApart :=
  inferInstanceAs (Decidable (config.meant.Pairwise _))

theorem not_infix_quote {name text : String} (foreign : ∀ c ∈ ['\\', '"', '\'', '\n'], c ∉ name.toList)
    (h : Text.contains text (mark name) = false) :
    ¬(mark name).toList <:+: (Document.quote text).toList := by
  rw [Text.contains_eq_false_iff] at h
  intro inside
  rw [Document.quote, String.toList_ofList, mark_toList] at inside
  have apart : ∀ c ∈ ['\\', '"', '\'', '\n'], c ∉ '\x7b' :: (name.toList ++ ['\x7d']) := by
    intro c member
    have : c ≠ '\x7b' ∧ c ≠ '\x7d' := by
      constructor <;> rintro rfl <;> simp at member
    simp [this, foreign c member]
  rw [mark_toList] at h
  exact h (Document.infix_of_quoteChars apart inside)

/-- A relation between the elements of a list carries over to a list that goes along with it. -/
theorem pairwise_of_forall₂ {α β : Type} {P : α → β → Prop} {R : α → α → Prop} {S : β → β → Prop}
    {l : List α} {l' : List β} (along : List.Forall₂ P l l')
    (carry : ∀ {a b a' b'}, P a a' → P b b' → R a b → S a' b') (h : l.Pairwise R) :
    l'.Pairwise S := by
  induction along with
  | nil => exact .nil
  | @cons a a' l l' first along ih =>
    rw [List.pairwise_cons] at h
    have origin : ∀ b' ∈ l', ∃ b ∈ l, P b b' := by
      clear h ih first
      induction along with
      | nil => simp
      | cons first _ ih =>
        intro b' member
        rcases List.mem_cons.mp member with rfl | later
        · exact ⟨_, List.mem_cons_self, first⟩
        · obtain ⟨b, old, same⟩ := ih b' later
          exact ⟨b, List.mem_cons_of_mem _ old, same⟩
    refine List.pairwise_cons.mpr ⟨fun b' member => ?_, ih h.2⟩
    obtain ⟨b, old, same⟩ := origin b' member
    exact carry first same (h.1 b old)

def names : List String :=
  ["indent", "template", "directory", "timestamp_prefix", "structure_file", "keys_file",
    "constraints_file"]

theorem map_fst_values (config : Config) : config.values.map (·.1) = names := rfl

theorem values_apart {config : Config} (apart : config.KeepsApart) :
    config.values.Pairwise fun setting later => ¬(mark later.1).toList <:+: setting.2.toList := by
  have along : List.Forall₂ (fun meant written : String × String =>
      meant.1 = written.1 ∧ written.1 ∈ names ∧
        (written.2 = meant.2 ∨ written.2 = Document.quote meant.2)) config.meant config.values := by
    refine .cons ⟨rfl, ?_, .inl rfl⟩ <| .cons ⟨rfl, ?_, .inr rfl⟩ <| .cons ⟨rfl, ?_, .inr rfl⟩ <|
      .cons ⟨rfl, ?_, .inl rfl⟩ <| .cons ⟨rfl, ?_, .inr rfl⟩ <| .cons ⟨rfl, ?_, .inr rfl⟩ <|
      .cons ⟨rfl, ?_, .inr rfl⟩ .nil <;> simp [names]
  have plain : ∀ name ∈ names, ∀ c ∈ ['\\', '"', '\'', '\n'], c ∉ name.toList := by
    simp [names]
  refine pairwise_of_forall₂ along ?_ apart
  rintro setting later _ ⟨name, value⟩ ⟨-, -, written⟩ ⟨rfl, isName, -⟩ absent
  rcases written with same | quoted
  · rw [same]
    exact Text.contains_eq_false_iff.mp absent
  · rw [quoted]
    exact not_infix_quote (plain _ isName) absent

theorem not_infix_settingLine : ∀ name ∈ names, ∀ other ∈ names, other ≠ name →
    ¬(mark other).toList <:+: (settingLine name).toList := by
  have absent : ∀ name ∈ names, ∀ other ∈ names, other ≠ name →
      Text.contains (settingLine name) (mark other) = false := by
    decide
  intro name isName other isOther different
  exact Text.contains_eq_false_iff.mp (absent name isName other isOther different)

theorem writeOver_values {config : Config} (apart : config.KeepsApart)
    {name value : String} (member : (name, value) ∈ config.values) :
    writeOver config.values (settingLine name).toList =
      name.toList ++ ' ' :: '=' :: ' ' :: value.toList := by
  obtain ⟨before, after, split⟩ := List.append_of_mem member
  have isName : ∀ item ∈ config.values, item.1 ∈ names := fun item member =>
    map_fst_values config ▸ List.mem_map_of_mem member
  have plain : ∀ name ∈ names, ' ' ∉ name.toList ∧ '\x7b' ∉ name.toList := by decide
  have distinct : (config.values.map (·.1)).Nodup := by
    rw [map_fst_values]
    decide
  have ordered := values_apart apart
  rw [split] at isName distinct ordered ⊢
  have here := isName (name, value) (by simp)
  refine writeOver_settingLine (fun item member => ?_) (fun item member => ?_)
    (fun item member => (plain _ (isName item (List.mem_append_right _ member))).1) (plain _ here).2
  · refine not_infix_settingLine name here item.1 (isName item (List.mem_append_left _ member)) ?_
    rw [List.map_append, List.map_cons, List.nodup_append] at distinct
    exact distinct.2.2 item.1 (List.mem_map_of_mem member) name List.mem_cons_self
  · rw [List.pairwise_append, List.pairwise_cons] at ordered
    exact ordered.2.1.1 item member

theorem write_toList (config : Config) :
    config.write.toList =
      (outlineLines.map fun line => writeOver config.values line.toList).flatMap (· ++ ['\n']) := by
  have oneLine : ∀ name ∈ names, '\n' ∉ name.toList := by decide
  have names : ∀ item ∈ config.values, '\n' ∉ item.1.toList := fun item member =>
    oneLine _ (map_fst_values config ▸ List.mem_map_of_mem member)
  have lines : outline = (outlineLines.map String.toList).flatMap (· ++ ['\n']) := by
    rw [List.flatMap_map]
    rfl
  rw [write, String.toList_ofList]
  change writeOver config.values outline = _
  rw [lines, writeOver_lines names, List.map_map]
  rfl

/-! ### Reading back -/

/-- What the lines of a settings file say. -/
def lines (config : Config) : List Line := [
  .header [] "output",
  .entry [] "indent" (.integer config.output.indent),
  .entry [] "template" (.string config.output.template),
  .entry [] "directory" (.string config.output.directory),
  .entry [] "timestamp_prefix" (.boolean config.output.timestampPrefix),
  .header [] "dump",
  .entry [] "structure_file" (.string config.dump.structureFile),
  .entry [] "keys_file" (.string config.dump.keysFile),
  .entry [] "constraints_file" (.string config.dump.constraintsFile)]

theorem readsLine_comment {config : Config} : ∀ line ∈ outlineLines, line.toList.head? = some '#' →
    ReadsLine (writeOver config.values line.toList) [] := by
  have plain : ∀ line ∈ outlineLines, line.toList.head? = some '#' →
      '\x7b' ∉ line.toList ∧ line.toList.all Document.isTextChar = true := by
    decide
  intro line member comment
  obtain ⟨braceless, text⟩ := plain line member comment
  rw [List.all_eq_true] at text
  rw [writeOver_braceless braceless]
  obtain ⟨tail, shape⟩ := List.head?_eq_some_iff.mp comment
  rw [shape] at text ⊢
  exact .comment fun c inside => text c (List.mem_cons_of_mem _ inside)

theorem readsLine_setting {config : Config} (apart : config.KeepsApart)
    {name value : String} {read : Document.Value} (member : (name, value) ∈ config.values)
    (shows : Shows value.toList read) :
    ReadsLine (writeOver config.values (settingLine name).toList) [.entry [] name read] := by
  have bare : ∀ name ∈ names, Document.IsBareKey name.toList := by decide
  have isName : name ∈ names := map_fst_values config ▸ List.mem_map_of_mem member
  have line := Document.ReadsLine.entry (bare name isName) shows
  rwa [String.ofList_toList, ← writeOver_values apart member] at line

theorem shows_quote (text : String) : Shows (Document.quote text).toList (.string text) := by
  have shows := Shows.text text.toList
  rwa [String.ofList_toList, ← String.toList_ofList (l := Document.quoteChars text.toList)] at shows

/-- The settings file is read as one line for each section and setting. -/
theorem reads_write {config : Config} (bounded : config.output.indent < 0x8000000000000000)
    (apart : config.KeepsApart) : Reads config.write.toList config.lines := by
  have comment : ∀ line ∈ outlineLines, line.toList.head? = some '#' →
      ReadsLine (writeOver config.values line.toList) [] := readsLine_comment
  have blank : ReadsLine (writeOver config.values "".toList) [] := by
    rw [writeOver_braceless (by decide)]
    exact .blank
  have header : ∀ name ∈ ["output", "dump"],
      ReadsLine (writeOver config.values ("[" ++ name ++ "]").toList) [.header [] name] := by
    have plain : ∀ name ∈ ["output", "dump"], Document.IsBareKey name.toList ∧
        '\x7b' ∉ ("[" ++ name ++ "]").toList := by
      decide
    intro name member
    rw [writeOver_braceless (plain name member).2]
    simpa using Document.ReadsLine.header (plain name member).1
  have setting : ∀ {name value read}, (name, value) ∈ config.values → Shows value.toList read →
      ReadsLine (writeOver config.values (settingLine name).toList) [.entry [] name read] :=
    readsLine_setting apart
  -- One kind of line for each line of the outline.
  have along : List.Forall₂ ReadsLine
      (outlineLines.map fun line => writeOver config.values line.toList)
      [[], [], [], [.header [] "output"], [], [.entry [] "indent" (.integer config.output.indent)],
        [], [], [.entry [] "template" (.string config.output.template)],
        [], [.entry [] "directory" (.string config.output.directory)],
        [], [.entry [] "timestamp_prefix" (.boolean config.output.timestampPrefix)],
        [], [.header [] "dump"], [],
        [.entry [] "structure_file" (.string config.dump.structureFile)],
        [.entry [] "keys_file" (.string config.dump.keysFile)],
        [.entry [] "constraints_file" (.string config.dump.constraintsFile)]] := by
    refine .cons (comment _ ?_ rfl) <| .cons (comment _ ?_ rfl) <| .cons blank <|
      .cons (header "output" ?_) <|
      .cons (comment _ ?_ rfl) <| .cons (setting ?_ (.number bounded)) <|
      .cons (comment _ ?_ rfl) <| .cons (comment _ ?_ rfl) <| .cons (setting ?_ (shows_quote _)) <|
      .cons (comment _ ?_ rfl) <| .cons (setting ?_ (shows_quote _)) <|
      .cons (comment _ ?_ rfl) <| .cons (setting ?_ (.flag _)) <| .cons blank <|
      .cons (header "dump" ?_) <|
      .cons (comment _ ?_ rfl) <| .cons (setting ?_ (shows_quote _)) <|
      .cons (setting ?_ (shows_quote _)) <| .cons (setting ?_ (shows_quote _)) .nil
    all_goals simp [outlineLines, values]
  rw [write_toList]
  exact .ofLines along

/-- The two sections of a settings file. -/
def sections (config : Config) : Document.Entries := [
  ("output", .table .header [
    ("indent", .integer config.output.indent),
    ("template", .string config.output.template),
    ("directory", .string config.output.directory),
    ("timestamp_prefix", .boolean config.output.timestampPrefix)]),
  ("dump", .table .header [
    ("structure_file", .string config.dump.structureFile),
    ("keys_file", .string config.dump.keysFile),
    ("constraints_file", .string config.dump.constraintsFile)])]

theorem ofLines_lines (config : Config) : Document.ofLines config.lines = some config.sections := by
  rfl

theorem ofEntries_sections (config : Config) : ofEntries config.sections = some config := by
  simp [ofEntries, sections, section?, readOutput, readDump, countSetting, textSetting, flagSetting,
    List.lookup_cons]

theorem head?_write (config : Config) : config.write.toList.head? = some '#' := by
  have first : writeOver config.values "# migration-cli 配置文件".toList =
      "# migration-cli 配置文件".toList :=
    writeOver_braceless (by decide)
  rw [write_toList, outlineLines, List.map_cons, List.flatMap_cons, first]
  rfl

/-- Settings that stay apart read back from the file that holds them. -/
theorem read?_write {config : Config} (bounded : config.output.indent < 0x8000000000000000)
    (apart : config.KeepsApart) : read? config.write = some config := by
  have whole : Document.read? config.write = Document.ofLines config.lines := by
    have reads := reads_write bounded apart
    obtain ⟨tail, shape⟩ := List.head?_eq_some_iff.mp (head?_write config)
    rw [shape] at reads
    rw [Document.read?, shape]
    have read := reads _ (Nat.lt_succ_self _)
    change (Document.readLines (('#' :: tail).length + 1) ('#' :: tail)).bind _ = _
    rw [read, Option.bind_some]
  rw [read?, whole, ofLines_lines, Option.bind_some, ofEntries_sections]

/-- A mark in a text is written over too, and its setting does not read back. -/
theorem read?_write_lost :
    read? (write { output := { template := "\x7bdirectory\x7d" } }) = none := by
  rw [read?, Document.read?, write_toList]
  decide +kernel

end TableMigration.Config

namespace TableMigration.Command

open File (Script Tree)

variable {config : Config} {path : String} {tree saved : Tree}

/-- Loading reads back what was written. -/
theorem loadConfig_of_save (h : (saveConfig config path).run tree = (.ok (), saved)) :
    (loadConfig path).run saved =
      (match Config.read? config.write with
        | some read => .ok read
        | none => .error .settings, saved) := by
  have written : (Script.writeText path config.write).run tree = (.ok (), saved) := by
    rw [saveConfig, Script.run_bind] at h
    obtain ⟨outcome, rfl⟩ := Prod.mk.inj h
    -- Saving succeeds only if the file was written.
    rcases answer : (Script.writeText path config.write).run tree with ⟨fault | ⟨⟩, changed⟩
    · rw [answer] at outcome
      cases outcome
    · rfl
  rw [loadConfig, Script.run_bind, Tree.readText_of_write written]
  dsimp only [causedBy, Except.mapError]
  cases Config.read? config.write <;> rfl

/-- Saved settings load again. -/
theorem loadConfig_save (bounded : config.output.indent < 0x8000000000000000)
    (apart : config.KeepsApart) (h : (saveConfig config path).run tree = (.ok (), saved)) :
    (loadConfig path).run saved = (.ok config, saved) := by
  rw [loadConfig_of_save h, Config.read?_write bounded apart]

/-- A working directory with nothing but a settings file. -/
def treeWith (config : Config) : Tree where
  entries := [(["migration.toml"], .file config.write.toUTF8)]
  workingDirectory := []

theorem saveConfig_empty (config : Config) :
    (saveConfig config "migration.toml").run { entries := [], workingDirectory := [] } =
      (.ok (), treeWith config) := by
  rfl

/-- The mark of a setting that was written before is text like any other. -/
theorem loadConfig_save_brace :
    let config : Config := { output := { template := "it's \"new\"", directory := "\x7btemplate\x7d" } }
    (saveConfig config "migration.toml").run { entries := [], workingDirectory := [] } =
        (.ok (), treeWith config) ∧
      (loadConfig "migration.toml").run (treeWith config) = (.ok config, treeWith config) :=
  ⟨saveConfig_empty _, loadConfig_save (by decide) (by decide +kernel) (saveConfig_empty _)⟩

/-- The mark of a later setting in a text is written over, and the file no longer loads. -/
theorem loadConfig_save_lost :
    let config : Config := { output := { template := "\x7bdirectory\x7d" } }
    (saveConfig config "migration.toml").run { entries := [], workingDirectory := [] } =
        (.ok (), treeWith config) ∧
      (loadConfig "migration.toml").run (treeWith config) = (.error .settings, treeWith config) := by
  refine ⟨saveConfig_empty _, ?_⟩
  rw [loadConfig_of_save (saveConfig_empty _), Config.read?_write_lost]

end TableMigration.Command
