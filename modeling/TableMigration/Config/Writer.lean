import TableMigration.Config
import TableMigration.Document.Quoted
import TableMigration.Text.Basic

/-!
# Writing settings

A settings file with a comment on every setting. Its marks are written over one after another.
-/

namespace TableMigration.Config

/-- The mark of a setting: its name in braces. -/
def mark (setting : String) : String :=
  "\x7b" ++ setting ++ "\x7d"

def settingLine (setting : String) : String :=
  setting ++ " = " ++ mark setting

def outlineLines : List String := [
  "# migration-cli 配置文件",
  "# 所有配置项都可省略，省略时使用默认值",
  "",
  "[output]",
  "# 每条生成语句前的缩进空格数",
  settingLine "indent",
  "# 自定义迁移模板路径，留空使用内置模板",
  "# 模板中可用的占位符: DummyClass, DummyTable, // structure, // keys, // constraints",
  settingLine "template",
  "# generate --write 与 batch 命令输出迁移文件的目录",
  settingLine "directory",
  "# 是否在文件名前加 YYYY_MM_DD_HHMMSS_ 时间前缀",
  settingLine "timestamp_prefix",
  "",
  "[dump]",
  "# batch 命令在每张表目录下查找的导出文件名",
  settingLine "structure_file",
  settingLine "keys_file",
  settingLine "constraints_file"]

/-- The settings file, with a mark for each value. -/
def outline : List Char :=
  outlineLines.flatMap fun line => line.toList ++ ['\n']

/-- The settings with their values as a document holds them, in the order of writing. -/
def values (config : Config) : List (String × String) := [
  ("indent", toString config.output.indent),
  ("template", Document.quote config.output.template),
  ("directory", Document.quote config.output.directory),
  ("timestamp_prefix", if config.output.timestampPrefix then "true" else "false"),
  ("structure_file", Document.quote config.dump.structureFile),
  ("keys_file", Document.quote config.dump.keysFile),
  ("constraints_file", Document.quote config.dump.constraintsFile)]

/-- The settings file that holds these settings. A value may hold marks itself; those of later
settings are written over as well. -/
def write (config : Config) : String :=
  String.ofList <|
    config.values.foldl
      (fun text (setting, value) => Text.replaceAll (mark setting).toList value.toList text) outline

end TableMigration.Config
