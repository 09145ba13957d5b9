import TableMigration.Dump.MalformedRow
import TableMigration.File.Fault
import TableMigration.Template

/-!
# Failures

Why a command failed. The report names what was being done, then the causes, each after a colon.
-/

namespace TableMigration.Command

/-- What went wrong below a command, with a file or its content. -/
inductive Cause where
  | file (fault : File.Fault)
  /-- A settings file that is no document, or has a setting of the wrong kind. -/
  | settings
  | template (fault : TemplateFault)
deriving DecidableEq, Repr

def Cause.summary : Cause → String
  | .file fault => "IO 错误: " ++ fault.message
  | .settings => "配置错误"
  | .template fault => fault.message

/-- The cause with what is behind it; for a file that is the fault, which so is named twice. -/
def Cause.message : Cause → String
  | .file fault => (Cause.file fault).summary ++ ": " ++ fault.message
  | cause => cause.summary

inductive Failure where
  | loadSettings (path : String) (cause : Cause)
  | loadTemplate (path : String) (cause : Cause)
  | writeSettings (path : String) (cause : Cause)
  | readDump (path : String) (fault : File.Fault)
  | conversion (table : String) (row : Dump.MalformedRow)
  | makeOutputDirectory (path : String) (fault : File.Fault)
  | writeMigration (path : String) (fault : File.Fault)
  | listDumps (path : String) (fault : File.Fault)
  /-- So many tables could not be converted. -/
  | tables (count : Nat)
deriving DecidableEq, Repr

def Failure.message : Failure → String
  | .loadSettings path cause => "加载配置失败: " ++ path ++ ": " ++ cause.message
  | .loadTemplate path cause => "加载迁移模板失败: " ++ path ++ ": " ++ cause.message
  | .writeSettings path cause => "写入配置文件失败: " ++ path ++ ": " ++ cause.message
  | .readDump path fault => "读取导出文件失败: " ++ path ++ ": " ++ fault.message
  | .conversion table row => "转换表 " ++ table ++ " 失败: " ++ row.message
  | .makeOutputDirectory path fault => "创建输出目录失败: " ++ path ++ ": " ++ fault.message
  | .writeMigration path fault => "写入迁移文件失败: " ++ path ++ ": " ++ fault.message
  | .listDumps path fault =>
    "遍历导出目录失败: " ++ path ++ ": IO error for operation on " ++ path ++ ": " ++
      fault.message ++ ": " ++ fault.message
  | .tables count => toString count ++ " 张表转换失败"

end TableMigration.Command
