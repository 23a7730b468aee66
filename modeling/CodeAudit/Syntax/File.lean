import CodeAudit.Files.Store
import CodeAudit.Syntax.Outline

/-!
This module contains the outline of a Python source file.
-/

namespace CodeAudit.Syntax

/--
What is reported about a source file that cannot be read.
-/
def unreadableMessage (path : String) : Files.ReadFault → String
  | .missing _ => "文件不存在: " ++ path
  | e => "读取文件错误: " ++ e.message

/--
The outline of a Python source file. A file that cannot be read has an outline that says so.
-/
def outlineOfFile (addresses : Addresses) (files : Files.Store) (path : String) : Outline :=
  match files.readText path with
  | .ok code => outline addresses code path
  | .error e => .failed path languageName (unreadableMessage path e)

end CodeAudit.Syntax
