import CodeAudit.Fault
import CodeAudit.Format.Fault

/-!
This module contains the reasons why an analysis by a language model stops.
-/

namespace CodeAudit.Assist

/--
Why an analysis by a language model stops.
-/
inductive Fault where
  /-- The audit that goes before stops. -/
  | audit (f : CodeAudit.Fault)
  /-- The template of the question cannot be filled in. -/
  | template (f : Format.Fault)
  /-- There is no such kind of analysis. -/
  | analysisKind (name : String)
  /-- There is no such file. -/
  | noFile (path : String)
  /-- An address does not say how to get there. -/
  | address (url : String)
  /-- The server refuses a request. -/
  | refused (code reason : String)
  /-- The server cannot be reached. -/
  | unreachable (reason : String)
  /-- The server does not reply in time. -/
  | timeout (reason : String)
  /-- The exchange with the server ends in any other way. -/
  | broken (b : Breakdown)
  /-- A reply is no text. -/
  | undecodable (e : Text.Undecodable)
  deriving DecidableEq

/--
What is said when an analysis stops.
-/
def Fault.message : Fault → String
  | .audit f => f.message
  | .template f => f.message
  | .analysisKind name => Text.quoted name ++ " is not a valid AnalysisType"
  | .noFile path => "文件不存在: " ++ path
  | .address url => "unknown url type: " ++ Text.quoted url
  | .refused code reason => "HTTP 错误 " ++ code ++ ": " ++ reason
  | .unreachable reason => "无法连接到 Ollama 服务: " ++ reason
  | .timeout reason => reason
  | .broken b => b.message
  | .undecodable e => e.message

end CodeAudit.Assist
