import CodeAudit.Data.Value

/-!
This module contains the language models that are recommended for analyses.
-/

namespace CodeAudit.Assist

/--
A language model as a list of models shows it. A server may give any values.
-/
structure Model where
  name : Value
  size : Value
  description : Value
  contextLength : Nat := 4096
  supportsChinese : Bool := true

/--
Who runs the models.
-/
def provider : String := "ollama"

/--
The recommended models by name.
-/
def recommendedModels : Table Model :=
  [("qwen3-coder",
      ⟨.text "qwen3-coder", .text "30B", .text "Qwen3 代码专用，效果最好，需 24GB+ 显存", 128000, true⟩),
    ("deepseek-r1",
      ⟨.text "deepseek-r1", .text "7.6B", .text "DeepSeek R1，推理能力强，性价比高", 128000, true⟩),
    ("qwen3:8b",
      ⟨.text "qwen3:8b", .text "8B", .text "Qwen3 通用模型，支持思考链", 128000, true⟩),
    ("deepseek-coder-v2:16b",
      ⟨.text "deepseek-coder-v2:16b", .text "16B", .text "DeepSeek Coder V2，代码专用", 128000, true⟩),
    ("codellama:7b",
      ⟨.text "codellama:7b", .text "7B", .text "Meta CodeLlama，经典代码模型", 16384, false⟩),
    ("llama3.2:3b",
      ⟨.text "llama3.2:3b", .text "3B", .text "Meta Llama 3.2，轻量快速，入门推荐", 128000, false⟩)]

/--
The model that is asked if none is chosen.
-/
def defaultModel : String := "llama3.2:3b"

end CodeAudit.Assist
