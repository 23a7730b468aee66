/-!
This module contains the kinds of analysis that a language model is asked for, and the templates of the
questions. A template has fields in braces.
-/

namespace CodeAudit.Assist

/--
A kind of analysis.
-/
inductive AnalysisKind where
  | codeReview
  | complexity
  | security
  | performance
  | refactor
  | explain
  | docstring
  deriving DecidableEq

namespace AnalysisKind

/--
All kinds of analysis.
-/
def all : List AnalysisKind :=
  [.codeReview, .complexity, .security, .performance, .refactor, .explain, .docstring]

/--
The name of a kind of analysis.
-/
def name : AnalysisKind → String
  | .codeReview => "code_review"
  | .complexity => "complexity"
  | .security => "security"
  | .performance => "performance"
  | .refactor => "refactor"
  | .explain => "explain"
  | .docstring => "docstring"

/--
The kind of analysis with a name.
-/
def ofName? (name : String) : Option AnalysisKind :=
  all.find? fun kind => kind.name == name

end AnalysisKind

/--
The template of a question: what it is called, what it is for, and its text.
-/
structure Template where
  name : String
  description : String
  kind : AnalysisKind
  text : String

/-! ### Texts -/

/-- The text of the template for `code_review`. -/
def Template.codeReviewText : String := "你是一个专业的代码审查专家。请审查以下代码并提供改进建议。

## 代码信息
- 文件: \x7bfile_path\x7d
- 语言: \x7blanguage\x7d
- 总行数: \x7btotal_lines\x7d
- 代码行数: \x7bcode_lines\x7d

## 代码内容
```\x7blanguage\x7d
\x7bcode\x7d
```

## AST 分析结果
\x7bast_summary\x7d

## 规则检查结果
\x7blint_results\x7d

请从以下方面进行审查：
1. **代码质量**: 可读性、可维护性、命名规范
2. **潜在问题**: Bug 风险、边界情况、异常处理
3. **最佳实践**: 是否遵循语言惯例和设计模式
4. **改进建议**: 具体的优化方案

请用中文回答，给出具体的代码示例。"

/-- The text of the template for `complexity`. -/
def Template.complexityText : String := "你是一个代码优化专家。请分析以下代码的复杂度问题。

## 代码信息
- 文件: \x7bfile_path\x7d
- 语言: \x7blanguage\x7d

## 复杂度较高的函数
\x7bcomplexity_info\x7d

## 代码内容
```\x7blanguage\x7d
\x7bcode\x7d
```

请分析：
1. **复杂度来源**: 是什么导致了高复杂度（嵌套、条件分支、循环等）
2. **影响评估**: 这种复杂度会带来什么问题
3. **重构方案**: 具体的简化步骤和代码示例

请用中文回答。"

/-- The text of the template for `security`. -/
def Template.securityText : String := "你是一个安全审计专家。请分析以下代码的安全性。

## 代码信息
- 文件: \x7bfile_path\x7d
- 语言: \x7blanguage\x7d

## 代码内容
```\x7blanguage\x7d
\x7bcode\x7d
```

## 导入的模块
\x7bimports\x7d

请检查以下安全问题：
1. **注入漏洞**: SQL 注入、命令注入、XSS 等
2. **敏感数据**: 硬编码密码、密钥泄露
3. **输入验证**: 是否正确验证用户输入
4. **权限问题**: 不安全的文件操作、权限提升
5. **依赖风险**: 使用的库是否有已知漏洞

对于每个发现的问题，请提供：
- 风险等级（高/中/低）
- 问题位置
- 修复建议

请用中文回答。"

/-- The text of the template for `performance`. -/
def Template.performanceText : String := "你是一个性能优化专家。请分析以下代码的性能问题。

## 代码信息
- 文件: \x7bfile_path\x7d
- 语言: \x7blanguage\x7d

## 代码内容
```\x7blanguage\x7d
\x7bcode\x7d
```

## AST 分析结果
\x7bast_summary\x7d

请分析：
1. **时间复杂度**: 算法效率，是否有 O(n²) 或更差的操作
2. **空间复杂度**: 内存使用，是否有不必要的数据复制
3. **I/O 操作**: 文件、网络操作是否高效
4. **循环优化**: 是否有可以向量化或并行化的循环
5. **缓存机会**: 是否有重复计算可以缓存

对于每个问题，请提供具体的优化代码示例。

请用中文回答。"

/-- The text of the template for `refactor`. -/
def Template.refactorText : String := "你是一个重构专家。请为以下代码提供重构建议。

## 代码信息
- 文件: \x7bfile_path\x7d
- 语言: \x7blanguage\x7d

## 代码内容
```\x7blanguage\x7d
\x7bcode\x7d
```

## 当前问题
\x7blint_results\x7d

请提供重构方案：
1. **设计模式**: 是否可以应用合适的设计模式
2. **函数拆分**: 过长的函数如何拆分
3. **类重组**: 类的职责是否单一，是否需要拆分或合并
4. **代码复用**: 是否有重复代码可以提取
5. **接口优化**: API 设计是否合理

请提供重构前后的代码对比。

请用中文回答。"

/-- The text of the template for `explain`. -/
def Template.explainText : String := "请解释以下代码的功能和实现逻辑。

## 代码信息
- 文件: \x7bfile_path\x7d
- 语言: \x7blanguage\x7d

## 代码内容
```\x7blanguage\x7d
\x7bcode\x7d
```

请提供：
1. **功能概述**: 这段代码的主要功能是什么
2. **执行流程**: 代码的执行步骤
3. **关键逻辑**: 核心算法或业务逻辑的解释
4. **输入输出**: 函数的参数和返回值说明
5. **依赖关系**: 与其他模块的关系

请用中文回答，适合初学者理解。"

/-- The text of the template for `docstring`. -/
def Template.docstringText : String := "请为以下代码生成文档字符串（docstring）。

## 代码信息
- 语言: \x7blanguage\x7d

## 代码内容
```\x7blanguage\x7d
\x7bcode\x7d
```

请为每个函数和类生成符合 \x7blanguage\x7d 规范的文档字符串，包括：
1. 功能描述
2. 参数说明（类型和含义）
3. 返回值说明
4. 异常说明（如果有）
5. 使用示例（如果合适）

请直接输出带有文档字符串的完整代码。"

/--
The template that a kind of analysis has from the start.
-/
def Template.standard : AnalysisKind → Template
  | .codeReview => ⟨"代码审查", "全面的代码审查，包括质量、风格、潜在问题", .codeReview, codeReviewText⟩
  | .complexity => ⟨"复杂度分析", "分析代码复杂度并提供简化建议", .complexity, complexityText⟩
  | .security => ⟨"安全分析", "检测潜在的安全漏洞", .security, securityText⟩
  | .performance => ⟨"性能分析", "分析性能瓶颈并提供优化建议", .performance, performanceText⟩
  | .refactor => ⟨"重构建议", "提供代码重构方案", .refactor, refactorText⟩
  | .explain => ⟨"代码解释", "解释代码的功能和逻辑", .explain, explainText⟩
  | .docstring => ⟨"文档生成", "为代码生成文档字符串", .docstring, docstringText⟩

end CodeAudit.Assist
