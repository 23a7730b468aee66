import CodeAudit.Lint.Severity

/-!
This module contains the configuration of an audit: the settings of rules, and the presets from which
a configuration can start.
-/

namespace CodeAudit.Lint

/--
What a configuration says about a rule. Nothing is checked before the rule is made.
-/
structure Setting where
  severity : Value
  options : Value

namespace Setting

/--
Read a setting: a severity alone, a list with a severity and options, or an object with both.
-/
def ofValue : Value → Setting
  | .int n => ⟨.int n, .object []⟩
  | .bool b => ⟨.bool b, .object []⟩
  | .text s => ⟨.text s, .object []⟩
  | .list [] => ⟨.text "warn", .object []⟩
  | .list [severity] => ⟨severity, .object []⟩
  | .list (severity :: options :: _) => ⟨severity, options⟩
  | .object fields =>
    ⟨(Table.get? fields "severity").getD (.text "warn"),
      (Table.get? fields "options").getD (.object [])⟩
  | _ => ⟨.text "warn", .object []⟩

end Setting

/--
A configuration. All but the settings of rules is kept as it was given.
-/
structure Config where
  rules : Table Setting := []
  ignorePatterns : Value := .list []
  extends_ : Value := .list []
  plugins : Value := .list []

/-! ### Presets -/

/--
A setting with a bound.
-/
def bounded (severity : String) (max : Int) : Setting :=
  ⟨.text severity, .object [("max", .int max)]⟩

/--
A setting with a style of names.
-/
def styled (severity style : String) : Setting :=
  ⟨.text severity, .object [("style", .text style)]⟩

/--
The presets by their names.
-/
def presets : Table (Table Setting) :=
  [("recommended",
      [("complexity/max-complexity", bounded "warn" 10),
        ("complexity/max-function-lines", bounded "warn" 50),
        ("complexity/max-params", bounded "warn" 5),
        ("naming/function-naming", styled "warn" "snake_case"),
        ("naming/class-naming", styled "warn" "PascalCase"),
        ("structure/max-file-lines", bounded "warn" 500),
        ("structure/max-classes-per-file", bounded "warn" 5),
        ("structure/max-functions-per-file", bounded "warn" 20)]),
    ("strict",
      [("complexity/max-complexity", bounded "error" 8),
        ("complexity/max-function-lines", bounded "error" 30),
        ("complexity/max-params", bounded "error" 4),
        ("naming/function-naming", styled "error" "snake_case"),
        ("naming/class-naming", styled "error" "PascalCase"),
        ("structure/max-file-lines", bounded "error" 300),
        ("structure/max-classes-per-file", bounded "error" 3),
        ("structure/max-functions-per-file", bounded "error" 10)]),
    ("minimal", [("complexity/max-complexity", bounded "error" 15)])]

namespace Config

/--
The settings of a preset. A preset that is not known has none.
-/
def presetRules (name : String) : Table Setting :=
  (presets.get? name).getD []

/--
The configuration of a preset.
-/
def ofPreset (name : String) : Config :=
  { rules := presetRules name }

/--
The configuration of the preset that a value names.
-/
def ofPresetValue (name : Value) : Except Fault Config := do
  match ← orFault name.lookupText? with
  | some name => return ofPreset name
  | none => return {}

/--
The configuration if none is given.
-/
def standard : Config := ofPreset "recommended"

/--
Put the settings of presets one over the other.
-/
def overlayPresets (rules : Table Setting) : List Value → Except Fault (Table Setting)
  | [] => .ok rules
  | name :: names => do
    let preset ← ofPresetValue name
    overlayPresets (rules.overlay preset.rules) names

/--
What a configuration extends: one preset or several.
-/
def extendsOf (fields : Table Value) : Value :=
  match (fields.get? "extends").getD (.list []) with
  | .text name => .list [.text name]
  | v => v

/--
Read a configuration. Its settings go over those of the presets that it extends, as a whole for each
rule.
-/
def ofValue (v : Value) : Except Fault Config := do
  let fields ← orFault (v.fieldsFor "get")
  let extends_ := extendsOf fields
  let base ← overlayPresets [] (← orFault extends_.members)
  let given ← orFault (((fields.get? "rules").getD (.object [])).fieldsFor "items")
  return {
    rules := base.overlay (given.map fun entry => (entry.1, Setting.ofValue entry.2))
    ignorePatterns := (fields.get? "ignorePatterns").getD (.list [])
    extends_
    plugins := (fields.get? "plugins").getD (.list []) }

end Config

end CodeAudit.Lint
