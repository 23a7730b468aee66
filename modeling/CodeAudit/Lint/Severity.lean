import CodeAudit.Fault
import CodeAudit.Unicode.Case

/-!
This module contains how severe a finding is, and how that is written in a configuration.
-/

namespace CodeAudit.Lint

/--
How severe a finding is. A rule with the severity `off` does not run.
-/
inductive Severity where
  | off
  | warn
  | error
  deriving DecidableEq

namespace Severity

/--
The name of a severity.
-/
def name : Severity → String
  | .off => "OFF"
  | .warn => "WARN"
  | .error => "ERROR"

/--
All severities by their names.
-/
def named : Table Severity :=
  [("OFF", .off), ("WARN", .warn), ("ERROR", .error)]

/--
The severity that a number stands for.
-/
def ofInt (n : Int) : Except Fault Severity :=
  if n = 0 then .ok .off
  else if n = 1 then .ok .warn
  else if n = 2 then .ok .error
  else .error (.severityNumber n)

/--
The severity of a name in any case of its letters.
-/
def ofName (s : String) : Except Fault Severity :=
  match named.get? (Unicode.upper s) with
  | some severity => .ok severity
  | none => .error (.severityName (Unicode.upper s))

/--
The severity that a value stands for. The two truth values count as numbers, and a value that is
neither a number nor a name warns.
-/
def ofValue : Value → Except Fault Severity
  | .bool b => ofInt (if b then 1 else 0)
  | .int n => ofInt n
  | .text s => ofName s
  | _ => .ok .warn

end Severity

end CodeAudit.Lint
