import LintServer.Log
import LintServer.Report

/-!
# Diagnostics

What the editor shows for one document. `translate` turns the answer of a linter into
diagnostics, one for each problem and in the same order; whatever the answer is, it never fails.
-/

namespace LintServer

/-- A place in a document. Lines and characters count from zero. -/
structure Position where
  line : UInt32
  character : UInt32
deriving DecidableEq, Repr

/-- How bad a problem is. -/
inductive Severity
  | error
  | warning
deriving DecidableEq, Repr

/-- A diagnostic at one point of a document. -/
structure Diagnostic where
  start : Position
  stop : Position
  severity : Severity
  code : Option String
  source : String
  message : String
deriving DecidableEq, Repr

/-- The number of a severity in the editor's protocol. -/
def Severity.number : Severity → Nat
  | .error => 1
  | .warning => 2

/-- The severity a linter's code stands for: one is a warning, everything else an error. -/
def Severity.ofCode (code : Option Int64) : Severity :=
  if code = some 1 then .warning else .error

/-- One less, but never below the least number. -/
def lessOne (n : Int64) : Int64 := if n = Int64.minValue then n else n - 1

/-- The coordinate that counts from zero, for one that counts from one. What lies outside the
protocol's range goes to its nearer end. -/
def zeroBased (n : Option Int64) : UInt32 :=
  let below := lessOne (n.getD 0)
  (max 0 (min below 4294967295)).toUInt64.toUInt32

/-- The diagnostic for a problem; `source` names the linter. -/
def Problem.diagnostic (p : Problem) (source : String) : Diagnostic :=
  let position : Position := ⟨zeroBased p.line, zeroBased p.column⟩
  ⟨position, position, Severity.ofCode p.severity, p.ruleId, source, p.message.getD ""⟩

/-- **The diagnostics for a linter's answer.** Without an answer, or without a document in it,
there are none. -/
def translate (answer : Option Json) (source : String) : List Diagnostic :=
  match answer.bind fun v => (Report.ofJson v).document? with
  | none => []
  | some document => document.problems.map fun p => p.diagnostic source

/-- The counts of a report on a document: its own, or else those of the whole report. -/
def Report.summary (r : Report) (d : DocumentReport) : String :=
  let errors := (d.errorCount.or r.errorCount).getD 0
  let warnings := (d.warningCount.or r.warningCount).getD 0
  "engine report for " ++ d.filePath.getD "<text>" ++ ": " ++ toString errors.toNat
    ++ " error(s), " ++ toString warnings.toNat ++ " warning(s)"

/-- What is noted down when an answer is translated. -/
def translateLog (answer : Option Json) : List LogLine :=
  match answer.map Report.ofJson with
  | none => []
  | some r => r.document?.toList.map fun d => ⟨.debug, r.summary d⟩

/-- A position as the protocol writes it. -/
def Position.toJson (p : Position) : Json :=
  .ofMembers [("line", .nat p.line.toNat), ("character", .nat p.character.toNat)]

/-- A diagnostic as the protocol writes it. A code is written only if there is one. -/
def Diagnostic.toJson (d : Diagnostic) : Json :=
  .ofMembers ([("range", .ofMembers [("start", d.start.toJson), ("end", d.stop.toJson)]),
    ("severity", .nat d.severity.number), ("source", .string d.source),
    ("message", .string d.message)] ++ (d.code.map fun c => ("code", .string c)).toList)

end LintServer
