import LintServer.Json.Basic

/-!
# Reports of the linter

A linter answers with a JSON value of any shape. A `Report` is what can be made out of it: every
field is optional, and a field of the wrong type counts as not given. A report and the report on
one document may be written as objects or, by place, as arrays; a problem is always an object.
-/

namespace LintServer

/-- The top level of a report. The results stay as they are, so that one that is no document
report does not hide the others. -/
structure Report where
  errorCount : Option UInt64
  warningCount : Option UInt64
  results : Option (List Json)

/-- What was found in one document. -/
structure DocumentReport where
  filePath : Option String
  errorCount : Option UInt64
  warningCount : Option UInt64
  messages : Option (List Json)

/-- One finding. Lines and columns count from one. -/
structure Problem where
  line : Option Int64
  column : Option Int64
  severity : Option Int64
  ruleId : Option String
  message : Option String
deriving DecidableEq, Repr

/-- The report that says nothing. -/
def Report.empty : Report := ⟨none, none, none⟩

/-- Reads a report; a value that is none says nothing. -/
def Report.ofJson (v : Json) : Report :=
  match v.slots ["errorCount", "warningCount", "results"] with
  | some [errors, warnings, results] =>
    ⟨errors.bind Json.word64?, warnings.bind Json.word64?, results.bind Json.items?⟩
  | _ => .empty

/-- Reads the report on one document. -/
def DocumentReport.ofJson? (v : Json) : Option DocumentReport :=
  match v.slots ["filePath", "errorCount", "warningCount", "messages"] with
  | some [path, errors, warnings, messages] =>
    some ⟨path.bind Json.string?, errors.bind Json.word64?, warnings.bind Json.word64?,
      messages.bind Json.items?⟩
  | _ => none

/-- The report on the linted document: the linter is always handed one text, so only the first
result counts. -/
def Report.document? (r : Report) : Option DocumentReport :=
  (r.results.bind List.head?).bind DocumentReport.ofJson?

/-- Reads a problem; only an object is one. -/
def Problem.ofJson? : Json → Option Problem
  | .object members =>
    let field := fun name => members.lookup name
    some ⟨(field "line").bind Json.int64?, (field "column").bind Json.int64?,
      (field "severity").bind Json.int64?, (field "ruleId").bind Json.string?,
      (field "message").bind Json.string?⟩
  | _ => none

/-- The problems of a document, in the order of the report. -/
def DocumentReport.problems (d : DocumentReport) : List Problem :=
  (d.messages.getD []).filterMap Problem.ofJson?

end LintServer
