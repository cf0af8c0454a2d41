import BracketScript.Session.Dispatch

/-!
# Running files and directories

A file is run line by line, a directory entry by entry. What happens is recorded in a report, and
nothing that goes wrong keeps the run from giving one.

## Main definitions

* `recordLine`: the report after one more line
* `runFile`, `runDirectory`, `runTarget`, `runPath`: running what is at a path
* `evaluator`: evaluation with bounded nesting and bounded loops
* `Session.eval`, `Session.run`: evaluating a line and running a path

## Main results

* `isCodeLine_iff`: which lines are to be evaluated
-/

namespace BracketScript

/-- Recorded for a file that cannot be read. -/
def couldNotOpen : Label := .text "could not open file"

/-- Recorded for a file without content. -/
def noData : Label := .text "there is no data in the input file to evaluate"

/-- Recorded for an empty path. -/
def emptyTarget : Label := .text "target path is empty"

/-- Recorded for a target that is already being run. -/
def recursiveRun : Label := .text "recursive evaluation"

/-- The path without the white space around it and the slashes at its end. -/
def targetPath (path : String) : String :=
  String.ofList ((Text.Chars.trim path.toList).reverse.dropWhile (· == '/')).reverse

/-- Whether a line is to be evaluated: it is neither blank nor a remark. -/
def isCodeLine (line : String) : Bool :=
  match (Text.trimStart line).toList with
  | [] => false
  | c :: _ => c != '#'

/-- A line is to be evaluated if the first visible character in it is no `#`. -/
theorem isCodeLine_iff {line : String} : isCodeLine line = true ↔
    ∃ indent c rest, line.toList = indent ++ c :: rest ∧
      (∀ b ∈ indent, Text.isBlank b = true) ∧ Text.isBlank c = false ∧ c ≠ '#' := by
  rw [isCodeLine, Text.trimStart, String.toList_ofList]
  constructor
  · intro h
    cases hstart : Text.Chars.trimStart line.toList with
    | nil =>
      rw [hstart] at h
      cases h
    | cons c rest =>
      rw [hstart] at h
      obtain ⟨⟨indent, hindent, hline⟩, hhead⟩ := Text.Chars.trimStart_eq_iff.mp hstart
      exact ⟨indent, c, rest, hline, hindent, hhead c rfl, by simpa using h⟩
  · rintro ⟨indent, c, rest, hline, hindent, hc, hne⟩
    have hstart : Text.Chars.trimStart line.toList = c :: rest :=
      Text.Chars.trimStart_eq_iff.mpr ⟨⟨indent, hindent, hline⟩, by simpa using hc⟩
    rw [hstart]
    simpa using hne

/-- The lines of a file that are to be evaluated, without white space at their ends. -/
def codeLines (data : String) : List String :=
  ((Text.lines data).map Text.trimEnd).filter isCodeLine

/-- The report of a target after a line with the given outcome: a pass or an error is recorded below
the line, the report of a nested run below its own label, and a plain value not at all. -/
def recordLine (report : Report) (path line : String) : Except ScriptError Value → Report
  | .ok .pass => (report.add (.text path) (.text line)).add (.text line) .pass
  | .ok (.report tree) => (report.add (.text path) tree.label).addTree tree
  | .ok _ => report
  | .error error =>
    (report.add (.text path) (.text line)).add (.text line) (.text error.message)

/-- Evaluates lines one after the other and records them. -/
def runLines (e : Evaluator) (path : String) : Report → List String → Action Report
  | report, [] => return report
  | report, line :: rest => do
    let outcome ← Action.attempt (e.line line)
    runLines e path (recordLine report path line outcome) rest

/-- Runs the entries of a directory one after the other and records their reports. -/
def runEntries (e : Evaluator) (path : String) : Report → List String → Action Report
  | report, [] => return report
  | report, name :: rest => do
    let child ← e.run (path ++ "/" ++ name)
    runEntries e path ((report.add (.text path) child.label).addTree child) rest

/-- Runs the file at a path. -/
def runFile (host : Host) (e : Evaluator) (path : String) : Action Report :=
  let report := Report.ofText path
  match host.scripts.read path with
  | .error error =>
    return (report.add (.text path) couldNotOpen).add couldNotOpen (.text error.message)
  | .ok data =>
    if data.isEmpty then return report.add (.text path) noData
    else runLines e path report (codeLines data)

/-- Runs the directory at a path. -/
def runDirectory (host : Host) (e : Evaluator) (path : String) : Action Report :=
  let report := Report.ofText path
  match host.scripts.list path with
  | .error error => return report.add (.text path) (.text error.message)
  | .ok names => runEntries e path report names

/-- Runs what is at a path. -/
def runTarget (host : Host) (e : Evaluator) (path : String) : Action Report :=
  if host.scripts.isDirectory path then runDirectory host e path else runFile host e path

/-- Runs what is at a path, unless the path is empty or is being run already. -/
def runPath (host : Host) (e : Evaluator) (given : String) : Action Report := do
  let path := targetPath given
  let report := Report.ofText path
  if path.isEmpty then
    return (report.add (.text path) couldNotOpen).add couldNotOpen emptyTarget
  else if (← get).active.contains path then
    return (report.add (.text path) recursiveRun).add recursiveRun
      (.text (path ++ " is already being evaluated"))
  else
    modify fun s => { s with active := path :: s.active }
    let report ← runTarget host e path
    modify fun s => { s with active := s.active.tail }
    return report

/-- Evaluation of lines and targets with evaluations nested less than `limit` deep and less than
`limit` rounds in each loop; what would exceed that is cut off. -/
def evaluator (host : Host) : Nat → Evaluator
  | 0 => ⟨fun _ => Action.cutOff, fun _ => Action.cutOff⟩
  | limit + 1 =>
    ⟨fun line => evalLine host (evaluator host limit) limit line,
      fun path => runPath host (evaluator host limit) path⟩

namespace Session

/-- The value of a line. -/
def eval (host : Host) (limit : Nat) (line : String) : Action Value :=
  (evaluator host limit).line line

/-- The report of a run. -/
def run (host : Host) (limit : Nat) (path : String) : Action Report :=
  (evaluator host limit).run path

/-- Calls a built-in by name with argument text. -/
def dispatch (host : Host) (limit : Nat) (name raw : String) : Action Value :=
  BracketScript.dispatch host (evaluator host limit) limit name raw

/-- Calls a built-in by name with evaluated arguments. -/
def call (host : Host) (limit : Nat) (name : String) (values : List Value) : Action Value :=
  callFunction host (evaluator host limit) limit name values

end Session

end BracketScript
