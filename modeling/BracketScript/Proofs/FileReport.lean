import BracketScript.Proofs.CodeLines
import BracketScript.Proofs.Line
import BracketScript.Proofs.TargetPath
import BracketScript.Report.Summary
import Mathlib.Data.List.FinRange

/-!
# Reports of files

The report of a file is built line by line, by merging two small trees for each line that passes or
fails: the line goes below the path, and the outcome below the line. The merge knows nodes by their
labels only. So an outcome also goes below each earlier line with the same text, and for a line
whose text is the path itself both trees are merged into the root: the outcome then stands beside
the line, where the classifier does not look for it.

## Main definitions

* `Record`: a line with the label of its outcome
* `recordsOf`: what is recorded of the lines of a file
* `outcomesFrom`: the outcomes that end up below one of the recorded lines
* `recordedLines`, `recordedFailures`: the nodes below the root of a report and its failures, if no
  line is the path
* `nodesBelow`: the nodes below the root of a report in general

## Main results

* `Report.record_eq`: what one more record does to a report
* `Report.foldl_record`: what all of them do
* `Session.runs_file_exactly`: the report of a file and its failures, if no line is the path
* `Session.runs_file_failures_iff`: a file has failures exactly if a line fails that is not the path
-/

namespace BracketScript

/-! ### What is recorded of a line -/

/-- A line of a file and the label of its outcome. -/
structure Record where
  line : String
  outcome : Label
  deriving DecidableEq, Repr

/-- The label of the outcome of a line: the pass mark, or the wording of an error. Other outcomes
have none. -/
def Session.Outcome.label? : Session.Outcome → Option Label
  | .ok .pass => some .pass
  | .error error => some (.text error.message)
  | _ => none

/-- The records of lines with the given outcomes, in order. -/
def recordsOf (results : List (String × Session.Outcome)) : List Record :=
  results.filterMap fun r => (Session.Outcome.label? r.2).map (Record.mk r.1)

theorem mem_recordsOf {results : List (String × Session.Outcome)} {r : Record} :
    r ∈ recordsOf results ↔ ∃ outcome, (r.line, outcome) ∈ results ∧
      Session.Outcome.label? outcome = some r.outcome := by
  obtain ⟨line, label⟩ := r
  simp only [recordsOf, List.mem_filterMap, Option.map_eq_some_iff, Record.mk.injEq, Prod.exists]
  constructor
  · rintro ⟨l, outcome, hmem, o, ho, rfl, rfl⟩
    exact ⟨outcome, hmem, ho⟩
  · rintro ⟨outcome, hmem, ho⟩
    exact ⟨line, outcome, hmem, label, ho, rfl, rfl⟩

theorem Session.Outcome.label?_eq_some_iff_of_ne_pass {outcome : Session.Outcome} {label : Label}
    (h : label ≠ .pass) :
    label? outcome = some label ↔
      ∃ error, outcome = .error error ∧ label = .text error.message := by
  rcases outcome with error | value
  · simp [label?, eq_comm]
  · cases value <;> simp [label?, h.symm]

/-- A line that fails is recorded with the wording of its error. -/
theorem record_mem_recordsOf {results : List (String × Session.Outcome)} {line : String}
    {error : ScriptError} (h : (line, .error error) ∈ results) :
    ⟨line, .text error.message⟩ ∈ recordsOf results :=
  mem_recordsOf.mpr ⟨_, h, rfl⟩

/-! ### What the records do to a report -/

namespace Report

/-- A tree with the label of the root is merged into the root. -/
theorem addTree_self (label : Label) (children below : List Report) :
    addTree ⟨label, children⟩ ⟨label, below⟩ = ⟨label, children ++ below⟩ :=
  if_pos rfl

/-- A tree with another label is merged into the nodes below the root that have its label. -/
theorem addTree_of_ne {label label' : Label} (h : label ≠ label') (children below : List Report) :
    addTree ⟨label, children⟩ ⟨label', below⟩ =
      ⟨label, children.map fun node =>
        if node.label = label' then ⟨node.label, node.children ++ below⟩ else node⟩ :=
  if_neg h

/-- The report of the file at a path after one more record. -/
def record (path : String) (report : Report) (r : Record) : Report :=
  (report.add (.text path) (.text r.line)).add (.text r.line) r.outcome

/-- The labels of the nodes that a record puts right below the root. -/
def newLabels (path : String) (r : Record) : List Label :=
  if r.line = path then [.text path, r.outcome] else [.text r.line]

/-- The outcomes that records put below the nodes with a given label. None go below a line that is
the path itself. -/
def collected (path : String) (records : List Record) (label : Label) : List Label :=
  (records.filter fun r => r.line ≠ path ∧ .text r.line = label).map Record.outcome

/-- A node below the root after the given records. -/
def collect (path : String) (records : List Record) (node : Report) : Report :=
  ⟨node.label, node.children ++ (collected path records node.label).map leaf⟩

/-- The nodes that records put below the root, each with the outcomes that it gets. -/
def nodesBelow (path : String) : List Record → List Report
  | [] => []
  | r :: rest => (newLabels path r).map (fun label => collect path (r :: rest) (leaf label)) ++
      nodesBelow path rest

variable {path : String} {records : List Record} {children : List Report}

/-- Records of lines that are all the path put nothing below a node. -/
theorem collect_eq_self (h : ∀ r ∈ records, r.line = path) (node : Report) :
    collect path records node = node := by
  have hnil : collected path records node.label = [] := by
    rw [collected, List.map_eq_nil_iff, List.filter_eq_nil_iff]
    intro r hr
    simp [h r hr]
  obtain ⟨label, children⟩ := node
  simp only [collect, hnil, List.map_nil, List.append_nil]

theorem collect_nil : collect path [] = id :=
  funext fun node => collect_eq_self (by simp) node

theorem collect_cons (r : Record) (node : Report) :
    collect path records (collect path [r] node) = collect path (r :: records) node := by
  have hcons : collected path (r :: records) node.label =
      collected path [r] node.label ++ collected path records node.label := by
    rw [collected, collected, collected, ← List.map_append, ← List.filter_append]
    rfl
  simp only [collect, hcons, List.map_append, List.append_assoc]

/-- What one more record does to a report: it puts a node below the root, or two if the line is the
path, and an outcome below all the nodes with the text of the line, unless it is the path. -/
theorem record_eq (path : String) (children : List Report) (r : Record) :
    record path ⟨.text path, children⟩ r =
      ⟨.text path, (children ++ (newLabels path r).map leaf).map (collect path [r])⟩ := by
  rw [record, add, add, addTree_self]
  by_cases hline : r.line = path
  · -- both merges match the root, and no node collects anything
    have hself : collect path [r] = id :=
      funext fun node => collect_eq_self (by simpa using hline) node
    rw [newLabels, if_pos hline, hself, List.map_id, hline, addTree_self, List.append_assoc]
    rfl
  · rw [newLabels, if_neg hline, addTree_of_ne (by simpa [eq_comm] using hline)]
    congr 1
    refine List.map_congr_left fun node _ => ?_
    obtain ⟨label, below⟩ := node
    by_cases hlabel : label = .text r.line
    · simp [collect, collected, hline, hlabel]
    · simp [collect, collected, hlabel, eq_comm]

/-- What records do to a report, one after the other. -/
theorem foldl_record (path : String) (children : List Report) (records : List Record) :
    records.foldl (record path) ⟨.text path, children⟩ =
      ⟨.text path, children.map (collect path records) ++ nodesBelow path records⟩ := by
  induction records generalizing children with
  | nil => rw [List.foldl_nil, collect_nil, List.map_id, nodesBelow, List.append_nil]
  | cons r rest ih =>
    rw [List.foldl_cons, record_eq, ih, nodesBelow]
    -- old nodes and new ones collect the outcome of `r` first and those of the rest after it
    simp only [List.map_map, List.map_append, List.append_assoc]
    congr 2
    · refine List.map_congr_left fun node _ => ?_
      exact collect_cons r node
    · congr 1
      refine List.map_congr_left fun label _ => ?_
      exact collect_cons r (leaf label)

/-- A line that does not give a report is recorded, or leaves no trace. -/
theorem recordLine_eq {report : Report} {line : String} {outcome : Session.Outcome}
    (h : outcome.report? = none) :
    recordLine report path line outcome =
      (outcome.label?.map (Record.mk line)).elim report (record path report) := by
  rcases outcome with error | value
  · rfl
  · -- a pass is recorded, and the other values are not
    cases value with
    | report tree => exact absurd h (by simp [Session.Outcome.report?])
    | _ => rfl

/-- The report of a file none of whose lines gives a report is made of the records of its lines. -/
theorem foldl_recordLine {results : List (String × Session.Outcome)}
    (h : ∀ r ∈ results, r.2.report? = none) :
    results.foldl (fun report r => recordLine report path r.1 r.2) (ofText path) =
      ⟨.text path, nodesBelow path (recordsOf results)⟩ := by
  have hrecords (report : Report) :
      results.foldl (fun report r => recordLine report path r.1 r.2) report =
        (recordsOf results).foldl (record path) report := by
    induction results generalizing report with
    | nil => rfl
    | cons r rest ih =>
      rw [List.foldl_cons, recordLine_eq (h r List.mem_cons_self), recordsOf,
        List.filterMap_cons, ih fun r' hr' => h r' (List.mem_cons_of_mem _ hr')]
      cases (Session.Outcome.label? r.2).map (Record.mk r.1) <;> rfl
  rw [hrecords, ofText, leaf, foldl_record]
  rfl

/-! ### Failures among the nodes -/

theorem passes_leaf (label : Label) : (leaf label).passes = decide (label = .pass) := by
  cases label with
  | text s => simp [leaf, passes_text]
  | pass => simp [leaf]

/-- A line passes if it has outcomes and each is the pass mark. -/
theorem passes_outcomes (line : String) (outcomes : List Label) :
    passes ⟨.text line, outcomes.map leaf⟩ =
      (!outcomes.isEmpty && outcomes.all fun o => decide (o = .pass)) := by
  rw [passes_text, List.isEmpty_map, List.all_map]
  congr 2
  funext o
  exact passes_leaf o

theorem failuresBelow_leaf (parent label : Label) :
    failuresBelow parent failures (leaf label) = [] := by
  simp [failuresBelow, leaf, failures_eq_flatMap]

/-- A line is shown with its first outcome if any of its outcomes is a failure. -/
theorem failuresBelow_outcomes (parent : Label) (line : String) (o : Label)
    (outcomes : List Label) :
    failuresBelow parent failures ⟨.text line, (o :: outcomes).map leaf⟩ =
      if (o :: outcomes).any (fun o' => decide (o' ≠ .pass)) then
        [edge parent (.text line), edge (.text line) o]
      else [] := by
  have hpasses := passes_outcomes line (o :: outcomes)
  rw [List.isEmpty_cons, Bool.not_false, Bool.true_and] at hpasses
  have hany : (o :: outcomes).any (fun o' => decide (o' ≠ .pass)) =
      !passes ⟨.text line, (o :: outcomes).map leaf⟩ := by
    rw [hpasses, List.not_all_eq_any_not]
    simp
  rw [hany, failuresBelow]
  cases passes ⟨.text line, (o :: outcomes).map leaf⟩ <;> rfl

/-- A node with outcomes below it is shown only if one of them is a failure. -/
theorem exists_failure_of_failuresBelow {parent label : Label} {outcomes : List Label}
    (h : failuresBelow parent failures ⟨label, outcomes.map leaf⟩ ≠ []) :
    ∃ o ∈ outcomes, o ≠ .pass := by
  cases label with
  | pass => exact absurd (by simp [failuresBelow]) h
  | text line =>
    cases outcomes with
    | nil => exact absurd (failuresBelow_leaf parent (.text line)) h
    | cons o rest =>
      rw [failuresBelow_outcomes] at h
      by_contra hpass
      push Not at hpass
      refine h (if_neg ?_)
      simpa using hpass

/-- A record of a line that is not the path has a node of its own, with its outcome first. -/
theorem mem_nodesBelow_of_record {r : Record} (hr : r ∈ records) (hline : r.line ≠ path) :
    ∃ outcomes : List Label,
      ⟨.text r.line, (r.outcome :: outcomes).map leaf⟩ ∈ nodesBelow path records := by
  induction records with
  | nil => exact absurd hr (by simp)
  | cons r' rest ih =>
    rw [nodesBelow]
    rcases List.mem_cons.mp hr with rfl | hrest
    · -- the node that the record itself puts below the root
      refine ⟨collected path rest (.text r.line), List.mem_append_left _ ?_⟩
      rw [newLabels, if_neg hline]
      simp [collect, collected, leaf, hline]
    · obtain ⟨outcomes, hmem⟩ := ih hrest
      exact ⟨outcomes, List.mem_append_right _ hmem⟩

/-- Each node below the root has a label and the outcomes that some of the records put there. -/
theorem exists_of_mem_nodesBelow {node : Report} (h : node ∈ nodesBelow path records) :
    ∃ (label : Label) (outcomes : List Label), node = ⟨label, outcomes.map leaf⟩ ∧
      ∀ o ∈ outcomes, ∃ r ∈ records, r.line ≠ path ∧ r.outcome = o := by
  induction records with
  | nil => exact absurd h (by simp [nodesBelow])
  | cons r rest ih =>
    rw [nodesBelow] at h
    rcases List.mem_append.mp h with hnew | hrest
    · obtain ⟨label, -, rfl⟩ := List.mem_map.mp hnew
      refine ⟨label, collected path (r :: rest) label, rfl, fun o ho => ?_⟩
      obtain ⟨r', hr', rfl⟩ := List.mem_map.mp ho
      obtain ⟨hmem, hcond⟩ := List.mem_filter.mp hr'
      exact ⟨r', hmem, (of_decide_eq_true hcond).1, rfl⟩
    · obtain ⟨label, outcomes, hnode, houtcomes⟩ := ih hrest
      refine ⟨label, outcomes, hnode, fun o ho => ?_⟩
      obtain ⟨r', hr', hr''⟩ := houtcomes o ho
      exact ⟨r', List.mem_cons_of_mem _ hr', hr''⟩

/-- A record of a failure of a line that is not the path is shown. -/
theorem mem_failures_of_record {r : Record} (hr : r ∈ records) (hline : r.line ≠ path)
    (hfail : r.outcome ≠ .pass) :
    edge (.text r.line) r.outcome ∈ failures ⟨.text path, nodesBelow path records⟩ := by
  obtain ⟨outcomes, hmem⟩ := mem_nodesBelow_of_record hr hline
  rw [failures_eq_flatMap, List.mem_flatMap]
  refine ⟨_, hmem, ?_⟩
  rw [failuresBelow_outcomes, if_pos (by simp [hfail])]
  simp

/-- There are failures exactly if there is a record of a failure of a line that is not the path. -/
theorem failures_nodesBelow_ne_nil_iff :
    failures ⟨.text path, nodesBelow path records⟩ ≠ [] ↔
      ∃ r ∈ records, r.line ≠ path ∧ r.outcome ≠ .pass := by
  constructor
  · intro h
    obtain ⟨shown, hshown⟩ := List.exists_mem_of_ne_nil _ h
    rw [failures_eq_flatMap, List.mem_flatMap] at hshown
    obtain ⟨node, hnode, hshown⟩ := hshown
    obtain ⟨label, outcomes, rfl, houtcomes⟩ := exists_of_mem_nodesBelow hnode
    obtain ⟨o, ho, hfail⟩ := exists_failure_of_failuresBelow (List.ne_nil_of_mem hshown)
    obtain ⟨r, hr, hline, rfl⟩ := houtcomes o ho
    exact ⟨r, hr, hline, hfail⟩
  · rintro ⟨r, hr, hline, hfail⟩
    exact List.ne_nil_of_mem (mem_failures_of_record hr hline hfail)

/-- There are failures exactly if a line fails that is not the path. -/
theorem failures_recordsOf_ne_nil_iff {results : List (String × Session.Outcome)} :
    failures ⟨.text path, nodesBelow path (recordsOf results)⟩ ≠ [] ↔
      ∃ line error, (line, .error error) ∈ results ∧ line ≠ path := by
  rw [failures_nodesBelow_ne_nil_iff]
  constructor
  · rintro ⟨r, hr, hline, hfail⟩
    obtain ⟨outcome, hmem, hlabel⟩ := mem_recordsOf.mp hr
    obtain ⟨error, rfl, -⟩ := (Session.Outcome.label?_eq_some_iff_of_ne_pass hfail).mp hlabel
    exact ⟨r.line, error, hmem, hline⟩
  · rintro ⟨line, error, hmem, hline⟩
    exact ⟨_, record_mem_recordsOf hmem, hline, by simp⟩

end Report

/-! ### Records line by line -/

/-- The outcomes below the `j`-th recorded line: its own one, and those of the later lines with the
same text. -/
def outcomesFrom (records : List Record) (j : Fin records.length) : List Label :=
  ((records.drop j).filter fun r => r.line = (records.get j).line).map Record.outcome

/-- The nodes for recorded lines, one for each. -/
def recordedLines (records : List Record) : List Report :=
  (List.finRange records.length).map fun j =>
    ⟨.text (records.get j).line, (outcomesFrom records j).map .leaf⟩

/-- The failures of recorded lines: each line below which there is a failure is shown together with
its own outcome. -/
def recordedFailures (path : String) (records : List Record) : List String :=
  (List.finRange records.length).flatMap fun j =>
    if (outcomesFrom records j).any (fun o => decide (o ≠ .pass)) then
      [Report.edge (.text path) (.text (records.get j).line),
        Report.edge (.text (records.get j).line) (records.get j).outcome]
    else []

variable {path : String} {records : List Record}

theorem outcomesFrom_eq_cons (records : List Record) (j : Fin records.length) :
    outcomesFrom records j = (records.get j).outcome ::
      ((records.drop (j + 1)).filter fun r => r.line = (records.get j).line).map
        Record.outcome := by
  have hdrop : records.drop j = records.get j :: records.drop (j + 1) :=
    List.drop_eq_getElem_cons j.isLt
  rw [outcomesFrom, hdrop, List.filter_cons_of_pos (by simp), List.map_cons]

theorem recordedLines_cons (r : Record) (rest : List Record) :
    recordedLines (r :: rest) =
      ⟨.text r.line, (outcomesFrom (r :: rest) ⟨0, Nat.succ_pos _⟩).map .leaf⟩ ::
        recordedLines rest := by
  simp only [recordedLines, List.length_cons, List.finRange_succ, List.map_cons, List.map_map]
  rfl

/-- If no line is the path, the nodes below the root are those of the lines, one for each. -/
theorem nodesBelow_eq_recordedLines (h : ∀ r ∈ records, r.line ≠ path) :
    Report.nodesBelow path records = recordedLines records := by
  induction records with
  | nil => rfl
  | cons r rest ih =>
    -- no record is lost on the path, so the first line gets all the outcomes of its text
    have hcollected : Report.collected path (r :: rest) (.text r.line) =
        outcomesFrom (r :: rest) ⟨0, Nat.succ_pos _⟩ := by
      rw [Report.collected, outcomesFrom, List.drop_zero]
      congr 1
      refine List.filter_congr fun r' hr' => ?_
      simp [h r' hr']
    rw [recordedLines_cons, ← hcollected, Report.nodesBelow, Report.newLabels,
      if_neg (h r List.mem_cons_self), ih fun r' hr' => h r' (List.mem_cons_of_mem _ hr')]
    rfl

/-- The failures of recorded lines are those of their nodes. -/
theorem failures_recordedLines (path : String) (records : List Record) :
    Report.failures ⟨.text path, recordedLines records⟩ = recordedFailures path records := by
  rw [Report.failures_eq_flatMap, recordedLines, List.flatMap_map, recordedFailures]
  congr 1
  funext j
  rw [outcomesFrom_eq_cons, Report.failuresBelow_outcomes]

namespace Session

variable {host : Host} {s u : Session} {data : String} {results : List (String × Outcome)}

/-! ### Runs of files -/

/-- The report of a file none of whose lines gives a report. -/
theorem runs_of_runsLines {given : String} (h : refusal? s given = none)
    (hfile : host.scripts.isDirectory (targetPath given) = false)
    (hread : host.scripts.read (targetPath given) = .ok data) (hdata : data ≠ "")
    (hlines : RunsLines host (s.enter (targetPath given)) results u)
    (hcode : results.map Prod.fst = codeLines data)
    (hreports : ∀ r ∈ results, r.2.report? = none) :
    Runs host given s
      ⟨.text (targetPath given), Report.nodesBelow (targetPath given) (recordsOf results)⟩
      u.leave := by
  rw [runs_iff_runsLines h hfile hread hdata]
  exact ⟨results, u, hlines, hcode, (Report.foldl_recordLine hreports).symm, rfl⟩

/-- The report of a file. Running the file is evaluating the lines of code that it gives, one after
the other. If none of them gives a report, and none that passes or fails is the path itself, then
there is a node for each line that passes or fails, with the outcomes of this line and of the later
ones with the same text below it. The failures show each line below which there is a failure,
together with its own outcome; so there are some exactly if a line fails. -/
theorem runs_file_exactly (host : Host) (s : Session) {path data : String} (hpath : IsTarget path)
    (hactive : path ∉ s.active) (hfile : host.scripts.isDirectory path = false)
    (hread : host.scripts.read path = .ok data) (hdata : data ≠ "") :
    (∀ report t, Runs host path s report t →
      ∃ results u, RunsLines host (s.enter path) results u ∧
        CodeOf data (results.map Prod.fst) ∧ t = u.leave) ∧
    ∀ results u, RunsLines host (s.enter path) results u →
      CodeOf data (results.map Prod.fst) →
      (∀ r ∈ results, r.2.report? = none) → (∀ r ∈ recordsOf results, r.line ≠ path) →
      ∃ report, Runs host path s report u.leave ∧
        report.label = .text path ∧
        report.children.length = (recordsOf results).length ∧
        report.children = recordedLines (recordsOf results) ∧
        report.failures = recordedFailures path (recordsOf results) ∧
        (report.failures = [] ↔ ∀ line error, (line, .error error) ∉ results) := by
  have hrefusal := hpath.refusal?_eq_none hactive
  rw [← hpath.targetPath_eq] at hfile hread
  refine ⟨?_, ?_⟩
  · intro report t hruns
    obtain ⟨results, u, hlines, hcode, -, ht⟩ :=
      (runs_iff_runsLines hrefusal hfile hread hdata).mp hruns
    rw [hpath.targetPath_eq] at hlines
    exact ⟨results, u, hlines, codeLines_eq_iff.mp hcode.symm, ht⟩
  · intro results u hlines hcode hreports hlabels
    rw [← hpath.targetPath_eq] at hlines
    have hruns := runs_of_runsLines hrefusal hfile hread hdata hlines
      (codeLines_eq_iff.mpr hcode).symm hreports
    rw [hpath.targetPath_eq] at hruns
    have hnodes := nodesBelow_eq_recordedLines hlabels
    refine ⟨_, hruns, rfl, ?_, hnodes, ?_, ?_⟩
    · rw [hnodes, recordedLines, List.length_map, List.length_finRange]
    · rw [hnodes, failures_recordedLines]
    · constructor
      · intro hnil line error hmem
        -- a line that fails is recorded, so it is not the path
        have hline : line ≠ path := hlabels _ (record_mem_recordsOf hmem)
        exact Report.failures_recordsOf_ne_nil_iff.mpr ⟨line, error, hmem, hline⟩ hnil
      · intro hno
        by_contra hne
        obtain ⟨line, error, hmem, -⟩ := Report.failures_recordsOf_ne_nil_iff.mp hne
        exact hno line error hmem

/-- The results of lines that are evaluated one after the other within a limit. -/
def lineResults (host : Host) (limit : Nat) :
    List String → Session → Option (List (String × Outcome) × Session) :=
  stepResults (eval host limit)

theorem runsLines_of_lineResults {limit : Nat} {lines : List String}
    (h : lineResults host limit lines s = some (results, u)) :
    RunsLines host s results u ∧ results.map Prod.fst = lines :=
  sequence_of_stepResults (fun heval => ⟨limit, heval⟩) h

/-- Lines whose results pass a test within a limit have results that pass it. -/
theorem runsLines_of_any {limit : Nat} {lines : List String}
    {p : List (String × Outcome) × Session → Bool}
    (h : (lineResults host limit lines s).any p = true) :
    ∃ results u, RunsLines host s results u ∧ results.map Prod.fst = lines ∧
      p (results, u) = true := by
  obtain ⟨⟨results, u⟩, hresults, hp⟩ := (Option.any_eq_true _ _).mp h
  obtain ⟨hruns, hlines⟩ := runsLines_of_lineResults hresults
  exact ⟨results, u, hruns, hlines, hp⟩

/-- No line gave a report, and the records are the given ones. -/
def hasRecords (records : List Record) (results : List (String × Outcome)) : Bool :=
  results.all (fun r => r.2.report?.isNone) && decide (recordsOf results = records)

theorem report?_of_hasRecords {records : List Record} (h : hasRecords records results = true) :
    (∀ r ∈ results, r.2.report? = none) ∧ recordsOf results = records := by
  obtain ⟨hreports, hrecords⟩ := Bool.and_eq_true_iff.mp h
  exact ⟨by simpa using hreports, of_decide_eq_true hrecords⟩

/-- A script in which the same line passes first and fails later. There is white space at the end of
some lines, in front of a remark and in a line without text. -/
def repeatingScript : String :=
  "# twice\n[AssertEquals(i,1)] \t\n(i < 2)\r\n \n[Set(i,2,int)]  \n\t# now\n[AssertEquals(i,1)]\n"

/-- A host with that script. -/
def repeatingHost : Host := .ofFiles [("a.txt", repeatingScript)]

/-- The first of two equal lines is shown with its own outcome although it passed, because the
second one fails. -/
theorem runs_file_exactly_repeated_line :
    ∃ report t, Runs repeatingHost "a.txt" { env := Environment.empty.set "i" (.int 1) } report t ∧
      report.children.length = 3 ∧
      report.failures = ["a.txt: [AssertEquals(i,1)]", "[AssertEquals(i,1)]: [Pass()]",
        "a.txt: [AssertEquals(i,1)]", "[AssertEquals(i,1)]: Expected 1 but got 2"] := by
  have htest : ((lineResults repeatingHost 3 (codeLines repeatingScript)
      (enter { env := Environment.empty.set "i" (.int 1) } "a.txt")).any fun r =>
        hasRecords [⟨"[AssertEquals(i,1)]", .pass⟩, ⟨"[Set(i,2,int)]", .pass⟩,
          ⟨"[AssertEquals(i,1)]", .text "Expected 1 but got 2"⟩] r.1) = true := by
    decide +kernel
  obtain ⟨results, u, hlines, hcode, hp⟩ := runsLines_of_any htest
  obtain ⟨hreports, hrecords⟩ := report?_of_hasRecords hp
  have hpath : IsTarget "a.txt" := ⟨by decide, by decide +kernel, by decide +kernel⟩
  have hread : repeatingHost.scripts.read "a.txt" = .ok repeatingScript := by decide +kernel
  obtain ⟨-, hexactly⟩ := runs_file_exactly repeatingHost
    { env := Environment.empty.set "i" (.int 1) } hpath (by decide) (by decide +kernel) hread
    (by decide)
  obtain ⟨report, hruns, -, hlength, -, hfailures, -⟩ :=
    hexactly results u hlines (codeLines_eq_iff.mp hcode.symm) hreports (by rw [hrecords]; decide)
  rw [hrecords] at hlength hfailures
  refine ⟨report, u.leave, hruns, hlength, hfailures.trans ?_⟩
  decide +kernel

/-! ### Lines that are the path -/

/-- If no line of a file gives a report, the failures name the error of each line that fails, unless
the line is the path itself. If no other line fails, there are no failures at all. -/
theorem runs_file_failures_iff (host : Host) (s : Session) {given data : String}
    {results : List (String × Outcome)} {u : Session} (hpath : targetPath given ≠ "")
    (hactive : targetPath given ∉ s.active)
    (hfile : host.scripts.isDirectory (targetPath given) = false)
    (hread : host.scripts.read (targetPath given) = .ok data) (hdata : data ≠ "")
    (hlines : RunsLines host (s.enter (targetPath given)) results u)
    (hcode : CodeOf data (results.map Prod.fst))
    (hreports : ∀ r ∈ results, r.2.report? = none) :
    ∃ report, Runs host given s report u.leave ∧
      (report.failures ≠ [] ↔
        ∃ line error, (line, .error error) ∈ results ∧ line ≠ targetPath given) ∧
      ∀ line error, (line, .error error) ∈ results → line ≠ targetPath given →
        line ++ ": " ++ error.message ∈ report.failures := by
  have hrefusal : refusal? s given = none := refusal?_eq_none_iff.mpr ⟨hpath, hactive⟩
  have hruns := runs_of_runsLines hrefusal hfile hread hdata hlines
    (codeLines_eq_iff.mpr hcode).symm hreports
  refine ⟨_, hruns, Report.failures_recordsOf_ne_nil_iff, ?_⟩
  intro line error hmem hline
  exact Report.mem_failures_of_record (record_mem_recordsOf hmem) hline (by simp)

/-- A script whose only line is its own path fails, but its report has no failures. -/
theorem runs_file_failures_eq_nil :
    ∃ results report t, RunsLines (.ofFiles [("x", "x")]) (enter {} "x") results t ∧
      recordsOf results = [⟨"x", .text "undefined variable: x"⟩] ∧
      Runs (.ofFiles [("x", "x")]) "x" {} report t.leave ∧ report.failures = [] := by
  have htest : ((lineResults (.ofFiles [("x", "x")]) 3 (codeLines "x") (enter {} "x")).any fun r =>
      hasRecords [⟨"x", .text "undefined variable: x"⟩] r.1) = true := by
    decide +kernel
  obtain ⟨results, u, hlines, hcode, hp⟩ := runsLines_of_any htest
  obtain ⟨hreports, hrecords⟩ := report?_of_hasRecords hp
  have htarget : targetPath "x" = "x" := by decide +kernel
  have hread : (Host.ofFiles [("x", "x")]).scripts.read (targetPath "x") = .ok "x" := by
    decide +kernel
  rw [← htarget] at hlines
  obtain ⟨report, hruns, hshown, -⟩ := runs_file_failures_iff (.ofFiles [("x", "x")]) {}
    (by decide +kernel) (by decide) (by decide +kernel) hread (by decide) hlines
    (codeLines_eq_iff.mp hcode.symm) hreports
  rw [htarget] at hlines
  refine ⟨results, report, u, hlines, hrecords, hruns, ?_⟩
  by_contra hne
  obtain ⟨line, error, hmem, hline⟩ := hshown.mp hne
  -- the only line that is evaluated is the path
  have hmem' : line ∈ codeLines "x" := hcode ▸ List.mem_map_of_mem (f := Prod.fst) hmem
  rw [show codeLines "x" = ["x"] by decide +kernel, List.mem_singleton] at hmem'
  exact hline (hmem'.trans htarget.symm)

end Session

end BracketScript
