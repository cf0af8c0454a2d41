import BracketScript.Proofs.DirectoryReport
import BracketScript.Proofs.DiskStore
import BracketScript.Proofs.Target
import BracketScript.Service.Basic

/-!
# Results of suites

A suite is a directory of script files. A service runs the files in the order of their names, all in
one session, and then classifies the report: the failures show each file in which a line fails,
before the failures of its own report, and the successes show each file in which some line passes
and none fails. A file whose lines have plain values only is neither.

## Main definitions

* `FileRun`: what a run of a file came to, line by line and as a report
* `Session.RunsFiles`: the files of a directory in sequence
* `Session.IsSuite`: a directory whose entries are files with content
* `Results.ofFileRuns`: the results of a suite, by the runs of its files
* `Service.Gives`: the results of a service, within some limit

## Main results

* `Report.failuresBelow_recordedLines`, `FileRun.passes_eq`, `Report.depth_recordedLines`: how the
  classifier sees the report of a file
* `Report.failures_suite`, `Report.successes_suite`: how it sees that of a suite
* `Session.IsSuite.exists_runsFiles`, `Session.IsSuite.runs_of_runsFiles`: to run a suite is to run
  its files
* `Service.gives_suite_exactly`: the results of a suite
-/

namespace BracketScript

/-! ### The report of a file under the classifier -/

namespace Report

variable {path : String} {records : List Record}

theorem depthBelow_eq_succ {nodes : List Report} {d : Nat} (hne : nodes ≠ [])
    (h : ∀ node ∈ nodes, node.depth = d) : depthBelow nodes = d + 1 := by
  induction nodes with
  | nil => exact absurd rfl hne
  | cons node rest ih =>
    cases rest with
    | nil => rw [depthBelow, h node List.mem_cons_self]
    | cons next rest =>
      rw [depthBelow]
      · exact ih (by simp) fun n hn => h n (List.mem_cons_of_mem _ hn)
      · simp

/-- A node is shown before the failures below it, if there are any and its first child
is no leaf. -/
theorem failuresBelow_eq {node : Report} (parent : Label)
    (hfirst : ∀ first ∈ node.children.head?, first.children ≠ [])
    (hpasses : node.passes = true → node.failures = []) :
    failuresBelow parent failures node =
      if node.failures = [] then [] else edge parent node.label :: node.failures := by
  rw [failuresBelow]
  by_cases hp : node.passes = true
  · rw [if_pos hp, if_pos (hpasses hp)]
  · rw [if_neg hp]
    split
    next first rest hchildren =>
      -- the case of a leaf right below the node, which is excluded
      exact absurd rfl (hfirst ⟨first, []⟩ (by rw [hchildren]; rfl))
    next => cases node.failures <;> rfl

/-- Below a recorded line stand its outcomes, at least one. -/
theorem exists_of_mem_recordedLines {node : Report} (h : node ∈ recordedLines records) :
    ∃ (line : String) (o : Label) (outcomes : List Label),
      node = ⟨.text line, (o :: outcomes).map leaf⟩ := by
  obtain ⟨j, -, rfl⟩ := List.mem_map.mp h
  rw [outcomesFrom_eq_cons]
  exact ⟨_, _, _, rfl⟩

/-- Lines are all of depth one. -/
theorem depth_of_mem_recordedLines {node : Report} (h : node ∈ recordedLines records) :
    node.depth = 1 := by
  obtain ⟨line, o, outcomes, rfl⟩ := exists_of_mem_recordedLines h
  rw [depth]
  refine depthBelow_eq_succ (by simp) fun n hn => ?_
  obtain ⟨label, -, rfl⟩ := List.mem_map.mp hn
  rfl

theorem recordedLines_eq_nil_iff : recordedLines records = [] ↔ records = [] := by
  rw [← List.length_eq_zero_iff, recordedLines, List.length_map, List.length_finRange,
    List.length_eq_zero_iff]

/-- The report of a file with recorded lines is of depth two. -/
theorem depth_recordedLines (hne : records ≠ []) :
    depth ⟨.text path, recordedLines records⟩ = 2 := by
  rw [depth]
  refine depthBelow_eq_succ (fun hnil => hne (recordedLines_eq_nil_iff.mp hnil)) ?_
  exact fun node hnode => depth_of_mem_recordedLines hnode

/-- A single line is never shown as passed. -/
theorem successes_recordedLines : successes ⟨.text path, recordedLines records⟩ = [] := by
  rw [successes_eq_flatMap, List.flatMap_eq_nil_iff]
  intro node hnode
  rw [depth_of_mem_recordedLines hnode]
  simp

/-- The report of a file passes if there are records, and all are of lines that passed. -/
theorem passes_recordedLines :
    passes ⟨.text path, recordedLines records⟩ = true ↔
      records ≠ [] ∧ ∀ r ∈ records, r.outcome = .pass := by
  rw [passes_text, Bool.and_eq_true, Bool.not_eq_true', List.isEmpty_eq_false_iff, Ne,
    recordedLines_eq_nil_iff, List.all_eq_true]
  refine and_congr_right fun _ => ?_
  constructor
  · intro h r hr
    obtain ⟨j, hj, rfl⟩ := List.mem_iff_getElem.mp hr
    -- the first outcome below the node of a line is its own one
    have hnode := h _ (List.mem_map_of_mem (List.mem_finRange ⟨j, hj⟩))
    rw [outcomesFrom_eq_cons, passes_outcomes] at hnode
    simp only [List.isEmpty_cons, Bool.not_false, List.all_cons, Bool.true_and,
      Bool.and_eq_true, decide_eq_true_eq] at hnode
    exact hnode.1
  · intro h node hnode
    obtain ⟨j, -, rfl⟩ := List.mem_map.mp hnode
    -- the outcomes of later lines are among the records too
    have hall : (outcomesFrom records j).all (fun o => decide (o = .pass)) = true := by
      rw [List.all_eq_true]
      intro o ho
      obtain ⟨r, hr, rfl⟩ := List.mem_map.mp ho
      exact decide_eq_true (h r (List.mem_of_mem_drop (List.mem_filter.mp hr).1))
    rw [passes_outcomes, hall, outcomesFrom_eq_cons]
    rfl

/-- The report of a file is shown before its failures, if there are any. -/
theorem failuresBelow_recordedLines (parent : Label) (hlines : ∀ r ∈ records, r.line ≠ path) :
    failuresBelow parent failures ⟨.text path, recordedLines records⟩ =
      if ∃ r ∈ records, r.outcome ≠ .pass then
        edge parent (.text path) :: failures ⟨.text path, recordedLines records⟩
      else [] := by
  have hfailures : failures ⟨.text path, recordedLines records⟩ = [] ↔
      ¬ ∃ r ∈ records, r.outcome ≠ .pass := by
    rw [← nodesBelow_eq_recordedLines hlines, ← not_iff_not, not_not, ← Ne,
      failures_nodesBelow_ne_nil_iff]
    refine exists_congr fun r => and_congr_right fun hr => ?_
    exact and_iff_right (hlines r hr)
  rw [failuresBelow_eq]
  · by_cases hfail : ∃ r ∈ records, r.outcome ≠ .pass
    · rw [if_pos hfail, if_neg fun hnil => hfailures.mp hnil hfail]
    · rw [if_neg hfail, if_pos (hfailures.mpr hfail)]
  · -- the first line has an outcome below it, so it is no leaf
    intro first hfirst
    obtain ⟨line, o, outcomes, rfl⟩ := exists_of_mem_recordedLines (List.mem_of_head? hfirst)
    simp
  · intro hpasses
    refine hfailures.mpr ?_
    rintro ⟨r, hr, hfail⟩
    exact hfail ((passes_recordedLines.mp hpasses).2 r hr)

end Report

/-! ### Runs of files -/

/-- What a run of a file came to: the outcomes of its lines in order, and its report. -/
structure FileRun where
  results : List (String × Session.Outcome)
  report : Report

namespace FileRun

/-- Some line failed. -/
def hasFailed (run : FileRun) : Bool := run.results.any fun r => !r.2.isOk

/-- Some line passed or failed, and so was recorded. -/
def isRecorded (run : FileRun) : Bool := !(recordsOf run.results).isEmpty

/-- No line gave a report, and none that was recorded is the path of the file. -/
structure IsPlain (path : String) (run : FileRun) : Prop where
  report?_eq_none : ∀ r ∈ run.results, r.2.report? = none
  line_ne : ∀ r ∈ recordsOf run.results, r.line ≠ path

instance (path : String) (run : FileRun) : Decidable (run.IsPlain path) :=
  decidable_of_iff ((∀ r ∈ run.results, r.2.report?.isNone = true) ∧
      ∀ r ∈ recordsOf run.results, r.line ≠ path) <| by
    simp only [Option.isNone_iff_eq_none]
    exact ⟨fun h => ⟨h.1, h.2⟩, fun h => ⟨h.report?_eq_none, h.line_ne⟩⟩

variable {run : FileRun}

/-- Among the records are failures exactly if some line failed. -/
theorem hasFailed_iff :
    run.hasFailed = true ↔ ∃ r ∈ recordsOf run.results, r.outcome ≠ .pass := by
  rw [hasFailed, List.any_eq_true]
  constructor
  · rintro ⟨⟨line, outcome⟩, hmem, hfail⟩
    cases outcome with
    | ok value => exact absurd hfail (by simp [Except.isOk, Except.toBool])
    | error error => exact ⟨_, record_mem_recordsOf hmem, by simp⟩
  · rintro ⟨r, hr, hfail⟩
    obtain ⟨outcome, hmem, hlabel⟩ := mem_recordsOf.mp hr
    obtain ⟨error, rfl, -⟩ := (Session.Outcome.label?_eq_some_iff_of_ne_pass hfail).mp hlabel
    exact ⟨_, hmem, rfl⟩

/-- A file passes if some line was recorded and none failed. -/
theorem passes_eq {path : String} :
    Report.passes ⟨.text path, recordedLines (recordsOf run.results)⟩ =
      (run.isRecorded && !run.hasFailed) := by
  rw [Bool.eq_iff_iff, Report.passes_recordedLines, Bool.and_eq_true, isRecorded,
    Bool.not_eq_true', List.isEmpty_eq_false_iff, Bool.not_eq_true', ← Bool.not_eq_true,
    hasFailed_iff]
  simp

end FileRun

namespace Session

variable {host : Host} {s t u : Session} {path : String} {run : FileRun}

/-- The lines of the file at a path are evaluated one after the other, and the file is run, with the
given outcomes and report. -/
def RunsFile (host : Host) (path : String) (s : Session) (run : FileRun) (t : Session) : Prop :=
  Runs host path s run.report t ∧
    ∃ data u, host.scripts.read path = .ok data ∧ RunsLines host (s.enter path) run.results u ∧
      run.results.map Prod.fst = codeLines data ∧ t = u.leave

/-- The files of the directory at a path are run one after the other. -/
def RunsFiles (host : Host) (path : String) :
    Session → List (String × FileRun) → Session → Prop :=
  Sequence fun name => RunsFile host (entryPath path name)

/-- There is a file with content at the path. -/
def HasScript (host : Host) (path : String) : Prop :=
  host.scripts.isDirectory path = false ∧
    ∃ data, host.scripts.read path = .ok data ∧ data ≠ ""

/-- A file with content is run line by line. -/
theorem Runs.exists_runsFile {report : Report} (h : Runs host path s report t)
    (hpath : IsTarget path) (hactive : path ∉ s.active) (hscript : HasScript host path) :
    ∃ run, RunsFile host path s run t ∧ run.report = report := by
  obtain ⟨hfile, data, hread, hdata⟩ := hscript
  have hrefusal := hpath.refusal?_eq_none hactive
  have hread' := hread
  rw [← hpath.targetPath_eq] at hfile hread'
  obtain ⟨results, u, hlines, hcode, -, ht⟩ :=
    (runs_iff_runsLines hrefusal hfile hread' hdata).mp h
  rw [hpath.targetPath_eq] at hlines
  exact ⟨⟨results, report⟩, ⟨h, data, u, hread, hlines, hcode, ht⟩, rfl⟩

/-- The report of a file in terms of its lines. -/
theorem RunsFile.report_eq (h : RunsFile host path s run t) (hpath : IsTarget path)
    (hactive : path ∉ s.active) (hscript : HasScript host path) (hplain : run.IsPlain path) :
    run.report = ⟨.text path, recordedLines (recordsOf run.results)⟩ := by
  obtain ⟨hfile, data, hread, hdata⟩ := hscript
  obtain ⟨hruns, data', u, hread', hlines, hcode, -⟩ := h
  obtain rfl := Except.ok.inj (hread'.symm.trans hread)
  have hrefusal := hpath.refusal?_eq_none hactive
  rw [← hpath.targetPath_eq] at hfile hread hlines
  obtain ⟨hreport, -⟩ := hruns.unique
    (runs_of_runsLines hrefusal hfile hread hdata hlines hcode hplain.report?_eq_none)
  rw [hreport, hpath.targetPath_eq, nodesBelow_eq_recordedLines hplain.line_ne]

/-! ### Suites -/

/-- The directory at a path is a suite: its entries are files with content, which differ in their
names and can be run by their paths. -/
structure IsSuite (host : Host) (path : String) (names : List String) : Prop where
  isTarget : IsTarget path
  isDirectory : host.scripts.isDirectory path = true
  list_eq : host.scripts.list path = .ok names
  nodup : names.Nodup
  isTarget_entry : ∀ name ∈ names, IsTarget (entryPath path name)
  hasScript : ∀ name ∈ names, HasScript host (entryPath path name)

/-- The path of an entry that can be read is that of a target, if its name does not end in white
space. -/
theorem isTarget_entryPath_of_read {disk : Disk} {root name data : String} (h : IsTarget path)
    (hread : (disk.store root).read (entryPath path name) = .ok data)
    (htrimmed : Text.trimEnd name = name) : IsTarget (entryPath path name) := by
  have hslash := Disk.not_endsInSlash_of_read hread
  rw [Path.EndsInSlash, entryPath_toList, List.getLast?_append, List.getLast?_cons] at hslash
  have htrim := congrArg String.toList htrimmed
  rw [Text.trimEnd, String.toList_ofList, Text.Chars.trimEnd_eq_self_iff] at htrim
  cases hlast : name.toList.getLast? with
  | none => exact absurd (by simp [hlast]) hslash
  | some c =>
    refine h.entryPath_of_getLast? hlast (htrim c hlast) fun hc => hslash ?_
    simp [hlast, hc]

/-- On a disk, a directory of files with content is a suite as long as no name ends in white
space. -/
theorem IsSuite.of_disk {disk : Disk} {root : String} {names : List String}
    (hstore : host.scripts = disk.store root) (hpath : IsTarget path)
    (hlist : host.scripts.list path = .ok names) (hdistinct : names.Nodup)
    (htrimmed : ∀ name ∈ names, Text.trimEnd name = name)
    (hfiles : ∀ name ∈ names, ∃ data, host.scripts.read (entryPath path name) = .ok data ∧
      data ≠ "") : IsSuite host path names where
  isTarget := hpath
  isDirectory := by
    rw [hstore] at hlist ⊢
    exact (Disk.isDirectory_of_list hlist).1
  list_eq := hlist
  nodup := hdistinct
  isTarget_entry := by
    intro name hname
    obtain ⟨data, hread, -⟩ := hfiles name hname
    rw [hstore] at hread
    exact isTarget_entryPath_of_read hpath hread (htrimmed name hname)
  hasScript := by
    intro name hname
    obtain ⟨data, hread, hdata⟩ := hfiles name hname
    refine ⟨?_, data, hread, hdata⟩
    rw [hstore] at hread ⊢
    exact Disk.isDirectory_of_read hread

theorem entryPath_not_mem_active (h : (enter {} path).GrowsTo s) (name : String) :
    entryPath path name ∉ s.active := by
  rw [h.active]
  exact fun hmem => entryPath_ne path name (List.mem_singleton.mp hmem)

/-- Files that are run one after the other are entries that are. -/
theorem RunsFiles.runsEntries {files : List (String × FileRun)}
    (h : RunsFiles host path s files t) :
    RunsEntries host path s (files.map fun f => (f.1, f.2.report)) t :=
  h.map fun hfile => hfile.1

namespace IsSuite

variable {names : List String} {files : List (String × FileRun)}

/-- To run a suite is to run its entries. -/
theorem runs_iff (h : IsSuite host path names) {report : Report} :
    Runs host path {} report t ↔
      ∃ entries u, RunsEntries host path (enter {} path) entries u ∧
        entries.map Prod.fst = names ∧
        report = ⟨.text path, entries.map Prod.snd⟩ ∧ t = u.leave :=
  runs_iff_reports_of_entries h.isTarget (by simp) h.isDirectory h.list_eq h.nodup h.isTarget_entry

/-- A suite that is run is run file by file. -/
theorem exists_runsFiles (h : IsSuite host path names) {report : Report}
    (hruns : Runs host path {} report t) :
    ∃ files u, RunsFiles host path (enter {} path) files u ∧ files.map Prod.fst = names ∧
      t = u.leave := by
  obtain ⟨entries, u, hentries, hnames, -, ht⟩ := h.runs_iff.mp hruns
  -- while the suite is run, no entry is being run already
  have hlift : ∃ files, RunsFiles host path (enter {} path) files u ∧
      (files.map fun f => (f.1, f.2.report)) = entries := by
    refine hentries.lift (fun hrun => hrun.growsTo) fun entry hentry s' t' hgrows hrun => ?_
    have hname : entry.1 ∈ names := hnames ▸ List.mem_map_of_mem hentry
    exact hrun.exists_runsFile (h.isTarget_entry _ hname)
      (entryPath_not_mem_active hgrows entry.1) (h.hasScript _ hname)
  obtain ⟨files, hfiles, rfl⟩ := hlift
  refine ⟨files, u, hfiles, ?_, ht⟩
  rw [← hnames, List.map_map]
  rfl

/-- Below the report of a suite stand the reports of its files. -/
theorem runs_of_runsFiles (h : IsSuite host path names)
    (hfiles : RunsFiles host path (enter {} path) files u) (hnames : files.map Prod.fst = names) :
    Runs host path {} ⟨.text path, files.map fun f => f.2.report⟩ u.leave := by
  refine h.runs_iff.mpr ⟨_, u, hfiles.runsEntries, ?_, ?_, rfl⟩
  · rw [← hnames, List.map_map]
    rfl
  · rw [List.map_map]
    rfl

/-- The reports of the files of a suite in terms of their lines. -/
theorem report_eq (h : IsSuite host path names)
    (hfiles : RunsFiles host path (enter {} path) files u) (hnames : files.map Prod.fst = names)
    (hplain : ∀ f ∈ files, f.2.IsPlain (entryPath path f.1)) :
    ∀ f ∈ files,
      f.2.report = ⟨.text (entryPath path f.1), recordedLines (recordsOf f.2.results)⟩ := by
  intro f hf
  have hname : f.1 ∈ names := hnames ▸ List.mem_map_of_mem hf
  obtain ⟨s', t', hgrows, hfile⟩ := hfiles.exists_of_mem (fun hfile => hfile.1.growsTo) hf
  exact hfile.report_eq (h.isTarget_entry _ hname) (entryPath_not_mem_active hgrows f.1)
    (h.hasScript _ hname) (hplain f hf)

end IsSuite

end Session

/-! ### The report of a suite under the classifier -/

/-- What is listed for some of the items only. -/
theorem flatMap_ite_nil {α β : Type} (p : α → Bool) (f : α → List β) (items : List α) :
    (items.flatMap fun a => if p a then f a else []) = (items.filter p).flatMap f := by
  induction items with
  | nil => rfl
  | cons a rest ih => cases hp : p a <;> simp [hp, ih]

/-- The results of a suite at a path, by what the runs of its files came to. Each file with a line
that failed is shown before the failures of its own report. Each file in which some line passed and
none failed is listed as passed, and so is the suite if no line of any file failed. -/
def Results.ofFileRuns (path : String) (files : List (String × FileRun)) : Results where
  failures := (files.filter fun f => f.2.hasFailed).flatMap fun f =>
    (path ++ ": " ++ entryPath path f.1) :: f.2.report.failures
  successes := ((files.filter fun f => f.2.isRecorded && !f.2.hasFailed).map fun f =>
      path ++ ": " ++ entryPath path f.1) ++
    if files.any fun f => f.2.hasFailed then [] else [path ++ ": passed"]

namespace Report

variable {path : String} {files : List (String × FileRun)}

/-- The files of a suite are shown before their failures. -/
theorem failures_suite
    (hreports : ∀ f ∈ files,
      f.2.report = ⟨.text (entryPath path f.1), recordedLines (recordsOf f.2.results)⟩)
    (hplain : ∀ f ∈ files, f.2.IsPlain (entryPath path f.1)) :
    failures ⟨.text path, files.map fun f => f.2.report⟩ =
      (Results.ofFileRuns path files).failures := by
  rw [failures_eq_flatMap, List.flatMap_map, Results.ofFileRuns, ← flatMap_ite_nil]
  refine List.flatMap_congr fun f hf => ?_
  rw [hreports f hf, failuresBelow_recordedLines _ (hplain f hf).line_ne]
  simp only [FileRun.hasFailed_iff]
  rfl

/-- The files of a suite that pass are listed. -/
theorem successes_suite
    (hreports : ∀ f ∈ files,
      f.2.report = ⟨.text (entryPath path f.1), recordedLines (recordsOf f.2.results)⟩) :
    successes ⟨.text path, files.map fun f => f.2.report⟩ =
      (files.filter fun f => f.2.isRecorded && !f.2.hasFailed).map fun f =>
        path ++ ": " ++ entryPath path f.1 := by
  rw [successes_eq_flatMap]
  simp only [List.flatMap_map]
  rw [List.map_eq_flatMap, ← flatMap_ite_nil]
  refine List.flatMap_congr fun f hf => ?_
  rw [hreports f hf, FileRun.passes_eq]
  by_cases hrecorded : recordsOf f.2.results = []
  · -- a file without recorded lines does not pass
    simp [FileRun.isRecorded, hrecorded]
  · -- a file with recorded lines is of depth two, and its lines are not listed
    rw [depth_recordedLines hrecorded, successes_recordedLines, decide_eq_true (by decide),
      Bool.and_true]
    rfl

end Report

/-- The results that the report of a suite comes to. -/
theorem Results.ofReport_suite {path : String} {files : List (String × FileRun)}
    (hreports : ∀ f ∈ files,
      f.2.report = ⟨.text (entryPath path f.1), recordedLines (recordsOf f.2.results)⟩)
    (hplain : ∀ f ∈ files, f.2.IsPlain (entryPath path f.1)) :
    Results.ofReport path ⟨.text path, files.map fun f => f.2.report⟩ =
      Results.ofFileRuns path files := by
  -- there are failures as soon as one file is shown
  have hempty : (Results.ofFileRuns path files).failures.isEmpty =
      !(files.any fun f => f.2.hasFailed) := by
    rw [Bool.eq_iff_iff, List.isEmpty_iff, Results.ofFileRuns, List.flatMap_eq_nil_iff]
    simp
  rw [Results.ofReport, Report.failures_suite hreports hplain, Report.successes_suite hreports,
    hempty, Results.ofFileRuns]
  cases files.any fun f => f.2.hasFailed <;> rfl

/-! ### Results of a service -/

namespace Service

open Session

variable {host : Host} {file : String} {results : Results} {t : Session}

/-- Within some limit, the service gives the results for a file and leaves the session `t`. -/
def Gives (host : Host) (file : String) (results : Results) (t : Session) : Prop :=
  ∃ limit, evaluate host limit file = some (results, t)

/-- The results are those that the report of a run in a new session comes to. -/
theorem gives_iff : Gives host file results t ↔
    ∃ report, Runs host file {} report t ∧ results = .ofReport file report := by
  constructor
  · rintro ⟨limit, h⟩
    rw [evaluate] at h
    split at h
    next report u hrun =>
      obtain ⟨rfl, rfl⟩ := Prod.mk.inj (Option.some.inj h)
      exact ⟨report, ⟨limit, hrun⟩, rfl⟩
    next => exact absurd h (by simp)
  · rintro ⟨report, ⟨limit, hrun⟩, rfl⟩
    exact ⟨limit, by rw [evaluate, hrun]⟩

/-- A service gives the same results for a file within each limit that suffices. -/
theorem Gives.unique {results' : Results} {t' : Session} (h : Gives host file results t)
    (h' : Gives host file results' t') : results = results' ∧ t = t' := by
  obtain ⟨report, hruns, rfl⟩ := gives_iff.mp h
  obtain ⟨report', hruns', rfl⟩ := gives_iff.mp h'
  obtain ⟨rfl, rfl⟩ := hruns.unique hruns'
  exact ⟨rfl, rfl⟩

/-- The results of a suite are determined by the runs of its files. -/
theorem gives_of_runsFiles {path : String} {names : List String} {files : List (String × FileRun)}
    {u : Session} (hsuite : IsSuite host path names)
    (hfiles : RunsFiles host path (enter {} path) files u) (hnames : files.map Prod.fst = names)
    (hplain : ∀ f ∈ files, f.2.IsPlain (entryPath path f.1)) :
    Gives host path (.ofFileRuns path files) u.leave := by
  have hreports := hsuite.report_eq hfiles hnames hplain
  refine gives_iff.mpr ⟨_, hsuite.runs_of_runsFiles hfiles hnames, ?_⟩
  rw [Results.ofReport_suite hreports hplain]

/-- The results of a suite. A directory whose entries are files with content is run file by file, in
the order of names. If no line gives a report, and none that passes or fails is the path of its own
file, then the results are exactly these: each file with a line that failed is shown before the
failures of its own report, each file in which some line passed and none failed is listed as passed,
and the suite is listed as passed if no line failed at all. -/
theorem gives_suite_exactly (host : Host) {disk : Disk} {root path : String} {names : List String}
    (hstore : host.scripts = disk.store root) (hpath : IsTarget path)
    (hlist : host.scripts.list path = .ok names) (hdistinct : names.Nodup)
    (htrimmed : ∀ name ∈ names, Text.trimEnd name = name)
    (hfiles : ∀ name ∈ names, ∃ data, host.scripts.read (entryPath path name) = .ok data ∧
      data ≠ "") :
    names.Pairwise (· < ·) ∧
    (∀ results t, Gives host path results t →
      ∃ files u, RunsFiles host path (enter {} path) files u ∧
        files.map Prod.fst = names ∧ t = u.leave ∧
        ((∀ f ∈ files, f.2.IsPlain (entryPath path f.1)) → results = .ofFileRuns path files)) ∧
    ∀ files u, RunsFiles host path (enter {} path) files u → files.map Prod.fst = names →
      (∀ f ∈ files, f.2.IsPlain (entryPath path f.1)) →
      Gives host path (.ofFileRuns path files) u.leave := by
  have hsuite : IsSuite host path names :=
    .of_disk hstore hpath hlist hdistinct htrimmed hfiles
  refine ⟨?_, ?_, ?_⟩
  · -- names are listed in order, and no two are equal
    rw [hstore] at hlist
    have hsorted := (Disk.isDirectory_of_list hlist).2
    exact (hsorted.and hdistinct).imp fun h => Std.lt_of_le_of_ne h.1 h.2
  · intro results t hgives
    obtain ⟨report, hruns, -⟩ := gives_iff.mp hgives
    obtain ⟨files, u, hrunsFiles, hnames, ht⟩ := hsuite.exists_runsFiles hruns
    refine ⟨files, u, hrunsFiles, hnames, ht, fun hplain => ?_⟩
    exact (hgives.unique (gives_of_runsFiles hsuite hrunsFiles hnames hplain)).1
  · intro files u hrunsFiles hnames hplain
    exact gives_of_runsFiles hsuite hrunsFiles hnames hplain

/-- What running a file with content within a limit comes to. -/
def fileRun (host : Host) (limit : Nat) (path : String) (s : Session) :
    Option (FileRun × Session) :=
  match host.scripts.read path with
  | .error _ => none
  | .ok data =>
    if targetPath path = path ∧ refusal? s path = none ∧ host.scripts.isDirectory path = false ∧
        data ≠ "" then
      (lineResults host limit (codeLines data) (s.enter path)).map fun (results, u) =>
        (⟨results, results.foldl (fun report r => recordLine report path r.1 r.2) (.ofText path)⟩,
          u.leave)
    else none

theorem runsFile_of_fileRun {limit : Nat} {path : String} {s : Session} {run : FileRun}
    (h : fileRun host limit path s = some (run, t)) : RunsFile host path s run t := by
  rw [fileRun] at h
  split at h
  next => exact absurd h (by simp)
  next data hread =>
    obtain ⟨⟨hpath, hrefusal, hfile, hdata⟩, h⟩ := Option.ite_none_right_eq_some.mp h
    obtain ⟨⟨results, u⟩, hresults, h⟩ := Option.map_eq_some_iff.mp h
    obtain ⟨rfl, rfl⟩ := Prod.mk.inj h
    obtain ⟨hlines, hcode⟩ := runsLines_of_lineResults hresults
    refine ⟨?_, data, u, hread, hlines, hcode, rfl⟩
    rw [← hpath] at hfile hread hlines
    have hruns := (runs_iff_runsLines hrefusal hfile hread hdata).mpr
      ⟨results, u, hlines, hcode, rfl, rfl⟩
    rwa [hpath] at hruns

/-- A host with a suite: the first file fails, the second one sets a variable, and the third one
only computes a value from it. -/
def suiteHost : Host :=
  .ofFiles [("s/a.txt", "[Fail(\"no\")]"), ("s/b.txt", "[Set(i,1,int)]"), ("s/c.txt", "(i < 2)")]

/-- The report of the first file. -/
def suiteReport : Report := ⟨.text "s/a.txt", [⟨.text "[Fail(\"no\")]", [.ofText "no"]⟩]⟩

/-- The first file is shown with its failure and the second one as passed; the third one is neither,
and the suite has not passed. -/
theorem gives_suite_exactly_mixed :
    ∃ t, Gives suiteHost "s" ⟨["s: s/a.txt", "s/a.txt: [Fail(\"no\")]", "[Fail(\"no\")]: no"],
      ["s: s/b.txt"]⟩ t := by
  have htest : ((stepResults (fun name => fileRun suiteHost 3 (entryPath "s" name))
      ["a.txt", "b.txt", "c.txt"] (enter {} "s")).any fun r => decide
        ((∀ f ∈ r.1, f.2.IsPlain (entryPath "s" f.1)) ∧
          ((r.1.filter fun f => f.2.hasFailed).map fun f => (f.1, f.2.report)) =
            [("a.txt", suiteReport)] ∧
          (Results.ofFileRuns "s" r.1).successes = ["s: s/b.txt"])) = true := by
    decide +kernel
  obtain ⟨⟨files, u⟩, hresults, hp⟩ := (Option.any_eq_true _ _).mp htest
  obtain ⟨hplain, hfailed, hsuccesses⟩ := of_decide_eq_true hp
  obtain ⟨hrunsFiles, hnames⟩ := sequence_of_stepResults runsFile_of_fileRun hresults
  have hpath : IsTarget "s" := ⟨by decide, by decide +kernel, by decide +kernel⟩
  have hlist : suiteHost.scripts.list "s" = .ok ["a.txt", "b.txt", "c.txt"] := by decide +kernel
  have hfiles : ∀ name ∈ ["a.txt", "b.txt", "c.txt"],
      ∃ data, suiteHost.scripts.read (entryPath "s" name) = .ok data ∧ data ≠ "" := by
    simp only [List.forall_mem_cons, List.not_mem_nil, false_implies, implies_true, and_true]
    exact ⟨⟨"[Fail(\"no\")]", by decide +kernel, by decide⟩,
      ⟨"[Set(i,1,int)]", by decide +kernel, by decide⟩,
      ⟨"(i < 2)", by decide +kernel, by decide⟩⟩
  obtain ⟨-, -, hexactly⟩ := gives_suite_exactly suiteHost rfl hpath hlist (by decide)
    (by decide +kernel) hfiles
  have hfailures : (Results.ofFileRuns "s" files).failures =
      ["s: s/a.txt", "s/a.txt: [Fail(\"no\")]", "[Fail(\"no\")]: no"] := by
    have hmap : (Results.ofFileRuns "s" files).failures =
        ((files.filter fun f => f.2.hasFailed).map fun f => (f.1, f.2.report)).flatMap fun f =>
          ("s" ++ ": " ++ entryPath "s" f.1) :: f.2.failures := by
      rw [List.flatMap_map]
      rfl
    rw [hmap, hfailed, List.flatMap_singleton, suiteReport, Report.failures_of_reason]
    decide +kernel
  have hgives := hexactly files u hrunsFiles hnames hplain
  refine ⟨u.leave, ?_⟩
  rwa [← hfailures, ← hsuccesses]

end Service

end BracketScript
