import BracketScript.Proofs.FileReport

/-!
# Reports of directories

The report of a directory gets the report of each entry in two steps: a node with the label of the
entry's report is put below the root, and then the report is merged into the nodes with that label.
The merge could meet the root, or the node of another entry, or miss its node. It does not, because
a report is always labelled with the path that was run, and the paths of entries differ from each
other and from that of the directory.

## Main results

* `Report.addTree_label`: the root keeps its label whatever is merged into a report
* `Session.Runs.label_eq`: a report is labelled with the path that was run
* `Report.foldl_recordEntry`: reports with labels of their own are put below the root as they are
* `Session.runs_directory_exactly`: below the report of a directory stand the reports of its entries
-/

namespace BracketScript

/-! ### Labels of reports -/

namespace Report

theorem recordLine_label (report : Report) (path line : String) (outcome : Session.Outcome) :
    (recordLine report path line outcome).label = report.label := by
  rcases outcome with error | value
  · simp [recordLine]
  · cases value <;> simp [recordLine]

theorem recordEntry_label (report child : Report) (path : String) :
    (recordEntry path report child).label = report.label := by
  simp [recordEntry]

/-- What keeps the label of a report in each step keeps it in all. -/
theorem foldl_label {α : Type} {f : Report → α → Report}
    (h : ∀ report a, (f report a).label = report.label) (report : Report) (items : List α) :
    (items.foldl f report).label = report.label := by
  induction items generalizing report with
  | nil => rfl
  | cons a rest ih => rw [List.foldl_cons, ih, h]

end Report

namespace Session

variable {host : Host} {s t : Session} {report : Report}

theorem label_of_refusal {given : String} (h : refusal? s given = some report) :
    report.label = .text (targetPath given) := by
  simp only [refusal?] at h
  split at h
  · obtain rfl := Option.some.inj h
    simp
  · split at h
    · obtain rfl := Option.some.inj h
      simp
    · exact absurd h (by simp)

theorem label_of_runTarget {limit : Nat} {path : String}
    (h : runTarget host (evaluator host limit) path s = some (.ok report, t)) :
    report.label = .text path := by
  -- a target that is not run through has a report with one or two nodes
  have hrecorded {r : Report} (hr : (pure r : Action Report) s = some (.ok report, t))
      (hlabel : r.label = .text path) : report.label = .text path := by
    obtain ⟨hr, -⟩ := Prod.mk.inj (Option.some.inj hr)
    rw [← Except.ok.inj hr, hlabel]
  rw [runTarget] at h
  split at h
  · cases hlist : host.scripts.list path with
    | error error =>
      simp only [runDirectory, hlist] at h
      exact hrecorded h (by simp)
    | ok names =>
      simp only [runDirectory, hlist] at h
      obtain ⟨entries, -, -, rfl⟩ := (isLoop_runEntries host path).exists_sequence h
      exact Report.foldl_label (fun r entry => Report.recordEntry_label r entry.2 path) _ entries
  · cases hread : host.scripts.read path with
    | error error =>
      simp only [runFile, hread] at h
      exact hrecorded h (by simp)
    | ok data =>
      simp only [runFile, hread] at h
      split at h
      · exact hrecorded h (by simp)
      · obtain ⟨results, -, -, rfl⟩ := (isLoop_runLines host path).exists_sequence h
        exact Report.foldl_label (fun r l => Report.recordLine_label r path l.1 l.2) _ results

/-- A report is labelled with the path that was run. -/
theorem Runs.label_eq {given : String} (h : Runs host given s report t) :
    report.label = .text (targetPath given) := by
  cases hrefusal : refusal? s given with
  | some refused =>
    obtain ⟨rfl, -⟩ := h.unique (runs_of_refusal hrefusal)
    exact label_of_refusal hrefusal
  | none =>
    obtain ⟨u, ⟨limit, htarget⟩, -⟩ := (runs_iff_runTarget hrefusal).mp h
    exact label_of_runTarget htarget

end Session

/-! ### Reports of entries below the root -/

namespace Report

/-- A report with a label of its own is put below the root as it is. -/
theorem recordEntry_eq {path : String} {children : List Report} {child : Report}
    (hroot : child.label ≠ .text path) (hnew : ∀ node ∈ children, node.label ≠ child.label) :
    recordEntry path ⟨.text path, children⟩ child = ⟨.text path, children ++ [child]⟩ := by
  obtain ⟨label, below⟩ := child
  rw [recordEntry, add, addTree_self, addTree_of_ne hroot.symm, List.map_append]
  -- the nodes of other entries are left alone, and the new one has no children yet
  have hold : children.map (fun node =>
      if node.label = label then ⟨node.label, node.children ++ below⟩ else node) = children := by
    refine (List.map_congr_left fun node hnode => ?_).trans (List.map_id children)
    exact if_neg (hnew node hnode)
  rw [hold]
  simp [leaf]

/-- Reports with labels of their own are put below the root as they are. -/
theorem foldl_recordEntry {path : String} {children reports : List Report}
    (hroot : ∀ child ∈ reports, child.label ≠ .text path)
    (hlabels : ((children ++ reports).map Report.label).Nodup) :
    reports.foldl (recordEntry path) ⟨.text path, children⟩ =
      ⟨.text path, children ++ reports⟩ := by
  induction reports generalizing children with
  | nil => rw [List.foldl_nil, List.append_nil]
  | cons child rest ih =>
    -- the labels of all reports differ, so that of the next one is new
    have hnew : ∀ node ∈ children, node.label ≠ child.label := by
      intro node hnode hlabel
      rw [List.map_append, List.nodup_append] at hlabels
      refine hlabels.2.2 _ (List.mem_map_of_mem hnode) _ ?_ hlabel
      exact List.mem_map_of_mem List.mem_cons_self
    have happend : children ++ child :: rest = (children ++ [child]) ++ rest := by simp
    rw [List.foldl_cons, recordEntry_eq (hroot child List.mem_cons_self) hnew, happend]
    refine ih (fun r hr => hroot r (List.mem_cons_of_mem _ hr)) ?_
    rwa [← happend]

end Report

namespace Session

variable {host : Host} {s t u : Session} {path : String} {entries : List (String × Report)}

/-- The labels of the reports of entries are their paths. -/
theorem RunsEntries.labels_eq (h : RunsEntries host path s entries t)
    (hnames : ∀ entry ∈ entries, IsTarget (entryPath path entry.1)) :
    (entries.map Prod.snd).map Report.label =
      (entries.map Prod.fst).map fun name => .text (entryPath path name) := by
  induction h with
  | nil s => rfl
  | cons hruns _ ih =>
    have hlabel := hruns.label_eq
    rw [(hnames _ List.mem_cons_self).targetPath_eq] at hlabel
    have hrest := ih fun entry hentry => hnames entry (List.mem_cons_of_mem _ hentry)
    simp only [List.map_cons, hlabel, hrest]

/-- The targets that are being run while the entries of a directory are run. -/
theorem RunsEntries.active_eq (h : RunsEntries host path (s.enter path) entries u) :
    u.active = path :: s.active :=
  (h.growsTo fun hruns => hruns.growsTo).active

/-- The reports of the entries of a directory are put below the root as they are. -/
theorem RunsEntries.foldl_eq (h : RunsEntries host path s entries t)
    (htargets : ∀ entry ∈ entries, IsTarget (entryPath path entry.1))
    (hdistinct : (entries.map Prod.fst).Nodup) :
    entries.foldl (fun report entry => recordEntry path report entry.2) (.ofText path) =
      ⟨.text path, entries.map Prod.snd⟩ := by
  have hlabels := h.labels_eq htargets
  have hnodup : ((entries.map Prod.snd).map Report.label).Nodup := by
    rw [hlabels]
    refine hdistinct.map fun name name' heq => ?_
    exact entryPath_inj.mp (Label.text.inj heq)
  -- nor does any report have the label of the root
  have hroot : ∀ child ∈ entries.map Prod.snd, child.label ≠ .text path := by
    intro child hchild
    have hmem := List.mem_map_of_mem (f := Report.label) hchild
    rw [hlabels, List.mem_map] at hmem
    obtain ⟨name, -, hname⟩ := hmem
    rw [← hname]
    exact fun heq => entryPath_ne path name (Label.text.inj heq)
  have hfold : (entries.map Prod.snd).foldl (recordEntry path) (.ofText path) =
      ⟨.text path, [] ++ entries.map Prod.snd⟩ :=
    Report.foldl_recordEntry hroot hnodup
  rwa [List.foldl_map, List.nil_append] at hfold

/-- Below the report of a directory stand the reports of its entries, if their paths are those of
targets and differ. -/
theorem runs_iff_reports_of_entries {names : List String} {report : Report} (hpath : IsTarget path)
    (hactive : path ∉ s.active) (hdirectory : host.scripts.isDirectory path = true)
    (hlist : host.scripts.list path = .ok names) (hdistinct : names.Nodup)
    (htargets : ∀ name ∈ names, IsTarget (entryPath path name)) :
    Runs host path s report t ↔
      ∃ entries u, RunsEntries host path (s.enter path) entries u ∧
        entries.map Prod.fst = names ∧
        report = ⟨.text path, entries.map Prod.snd⟩ ∧ t = u.leave := by
  rw [← hpath.targetPath_eq] at hdirectory hlist
  rw [runs_iff_runsEntries (hpath.refusal?_eq_none hactive) hdirectory hlist, hpath.targetPath_eq]
  refine exists_congr fun entries => exists_congr fun u => and_congr_right fun hentries => ?_
  refine and_congr_right fun hfst => ?_
  rw [hentries.foldl_eq _ (hfst ▸ hdistinct)]
  intro entry hentry
  exact htargets _ (hfst ▸ List.mem_map_of_mem hentry)

/-- The report of a directory. Running it is running its entries one after the other, each in the
session that the one before it leaves, and below the root stand exactly the reports that they give,
whatever those are. While they are run, the directory is noted as being run and nothing else is, and
each of them is a target of its own: a directory among them has such a report in turn. -/
theorem runs_directory_exactly (host : Host) (s : Session) {path : String} {names : List String}
    (hpath : IsTarget path) (hactive : path ∉ s.active)
    (hdirectory : host.scripts.isDirectory path = true)
    (hlist : host.scripts.list path = .ok names) (hdistinct : names.Nodup)
    (hnames : ∀ name ∈ names, IsEntryName name) :
    (∀ report t, Runs host path s report t ↔
      ∃ entries u, RunsEntries host path (s.enter path) entries u ∧
        entries.map Prod.fst = names ∧
        report = ⟨.text path, entries.map Prod.snd⟩ ∧ t = u.leave) ∧
    (∀ entries u, RunsEntries host path (s.enter path) entries u →
      u.active = path :: s.active) ∧
    ∀ name ∈ names, IsTarget (entryPath path name) := by
  have htargets : ∀ name ∈ names, IsTarget (entryPath path name) :=
    fun name hname => hpath.entryPath (hnames name hname)
  refine ⟨fun report t => ?_, fun entries u h => h.active_eq, htargets⟩
  exact runs_iff_reports_of_entries hpath hactive hdirectory hlist hdistinct htargets

/-- A host with a directory that holds a script, a script without content and another directory. -/
def nestedHost : Host :=
  .ofFiles [("d/a.txt", "[Fail(\"no\")]"), ("d/b.txt", ""), ("d/c.txt", "[Pass()]"),
    ("d/e/f.txt", "[Pass()]")]

/-- The reports of the entries of that directory, the third of which is being run already. -/
def nestedReports : List Report :=
  [⟨.text "d/a.txt", [⟨.text "[Fail(\"no\")]", [.ofText "no"]⟩]⟩,
    ⟨.text "d/b.txt", [.leaf noData]⟩,
    ⟨.text "d/c.txt", [⟨recursiveRun, [.ofText "d/c.txt is already being evaluated"]⟩]⟩,
    ⟨.text "d/e", [⟨.text "d/e/f.txt", [⟨.text "[Pass()]", [.leaf .pass]⟩]⟩]⟩]

/-- The entries of a directory give these reports one after the other: a failing script, one without
content, one that is being run already, and a directory. -/
theorem runs_directory_exactly_nested :
    ∃ entries u, RunsEntries nestedHost "d" (enter { active := ["d/c.txt"] } "d") entries u ∧
      entries.map Prod.fst = ["a.txt", "b.txt", "c.txt", "e"] ∧
      entries.map Prod.snd = nestedReports := by
  have htest : ((run nestedHost 6 "d" { active := ["d/c.txt"] }).any fun r =>
      r.1.toOption.any fun report => decide (report = ⟨.text "d", nestedReports⟩)) = true := by
    decide +kernel
  obtain ⟨report, t, hruns, hreport⟩ := runs_of_any htest
  have hpath : IsTarget "d" := ⟨by decide, by decide +kernel, by decide +kernel⟩
  have hlist : nestedHost.scripts.list "d" = .ok ["a.txt", "b.txt", "c.txt", "e"] := by
    decide +kernel
  have hnames : ∀ name ∈ ["a.txt", "b.txt", "c.txt", "e"], IsEntryName name := by
    simp only [List.forall_mem_cons, List.not_mem_nil, false_implies, implies_true, and_true]
    refine ⟨?_, ?_, ?_, ?_⟩ <;> exact ⟨by decide, by decide +kernel, by decide +kernel⟩
  obtain ⟨hexactly, -, -⟩ := runs_directory_exactly nestedHost { active := ["d/c.txt"] } hpath
    (by decide) (by decide +kernel) hlist (by decide) hnames
  obtain ⟨entries, u, hentries, hfst, hsnd, -⟩ := (hexactly report t).mp hruns
  rw [of_decide_eq_true hreport] at hsnd
  exact ⟨entries, u, hentries, hfst, (congrArg Report.children hsnd).symm⟩

end Session

end BracketScript
