import BracketScript.Proofs.Growth

/-!
# Lines and entries in sequence

A file is run line by line and a directory entry by entry: each step starts in the session that the
one before it leaves, and its result is put into the report at once. Here the two are taken apart. A
sequence lists the steps with their results, and the report is a fold over that list. What can be
said about reports is then said about lists of results.

## Main definitions

* `Session.Sequence`: steps that are made one after the other, with their results
* `Session.RunsLines`, `Session.RunsEntries`: the lines of a file and the entries of a directory in
  sequence
* `Session.IsLoop`: a loop over steps that collects their results

## Main results

* `Session.Sequence.map`, `Session.Sequence.lift`: steps of one kind as steps of another
* `Session.IsLoop.eq_ok_iff`: a loop comes to the fold over the results of a sequence
* `Session.runs_iff_runsLines`: the report of a file is a fold over the results of its lines
* `Session.runs_iff_runsEntries`: the report of a directory is a fold over the reports of its
  entries
-/

namespace BracketScript

namespace Session

variable {ι α β : Type}

/-! ### Steps in sequence -/

/-- Steps that are made one after the other, each in the session that the one before it leaves. A
step for the item `i` from the session `s` with the result `a` may leave the session `t` if
`step i s a t`; the list gives the items with their results. -/
inductive Sequence (step : ι → Session → α → Session → Prop) :
    Session → List (ι × α) → Session → Prop
  | nil (s : Session) : Sequence step s [] s
  | cons {s t u : Session} {i : ι} {a : α} {rest : List (ι × α)} :
      step i s a t → Sequence step t rest u → Sequence step s ((i, a) :: rest) u

namespace Sequence

variable {step : ι → Session → α → Session → Prop} {s t : Session}
  {results : List (ι × α)}

/-- If each step makes the session grow, so do all. -/
theorem growsTo (h : Sequence step s results t)
    (hstep : ∀ {i s a t}, step i s a t → GrowsTo s t) : s.GrowsTo t := by
  induction h with
  | nil s => exact .refl s
  | cons hs _ ih => exact (hstep hs).trans ih

/-- Each step is made in a session that the first one has grown to. -/
theorem exists_of_mem (h : Sequence step s results t)
    (hstep : ∀ {i s a t}, step i s a t → GrowsTo s t) {r : ι × α} (hr : r ∈ results) :
    ∃ s' t', s.GrowsTo s' ∧ step r.1 s' r.2 t' := by
  induction h with
  | nil s => exact absurd hr (by simp)
  | @cons s t u i a rest hs _ ih =>
    rcases List.mem_cons.mp hr with rfl | hrest
    · exact ⟨s, t, .refl s, hs⟩
    · obtain ⟨s', t', hgrows, hs'⟩ := ih hrest
      exact ⟨s', t', (hstep hs).trans hgrows, hs'⟩

/-- Steps that are also steps of another kind, with less of a result. -/
theorem map {step' : ι → Session → β → Session → Prop} {f : α → β}
    (h : Sequence step s results t)
    (hstep : ∀ {i s a t}, step i s a t → step' i s (f a) t) :
    Sequence step' s (results.map fun r => (r.1, f r.2)) t := by
  induction h with
  | nil s => exact .nil s
  | cons hs _ ih => exact .cons (hstep hs) ih

/-- If each step is also a step of another kind, with more of a result, then so is the sequence. It
is enough to look at steps in sessions that the first one may have grown to. -/
theorem lift {step' : ι → Session → β → Session → Prop} {f : β → α}
    (h : Sequence step s results t)
    (hstep : ∀ {i s a t}, step i s a t → GrowsTo s t)
    (hlift : ∀ r ∈ results, ∀ {s' t'}, s.GrowsTo s' → step r.1 s' r.2 t' →
      ∃ b, step' r.1 s' b t' ∧ f b = r.2) :
    ∃ results', Sequence step' s results' t ∧
      (results'.map fun r => (r.1, f r.2)) = results := by
  induction h with
  | nil s => exact ⟨[], .nil s, rfl⟩
  | @cons s t u i a rest hs _ ih =>
    obtain ⟨b, hb, hfb⟩ := hlift _ List.mem_cons_self (.refl s) hs
    -- the rest starts in a session that `s` has grown to
    obtain ⟨rest', hrest', hmap⟩ := ih fun r hr _ _ hgrows hr' =>
      hlift r (List.mem_cons_of_mem _ hr) ((hstep hs).trans hgrows) hr'
    refine ⟨(i, b) :: rest', .cons hb hrest', ?_⟩
    rw [List.map_cons, hmap, hfb]

end Sequence

/-- The results of computations for the items of a list, one after the other, if none is cut off. -/
def stepResults (x : ι → Session → Option (α × Session)) :
    List ι → Session → Option (List (ι × α) × Session)
  | [], s => some ([], s)
  | i :: rest, s => do
    let (a, t) ← x i s
    let (results, u) ← stepResults x rest t
    return ((i, a) :: results, u)

/-- If the computations make steps, then they make a sequence. -/
theorem sequence_of_stepResults {step : ι → Session → α → Session → Prop}
    {x : ι → Session → Option (α × Session)}
    (hx : ∀ {i s a t}, x i s = some (a, t) → step i s a t) {items : List ι} {s t : Session}
    {results : List (ι × α)} (h : stepResults x items s = some (results, t)) :
    Sequence step s results t ∧ results.map Prod.fst = items := by
  induction items generalizing s results with
  | nil =>
    obtain ⟨rfl, rfl⟩ := Prod.mk.inj (Option.some.inj h)
    exact ⟨.nil s, rfl⟩
  | cons i rest ih =>
    obtain ⟨⟨a, t'⟩, hstep, h⟩ := Option.bind_eq_some_iff.mp h
    obtain ⟨⟨results', u⟩, hrest, h⟩ := Option.bind_eq_some_iff.mp h
    obtain ⟨rfl, rfl⟩ := Prod.mk.inj (Option.some.inj h)
    obtain ⟨hsequence, hitems⟩ := ih hrest
    exact ⟨.cons (hx hstep) hsequence, by rw [List.map_cons, hitems]⟩

/-! ### Loops over steps -/

/-- Within each limit, `loop` makes the steps for a list of items and puts their results, one after
the other, into what has been collected. -/
structure IsLoop (step : ι → Session → α → Session → Prop) (x : Nat → ι → Action α)
    (collect : β → ι → α → β) (loop : Nat → β → List ι → Action β) : Prop where
  /-- A step is what the computation for its item does within some limit. -/
  step_iff : ∀ {i s a t}, step i s a t ↔ ∃ limit, x limit i s = some (.ok a, t)
  below : ∀ i {n m}, n ≤ m → (x n i).Below (x m i)
  nil : ∀ limit acc, loop limit acc [] = pure acc
  cons : ∀ limit acc i rest,
    loop limit acc (i :: rest) = x limit i >>= fun a => loop limit (collect acc i a) rest

namespace IsLoop

variable {step : ι → Session → α → Session → Prop} {x : Nat → ι → Action α}
  {collect : β → ι → α → β} {loop : Nat → β → List ι → Action β} {s t : Session}

theorem loop_below (h : IsLoop step x collect loop) (acc : β) (items : List ι) {n m : Nat}
    (hl : n ≤ m) : (loop n acc items).Below (loop m acc items) := by
  induction items generalizing acc with
  | nil =>
    rw [h.nil, h.nil]
    exact .refl _
  | cons i rest ih =>
    rw [h.cons, h.cons]
    exact (h.below i hl).bind fun a => ih _

/-- A loop that is not cut off makes a sequence of steps, and comes to the fold over their
results. -/
theorem exists_sequence (h : IsLoop step x collect loop) {limit : Nat} {acc result : β}
    {items : List ι} (hloop : loop limit acc items s = some (.ok result, t)) :
    ∃ results, Sequence step s results t ∧ results.map Prod.fst = items ∧
      result = results.foldl (fun acc r => collect acc r.1 r.2) acc := by
  -- the session and what has been collected both change from one step to the next
  induction items generalizing acc s with
  | nil =>
    rw [h.nil] at hloop
    obtain ⟨hresult, rfl⟩ := Prod.mk.inj (Option.some.inj hloop)
    exact ⟨[], .nil s, rfl, (Except.ok.inj hresult).symm⟩
  | cons i rest ih =>
    rw [h.cons] at hloop
    rcases Script.bind_eq_some_iff.mp hloop with ⟨a, t', hx, hrest⟩ | ⟨error, t', -, hout⟩
    · -- the computation for `i` has a result, and the loop goes on with it
      obtain ⟨results, hresults, hitems, hresult⟩ := ih hrest
      refine ⟨(i, a) :: results, .cons (h.step_iff.mpr ⟨limit, hx⟩) hresults, ?_, hresult⟩
      rw [List.map_cons, hitems]
    · exact absurd hout (by simp)

/-- Steps in sequence are made by a loop within some limit, which does not depend on what has been
collected before. -/
theorem exists_limit (h : IsLoop step x collect loop) {results : List (ι × α)}
    (hresults : Sequence step s results t) :
    ∃ limit, ∀ acc, loop limit acc (results.map Prod.fst) s =
      some (.ok (results.foldl (fun acc r => collect acc r.1 r.2) acc), t) := by
  induction hresults with
  | nil s => exact ⟨0, fun acc => by rw [List.map_nil, h.nil]; rfl⟩
  | @cons s t u i a rest hs _ ih =>
    -- the larger of the two limits serves the step and the rest
    obtain ⟨n, hn⟩ := h.step_iff.mp hs
    obtain ⟨m, hm⟩ := ih
    refine ⟨max n m, fun acc => ?_⟩
    have hstep := h.below i (Nat.le_max_left n m) s _ hn
    have hrest := h.loop_below (collect acc i a) _ (Nat.le_max_right n m) t _ (hm _)
    rw [List.map_cons, h.cons, Script.bind_of_ok hstep, hrest]
    rfl

/-- A loop comes, within some limit, to the fold over the results of a sequence of steps. -/
theorem eq_ok_iff (h : IsLoop step x collect loop) {acc result : β} {items : List ι} :
    (∃ limit, loop limit acc items s = some (.ok result, t)) ↔
      ∃ results, Sequence step s results t ∧ results.map Prod.fst = items ∧
        result = results.foldl (fun acc r => collect acc r.1 r.2) acc := by
  constructor
  · rintro ⟨limit, hloop⟩
    exact h.exists_sequence hloop
  · rintro ⟨results, hresults, rfl, rfl⟩
    obtain ⟨limit, hlimit⟩ := h.exists_limit hresults
    exact ⟨limit, hlimit acc⟩

end IsLoop

end Session

/-! ### Lines of a file and entries of a directory -/

/-- The path of an entry of a directory. -/
def entryPath (path name : String) : String := path ++ "/" ++ name

/-- The report of a directory after one more entry with the given report. -/
def recordEntry (path : String) (report child : Report) : Report :=
  (report.add (.text path) child.label).addTree child

namespace Session

/-- The lines are evaluated one after the other, with the given outcomes. -/
def RunsLines (host : Host) : Session → List (String × Outcome) → Session → Prop :=
  Sequence (Evaluates host)

/-- The entries of the directory at a path are run one after the other, with the given reports. -/
def RunsEntries (host : Host) (path : String) :
    Session → List (String × Report) → Session → Prop :=
  Sequence fun name => Runs host (entryPath path name)

variable {host : Host} {s t : Session} {given data : String} {report : Report}

theorem evaluates_iff_attempt {line : String} {outcome : Outcome} :
    Evaluates host line s outcome t ↔
      ∃ limit, Action.attempt (eval host limit line) s = some (.ok outcome, t) := by
  refine exists_congr fun limit => ?_
  rw [Action.attempt, Option.map_eq_some_iff]
  constructor
  · intro h
    exact ⟨_, h, rfl⟩
  · rintro ⟨⟨o, u⟩, h, hout⟩
    obtain ⟨ho, rfl⟩ := Prod.mk.inj hout
    rw [h, Except.ok.inj ho]

theorem isLoop_runLines (host : Host) (path : String) :
    IsLoop (Evaluates host) (fun limit line => Action.attempt (eval host limit line))
      (fun report line outcome => recordLine report path line outcome)
      (fun limit => runLines (evaluator host limit) path) where
  step_iff := evaluates_iff_attempt
  below line _ _ hl := Action.attempt_below ((evaluator_below host hl).line line)
  nil _ _ := rfl
  cons _ _ _ _ := rfl

theorem isLoop_runEntries (host : Host) (path : String) :
    IsLoop (fun name => Runs host (entryPath path name))
      (fun limit name => run host limit (entryPath path name))
      (fun report _ child => recordEntry path report child)
      (fun limit => runEntries (evaluator host limit) path) where
  step_iff := Iff.rfl
  below name _ _ hl := (evaluator_below host hl).run (entryPath path name)
  nil _ _ := rfl
  cons _ _ _ _ := rfl

/-- A target that is not refused is noted, run within some limit, and forgotten. -/
theorem runs_iff_runTarget (h : refusal? s given = none) :
    Runs host given s report t ↔
      ∃ u, (∃ limit, runTarget host (evaluator host limit) (targetPath given)
        (s.enter (targetPath given)) = some (.ok report, u)) ∧ t = u.leave := by
  constructor
  · rintro ⟨limit, hlimit⟩
    cases limit with
    | zero => exact absurd hlimit (by simp [run, evaluator, Action.cutOff])
    | succ limit =>
      rw [run, evaluator_succ_run, runPath_of_not_refused h] at hlimit
      rcases Script.bind_eq_some_iff.mp hlimit with ⟨r, u, htarget, hleave⟩ | ⟨_, _, _, hout⟩
      · obtain ⟨hr, rfl⟩ := Prod.mk.inj (Option.some.inj hleave)
        exact ⟨u, ⟨limit, by rw [htarget, hr]⟩, rfl⟩
      · exact absurd hout (by simp)
  · rintro ⟨u, ⟨limit, htarget⟩, rfl⟩
    refine ⟨limit + 1, ?_⟩
    rw [run, evaluator_succ_run, runPath_of_not_refused h, Script.bind_of_ok htarget]
    rfl

/-- A target that is refused has the report of the refusal, and the session stays as it was. -/
theorem runs_of_refusal (h : refusal? s given = some report) : Runs host given s report s := by
  refine ⟨1, ?_⟩
  rw [run, evaluator_succ_run]
  exact runPath_of_refusal h

/-- The report of a file with content is the fold over the outcomes of its lines. -/
theorem runs_iff_runsLines (h : refusal? s given = none)
    (hfile : host.scripts.isDirectory (targetPath given) = false)
    (hread : host.scripts.read (targetPath given) = .ok data) (hdata : data ≠ "") :
    Runs host given s report t ↔
      ∃ results u, RunsLines host (s.enter (targetPath given)) results u ∧
        results.map Prod.fst = codeLines data ∧
        report = results.foldl (fun report r => recordLine report (targetPath given) r.1 r.2)
          (.ofText (targetPath given)) ∧
        t = u.leave := by
  have htarget (limit : Nat) : runTarget host (evaluator host limit) (targetPath given) =
      runLines (evaluator host limit) (targetPath given) (.ofText (targetPath given))
        (codeLines data) := by
    have hempty : ¬ data.isEmpty = true := by rwa [String.isEmpty_iff]
    simp only [runTarget, hfile, Bool.false_eq_true, if_false, runFile, hread, hempty]
  simp only [runs_iff_runTarget h, htarget, (isLoop_runLines host (targetPath given)).eq_ok_iff]
  constructor
  · rintro ⟨u, ⟨results, hresults, hlines, hreport⟩, ht⟩
    exact ⟨results, u, hresults, hlines, hreport, ht⟩
  · rintro ⟨results, u, hresults, hlines, hreport, ht⟩
    exact ⟨u, ⟨results, hresults, hlines, hreport⟩, ht⟩

/-- The report of a directory is the fold over the reports of its entries. -/
theorem runs_iff_runsEntries {names : List String} (h : refusal? s given = none)
    (hdirectory : host.scripts.isDirectory (targetPath given) = true)
    (hlist : host.scripts.list (targetPath given) = .ok names) :
    Runs host given s report t ↔
      ∃ entries u, RunsEntries host (targetPath given) (s.enter (targetPath given)) entries u ∧
        entries.map Prod.fst = names ∧
        report = entries.foldl (fun report entry => recordEntry (targetPath given) report entry.2)
          (.ofText (targetPath given)) ∧
        t = u.leave := by
  have htarget (limit : Nat) : runTarget host (evaluator host limit) (targetPath given) =
      runEntries (evaluator host limit) (targetPath given) (.ofText (targetPath given)) names := by
    simp only [runTarget, hdirectory, if_true, runDirectory, hlist]
  simp only [runs_iff_runTarget h, htarget, (isLoop_runEntries host (targetPath given)).eq_ok_iff]
  constructor
  · rintro ⟨u, ⟨entries, hentries, hnames, hreport⟩, ht⟩
    exact ⟨entries, u, hentries, hnames, hreport, ht⟩
  · rintro ⟨entries, u, hentries, hnames, hreport, ht⟩
    exact ⟨u, ⟨entries, hentries, hnames, hreport⟩, ht⟩

end Session

end BracketScript
