import BracketScript.Proofs.CallPaths
import BracketScript.Proofs.DelimitedLists
import BracketScript.Proofs.EscapedQuotes
import BracketScript.Proofs.ParallelPost

/-!
# Requests given by delimited lists

A call that sends several requests gets their URLs, header sets and bodies as three lists. If the
elements can be told from the marks between them, then these lists are cut into the elements again,
and the call sends the requests that the lists have been written for, each with its own URL, header
set and body. The one text that is not cut is the empty one for the header sets: it stands for as
many empty sets as there are URLs, which is what it has been written for, since only the empty set
of a single request is written in this way.

## Main definitions

* `ListedRequest`: a request that can be written in lists
* `ListedRequest.urlsText`, `ListedRequest.headersText`, `ListedRequest.bodiesText`: the lists
* `Identifier.IsVariable`: an identifier that is read as a variable in a call

## Main results

* `ListedRequest.gives`: the lists give the requests
* `Session.exists_evalTexts`: arguments that have texts as values are evaluated to the texts
* `ListedRequest.exists_prepare`: the tasks of a call whose arguments hold the lists
* `ListedRequest.exists_dispatches`, `ListedRequest.sends_of_comesTo`: what the built-in sends
* `ListedRequest.posts_listed`: such a call sends the requests
-/

namespace BracketScript

/-- A request that can be written in lists, together with others. Its URL, the names and values of
its header fields and its body can stand between the marks; there is no escaped quote in the body,
and the text of the body is read back. -/
structure ListedRequest where
  /-- Where the request goes. -/
  url : String
  /-- Its header fields. -/
  headers : Headers
  /-- The header fields in the order in which they are written. -/
  written : Headers
  /-- The members of the object that it carries. -/
  members : List (String × Json)
  isElement_url : IsElement '_' url.toList
  isSorted : headers.IsSorted
  perm : written.Perm headers
  isWritable : written.IsWritable
  no_separator_body : ¬ ['_', '_', '_'] <:+: (Json.object members).compact.toList
  noEscapedQuote_body : NoEscapedQuote (Json.object members).compact.toList
  parse_body : Json.parse (Json.object members).compact = .ok (.object members)

namespace ListedRequest

variable (r : ListedRequest) (requests : List ListedRequest)

/-! ### The lists -/

/-- The object that the request carries. -/
def body : Json := .object r.members

/-- The request. -/
def request : Request := ⟨r.url, r.headers, .post, some r.body⟩

/-- The URLs as a list. -/
def urlsText : String := Text.joinWith listSeparator (requests.map url)

/-- The header sets as a list. -/
def headersText : String :=
  Text.joinWith listSeparator (requests.map fun r => r.written.text)

/-- The bodies as a list. -/
def bodiesText : String := Text.joinWith listSeparator (requests.map fun r => r.body.compact)

/-- The requests by what they are made of. -/
def batch : ParallelPost.Batch where
  urls := requests.map url
  headers := requests.map headers
  bodies := requests.map body
  headers_length := by rw [List.length_map, List.length_map]
  bodies_length := by rw [List.length_map, List.length_map]

theorem tasks_batch : (batch requests).tasks.map Prod.snd = requests.map request := by
  refine List.ext_getElem ?_ fun i _ _ => ?_
  · simp [ParallelPost.Batch.tasks, batch]
  · simp only [ParallelPost.Batch.tasks, ParallelPost.Batch.request, batch, request,
      List.getElem_map, List.getElem_finRange, List.get_eq_getElem]
    rfl

/-- The text of an object ends in a brace, so it does not end in a mark. -/
theorem isElement_body : IsElement '_' r.body.compact.toList := by
  refine ⟨r.no_separator_body, ?_⟩
  have hlast : "\x7d".toList.getLast? = some '\x7d' := rfl
  rw [body, Json.compact, String.toList_append, List.getLast?_append, hlast, Option.some_or]
  decide

theorem jsonObject_body : jsonObject r.body.compact = .ok r.body := by
  rw [body, jsonObject_eq_ok_iff, unescapeQuotes_eq_self r.noEscapedQuote_body,
    String.ofList_toList]
  exact r.parse_body

theorem headersOf_written : headersOf "---" ":::" "key:::value" r.written.text = .ok r.headers :=
  headersOf_text r.isSorted r.perm r.isWritable _

variable {requests}

/-- The list of URLs is cut into the URLs. -/
theorem splitOn_urlsText (hne : requests ≠ []) :
    Text.splitOn listSeparator (urlsText requests) = requests.map url :=
  Text.splitOn_joinWith '_' rfl (by simpa using hne)
    (List.forall_mem_map.mpr fun r _ => r.isElement_url)

/-- The list of bodies is cut into the bodies. -/
theorem mapM_bodiesText (hne : requests ≠ []) :
    (Text.splitOn listSeparator (bodiesText requests)).mapM jsonObject =
      .ok (requests.map body) := by
  rw [bodiesText, Text.splitOn_joinWith '_' rfl (by simpa using hne)
    (List.forall_mem_map.mpr fun r _ => r.isElement_body)]
  exact mapM_eq_ok fun r _ => r.jsonObject_body

/-- The list of header sets is cut into the header sets, or it is the empty text for the empty set
of a single request. -/
theorem hasHeaders_headersText (hne : requests ≠ []) :
    ParallelPost.HasHeaders (batch requests) (headersText requests) := by
  rw [ParallelPost.HasHeaders]
  split
  next hempty =>
    rcases Text.joinWith_eq_empty (by decide) hempty with h | h
    · exact absurd (List.map_eq_nil_iff.mp h) hne
    · obtain ⟨r, rfl, hr⟩ := List.map_eq_singleton_iff.mp h
      have hheaders : r.headers = [] := by
        have hperm := r.perm
        rw [Headers.text_eq_empty_iff.mp hr] at hperm
        exact hperm.symm.eq_nil
      exact congrArg ([·]) hheaders
  next htext =>
    rw [headerSetsOf, if_neg (by simpa using htext), headersText,
      Text.splitOn_joinWith '_' rfl (by simpa using hne)
        (List.forall_mem_map.mpr fun r _ => r.isWritable.isElement_text)]
    exact mapM_eq_ok fun r _ => r.headersOf_written

/-- The lists give the requests that they have been written for. -/
theorem gives (hne : requests ≠ []) (files : String) : ParallelPost.Gives (batch requests)
    [files, headersText requests, bodiesText requests, urlsText requests] :=
  .mk (hasHeaders_headersText hne) (mapM_bodiesText hne) (splitOn_urlsText hne)

end ListedRequest

/-! ### Arguments that are variables -/

namespace Session

open Environment (AgreesOn)

variable {P P' : String → Prop} {env : Environment} {s : Session}

theorem Answers.of_imp {source : String} {v : Value} (h : Answers P env source v)
    (hP : ∀ name, P name → P' name) : Answers P' env source v where
  isPlain := h.isPlain
  yields ctx hctx s hs := h.yields ctx hctx s fun name hname => hs name (hP name hname)

/-- Arguments that have texts as values are evaluated to these texts. -/
theorem exists_evalTexts (host : Host) (limit : Nat) {sources texts : List String}
    (h : List.Forall₂ (fun source text => Answers P env source (.str text)) sources texts)
    (hP : ¬ P valueName) (hs : env.AgreesOn P s.env) :
    ∃ t, evalTexts (evaluator host (limit + 1)) sources s = some (.ok texts, t) ∧
      t.sent = s.sent := by
  induction h generalizing s with
  | nil => exact ⟨s, rfl, rfl⟩
  | @cons source text _ _ hsource _ ih =>
    have htext := Evaluator.text_of_line (hsource.line trivial host limit hs) rfl
    obtain ⟨t, hrest, hsent⟩ := ih (s := { s with env := s.env.set valueName (.str text) })
      (hs.set hP _)
    refine ⟨t, ?_, hsent⟩
    rw [evalTexts, Script.bind_of_ok htext, Script.bind_of_ok hrest]
    rfl

end Session

/-- As an argument, the identifier is read as a variable that the call has not assigned before: it
is no truth value, and none of the two names that lines and calls assign. -/
def Identifier.IsVariable (x : Identifier) : Prop :=
  x.text ∉ ["true", "false", paramsName, valueName]

instance (x : Identifier) : Decidable x.IsVariable := inferInstanceAs (Decidable (¬ _))

namespace Session

/-- The variables that keep their values in a call up to its end. -/
def IsKept (name : String) : Prop := name ≠ paramsName ∧ name ≠ valueName

/-- An identifier that is read as a variable has the value of the variable. -/
theorem answers_of_isVariable {x : Identifier} (hx : x.IsVariable) {env : Environment} {v : Value}
    (hv : env.get? x.text = some v) {blanks : String}
    (hblanks : ∀ b ∈ blanks.toList, Text.isBlank b = true) (hplain : Brackets.IsPlain blanks) :
    Answers IsKept env (blanks ++ x.text) v := by
  simp only [Identifier.IsVariable, List.mem_cons, List.not_mem_nil, or_false, not_or] at hx
  obtain ⟨htrue, hfalse, hparams, hvalue⟩ := hx
  refine (answers_var (hplain.append x.isPlain) (x.parse_eq_var htrue hfalse hblanks) hv).of_imp ?_
  rintro name rfl
  exact ⟨hparams, hvalue⟩

end Session

namespace ListedRequest

open Session

/-- The arguments of a call: a list of files, the header sets, the bodies and the URLs. -/
def raw (files headers bodies urls : Identifier) : String :=
  files.text ++ ", " ++ headers.text ++ ", " ++ bodies.text ++ ", " ++ urls.text

section Call

variable {f h b u : Identifier} {requests : List ListedRequest} {s : Session} {files : String}

theorem arguments_raw (f h b u : Identifier) :
    Brackets.arguments (raw f h b u) = [f.text, " " ++ h.text, " " ++ b.text, " " ++ u.text] ∧
      Brackets.IsInner (raw f h b u).toList := by
  have htext : Text.joinWith "," [f.text, " " ++ h.text, " " ++ b.text, " " ++ u.text] =
      raw f h b u := by
    apply String.toList_injective
    simp [Text.joinWith, raw]
  have hblank : Brackets.IsPlain " " := by decide
  have hplain : ∀ text ∈ [f.text, " " ++ h.text, " " ++ b.text, " " ++ u.text],
      Brackets.IsPlain text := by
    simp only [List.forall_mem_cons]
    exact ⟨f.isPlain, hblank.append h.isPlain, hblank.append b.isPlain, hblank.append u.isPlain,
      List.forall_mem_nil _⟩
  rw [← htext]
  exact ⟨Brackets.arguments_joinWith_of_isPlain (List.cons_ne_nil _ _) hplain,
    Brackets.isInner_joinWith hplain⟩

variable (hnames : ∀ x ∈ [f, h, b, u], x.IsVariable) (hne : requests ≠ [])
  (hf : s.env.get? f.text = some (.str files))
  (hh : s.env.get? h.text = some (.str (headersText requests)))
  (hb : s.env.get? b.text = some (.str (bodiesText requests)))
  (hu : s.env.get? u.text = some (.str (urlsText requests)))
include hnames hne hf hh hb hu

/-- The tasks of a call whose arguments hold the lists are the requests. -/
theorem exists_prepare (host : Host) (limit : Nat) :
    ∃ t, ParallelPost.prepare (evaluator host (limit + 1)) (raw f h b u)
        (s.withArguments (raw f h b u)) = some (.ok (batch requests).tasks, t) ∧
      t.sent = s.sent := by
  simp only [List.forall_mem_cons] at hnames
  obtain ⟨hfiles, hheaders, hbodies, hurls, -⟩ := hnames
  have hblank : ∀ c ∈ " ".toList, Text.isBlank c = true := List.all_eq_true.mp (by decide)
  have hplain : Brackets.IsPlain " " := by decide
  have hfirst : Answers IsKept s.env ("" ++ f.text) (.str files) :=
    answers_of_isVariable hfiles hf (List.forall_mem_nil _) (by decide)
  rw [String.empty_append] at hfirst
  have hsources : List.Forall₂ (fun source text => Answers IsKept s.env source (.str text))
      (Brackets.arguments (raw f h b u))
      [files, headersText requests, bodiesText requests, urlsText requests] := by
    rw [(arguments_raw f h b u).1]
    exact .cons hfirst (.cons (answers_of_isVariable hheaders hh hblank hplain)
      (.cons (answers_of_isVariable hbodies hb hblank hplain)
        (.cons (answers_of_isVariable hurls hu hblank hplain) .nil)))
  have hkept : s.env.AgreesOn IsKept (s.withArguments (raw f h b u)).env :=
    Environment.AgreesOn.set (fun _ _ => rfl) (fun h => h.1 rfl) _
  obtain ⟨t, htexts, hsent⟩ := exists_evalTexts host limit hsources (fun h => h.2 rfl) hkept
  exact ⟨t, ParallelPost.prepare_eq_ok_iff.mpr ⟨batch requests, ⟨_, htexts, gives hne files⟩, rfl⟩,
    hsent⟩

/-- With the lists as arguments, the built-in passes and sends the requests. -/
theorem exists_dispatches (host : Host) :
    ∃ t, Dispatches host Builtin.parallelPost.name (raw f h b u) (s.withArguments (raw f h b u))
        (.ok .pass) t ∧
      t.sent.toList = s.sent.toList ++ requests.map fun r => ⟨r.request, true⟩ := by
  obtain ⟨v, hprepare, hsent⟩ := exists_prepare hnames hne hf hh hb hu host 0
  obtain ⟨-, t, hsend, -⟩ := Pool.runs_of_sendTasks host [] (batch requests).tasks v
  refine ⟨t, ⟨1, ?_⟩, ?_⟩
  · rw [dispatch_name, Builtin.run, ParallelPost.runParallelPost_eq, Script.bind_of_ok hprepare,
      Script.bind_of_ok hsend]
    rfl
  · have htasks := congrArg (List.map fun r => (⟨r, true⟩ : Sent)) (tasks_batch requests)
    rw [List.map_map, List.map_map] at htasks
    rw [Pool.sent_of_sendTasks hsend, hsent]
    exact congrArg (s.sent.toList ++ ·) htasks

/-- In whatever order the tasks run, the built-in passes, and the requests are all sent. -/
theorem sends_of_comesTo {host : Host} {limit : Nat} {o : Outcome} {t : Session}
    (hcomes : ParallelPost.ComesTo host (evaluator host (limit + 1)) (raw f h b u)
      (s.withArguments (raw f h b u)) o t) :
    o = .ok .pass ∧ ∃ order : List Request, order.Perm (requests.map request) ∧
      t.sent.toList = s.sent.toList ++ order.map fun request => ⟨request, true⟩ := by
  obtain ⟨v, hprepare, hsent⟩ := exists_prepare hnames hne hf hh hb hu host limit
  cases hcomes with
  | refused hrefused => cases hprepare.symm.trans hrefused
  | posted hposted hruns hdone =>
    -- the tasks that are posted are those of the lists, and all of them have run in the end
    obtain ⟨htasks, rfl⟩ := Prod.mk.inj (Option.some.inj (hprepare.symm.trans hposted))
    obtain rfl := Except.ok.inj htasks
    obtain ⟨order, hperm, hall⟩ := (hruns.sends Pool.sends_start).sent_of_remaining hdone
    refine ⟨rfl, order.map Prod.snd, ?_, ?_⟩
    · rw [← tasks_batch]
      exact hperm.map Prod.snd
    · rw [hall, hsent, List.map_map]
      rfl

/-- A call whose arguments hold the lists passes and sends exactly the requests that the lists have
been written for, each with its own URL, header set and body. The requests are sent at the same
time, so in whatever order the tasks run; as they are numbered is one of the orders. -/
theorem posts_listed (host : Host) :
    (∃ t, Evaluates host ("[ParallelPost(" ++ raw f h b u ++ ")]") s (.ok .pass) t ∧
      t.sent.toList = s.sent.toList ++ requests.map fun r => ⟨r.request, true⟩) ∧
    ∀ limit o t, ParallelPost.ComesTo host (evaluator host (limit + 1)) (raw f h b u)
        (s.withArguments (raw f h b u)) o t →
      o = .ok .pass ∧ ∃ order : List Request, order.Perm (requests.map request) ∧
        t.sent.toList = s.sent.toList ++ order.map fun request => ⟨request, true⟩ := by
  obtain ⟨t, hcall, hsent⟩ := exists_dispatches hnames hne hf hh hb hu host
  have hline : "[ParallelPost(" ++ raw f h b u ++ ")]" =
      "[" ++ Builtin.parallelPost.name ++ "(" ++ raw f h b u ++ ")]" := by
    apply String.toList_injective
    simp [Builtin.name]
  refine ⟨⟨t, ?_, hsent⟩, fun _ _ _ hcomes => sends_of_comesTo hnames hne hf hh hb hu hcomes⟩
  rw [hline]
  exact evaluates_bracketed (arguments_raw f h b u).2 hcall

end Call

/-- A request with two header fields, the second of which is written first. -/
def first : ListedRequest where
  url := "http://one"
  headers := [("a", "1"), ("b", "")]
  written := [("b", ""), ("a", "1")]
  members := [("k", .null)]
  isElement_url := by decide
  isSorted := List.pairwise_pair.mpr (by decide)
  perm := .swap _ _ _
  isWritable := by decide
  no_separator_body := by decide
  noEscapedQuote_body := noEscapedQuote_of_notMem (by decide)
  parse_body := by
    have hbytes : Bytes.ofString (Json.object [("k", .null)]).compact =
        ['\x7b', '"', 'k', '"', ':', 'n', 'u', 'l', 'l', '\x7d'].map
          fun c => UInt8.ofNat c.toNat := by
      decide +kernel
    rw [Json.parse_eq_ok_iff, hbytes]
    rfl

/-- A request without header fields. -/
def second : ListedRequest where
  url := "http://two"
  headers := []
  written := []
  members := []
  isElement_url := by decide
  isSorted := .nil
  perm := .refl _
  isWritable := List.forall_mem_nil _
  no_separator_body := by decide
  noEscapedQuote_body := noEscapedQuote_of_notMem (by decide)
  parse_body := by
    have hbytes : Bytes.ofString (Json.object []).compact =
        ['\x7b', '\x7d'].map fun c => UInt8.ofNat c.toNat := by
      decide +kernel
    rw [Json.parse_eq_ok_iff, hbytes]
    rfl

/-- A session in which the lists for the two requests are the values of variables. -/
def listedSession : Session where
  env := (((Environment.empty.set "f" (.str "")).set "h" (.str "b:::---a:::1___")).set "b"
    (.str "\x7b\"k\":null\x7d___\x7b\x7d")).set "u" (.str "http://one___http://two")

/-- Two requests, of which one has no header fields. -/
theorem posts_listed_pair : ∃ t,
    Evaluates (.ofFiles []) "[ParallelPost(f, h, b, u)]" listedSession (.ok .pass) t ∧
      t.sent.toList = [⟨first.request, true⟩, ⟨second.request, true⟩] := by
  let f : Identifier := ⟨"f", by decide, by decide⟩
  let h : Identifier := ⟨"h", by decide, by decide⟩
  let b : Identifier := ⟨"b", by decide, by decide⟩
  let u : Identifier := ⟨"u", by decide, by decide⟩
  have hnames : ∀ x ∈ [f, h, b, u], x.IsVariable := by
    simp only [List.forall_mem_cons]
    exact ⟨by decide, by decide, by decide, by decide, List.forall_mem_nil _⟩
  have hheaders : "b:::---a:::1___" = headersText [first, second] := by decide
  have hbodies : "\x7b\"k\":null\x7d___\x7b\x7d" = bodiesText [first, second] := by decide
  have hurls : "http://one___http://two" = urlsText [first, second] := by decide
  exact (posts_listed (s := listedSession) hnames (List.cons_ne_nil first [second]) rfl
    (hheaders ▸ rfl) (hbodies ▸ rfl) (hurls ▸ rfl) (.ofFiles [])).1

end ListedRequest

end BracketScript
