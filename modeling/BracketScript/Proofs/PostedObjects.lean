import BracketScript.Proofs.EscapedQuotes
import BracketScript.Proofs.RenderedValues

/-!
# Objects that are posted

A request with a body evaluates an argument to text and reads the text as an object. If the argument
is an object already, it is written as compact text first, and its quotes are unescaped like those
of a text that a script has written. So an object is sent as it is only if this changes nothing: no
string of it, names and nested ones included, has a quote in it or ends with a backslash. For all
other objects the call fails before anything is sent, or it sends another object.

## Main definitions

* `Session.Posting`: a line that posts an object

## Main results

* `Session.Posting.dispatches`: what is sent, or why nothing is
* `Session.Posting.sends_object_iff`: which objects are sent as they are
-/

namespace BracketScript

/-! ### Requests with a body -/

/-- Once its first two arguments have their texts, a call of `Post` reads the second one as an
object, before it evaluates the last one. -/
theorem runPost_apply {host : Host} {e : Evaluator} {s t u : Session}
    {raw urlSource bodySource headersSource url text : String}
    (harguments : Brackets.arguments raw = [urlSource, bodySource, headersSource])
    (hurl : e.text urlSource s = some (.ok url, t))
    (hbody : e.text bodySource t = some (.ok text, u)) :
    runPost host e raw s = (do
      let body ← liftExcept (jsonObject text)
      let headers ← liftExcept (singleHeaders (← e.text headersSource))
      exchangeOne host ⟨url, headers, .post, some body⟩ : Action Value) u := by
  have hthree : exactlyThree "Post" raw = .ok (urlSource, bodySource, headersSource) := by
    rw [exactlyThree, harguments]
  rw [runPost, hthree, Script.bind_of_ok (Script.liftExcept_apply _ _)]
  exact (Script.bind_of_ok hurl).trans (Script.bind_of_ok hbody)

/-- Sending a single request comes to something, and the request is noted. -/
theorem exists_exchangeOne (host : Host) (request : Request) (s : Session) :
    ∃ o t, exchangeOne host request s = some (o, t) ∧ t.sent = s.sent.push ⟨request, false⟩ := by
  have hsend : Action.send host request false s = some
      (.ok (host.transport (s.sent.toList.map (·.request)) request),
        { s with sent := s.sent.push ⟨request, false⟩ }) := rfl
  rw [exchangeOne, Script.bind_of_ok hsend]
  cases host.transport (s.sent.toList.map (·.request)) request with
  | ok response => exact ⟨_, _, rfl, rfl⟩
  | error error => exact ⟨_, _, rfl, rfl⟩

/-- An argument is an object, or the call fails with a report of what is wrong with its text. -/
theorem jsonObject_cases (text : String) :
    (∃ members, jsonObject text = .ok (.object members)) ∨
      ∃ report, jsonObject text = .error (.invalidJson report) := by
  unfold jsonObject
  split
  · exact .inl ⟨_, rfl⟩
  · exact .inr ⟨_, rfl⟩
  · exact .inr ⟨_, rfl⟩

namespace Session

/-- A line that posts an object: a call of `Post` whose first and last argument are a URL and header
fields and whose second argument has the object as its value. Each argument is evaluated in the
session that the one before it leaves. -/
structure Posting (host : Host) (line : String) (s : Session) where
  /-- The argument text of the call. -/
  raw : String
  isCall : IsCall line "Post" raw
  /-- The text of the first argument. -/
  urlSource : String
  /-- The text of the second argument. -/
  bodySource : String
  /-- The text of the last argument. -/
  headersSource : String
  arguments_eq : Brackets.arguments raw = [urlSource, bodySource, headersSource]
  /-- Where the request goes. -/
  url : String
  /-- The value of the first argument. -/
  urlValue : Value
  asText_url : urlValue.asText = .ok url
  /-- The session after the first argument. -/
  afterUrl : Session
  evaluates_url : Evaluates host urlSource (s.withArguments raw) (.ok urlValue) afterUrl
  /-- The members of the object. -/
  members : List (String × Json)
  /-- The session after the second argument. -/
  afterBody : Session
  evaluates_body : Evaluates host bodySource afterUrl (.ok (.json members)) afterBody
  /-- The header fields of the request. -/
  headers : Headers
  /-- The text of the header fields. -/
  headersText : String
  singleHeaders_eq : singleHeaders headersText = .ok headers
  /-- The value of the last argument. -/
  headersValue : Value
  asText_headers : headersValue.asText = .ok headersText
  /-- The session after the last argument. -/
  afterHeaders : Session
  evaluates_headers : Evaluates host headersSource afterBody (.ok headersValue) afterHeaders

namespace Posting

variable {host : Host} {line : String} {s : Session}

/-- The request that the line sends if its second argument is read as an object with the given
members. -/
def request (p : Posting host line s) (members : List (String × Json)) : Request :=
  ⟨p.url, p.headers, .post, some (.object members)⟩

/-- The requests that have been sent after one more. -/
def sentAfter (p : Posting host line s) (members : List (String × Json)) : Array Sent :=
  p.afterHeaders.sent.push ⟨p.request members, false⟩

/-- Within a limit that is large enough for each argument, the arguments have their texts. -/
theorem exists_texts (p : Posting host line s) : ∃ limit,
    (evaluator host limit).text p.urlSource (s.withArguments p.raw) =
        some (.ok p.url, p.afterUrl) ∧
      (evaluator host limit).text p.bodySource p.afterUrl =
        some (.ok (Json.object p.members).compact, p.afterBody) ∧
      (evaluator host limit).text p.headersSource p.afterBody =
        some (.ok p.headersText, p.afterHeaders) := by
  obtain ⟨limit, hurl, hbody, hheaders⟩ := exists_limit_of_evaluates p.evaluates_url
    p.evaluates_body p.evaluates_headers
  exact ⟨limit, Evaluator.text_of_line hurl p.asText_url, Evaluator.text_of_line hbody rfl,
    Evaluator.text_of_line hheaders p.asText_headers⟩

/-- The call sends the object that the text of the second argument is read as, or it fails before
anything is sent. -/
theorem dispatches (p : Posting host line s) :
    (∀ members, jsonObject (Json.object p.members).compact = .ok (.object members) →
      ∃ o t, Dispatches host "Post" p.raw (s.withArguments p.raw) o t ∧
        t.sent = p.sentAfter members) ∧
    ∀ error, jsonObject (Json.object p.members).compact = .error error →
      Dispatches host "Post" p.raw (s.withArguments p.raw) (.error error) p.afterBody := by
  obtain ⟨limit, hurl, hbody, hheaders⟩ := p.exists_texts
  have hpost : dispatch host limit "Post" p.raw = runPost host (evaluator host limit) p.raw :=
    dispatch_name host limit .post p.raw
  refine ⟨fun members hmembers => ?_, fun error herror => ⟨limit, ?_⟩⟩
  · obtain ⟨o, t, hsend, hsent⟩ := exists_exchangeOne host (p.request members) p.afterHeaders
    refine ⟨o, t, ⟨limit, ?_⟩, hsent⟩
    rw [hpost, runPost_apply p.arguments_eq hurl hbody, hmembers,
      Script.bind_of_ok (Script.liftExcept_apply _ _), Script.bind_of_ok hheaders,
      p.singleHeaders_eq, Script.bind_of_ok (Script.liftExcept_apply _ _)]
    exact hsend
  · rw [hpost, runPost_apply p.arguments_eq hurl hbody, herror]
    exact Script.bind_of_error (Script.liftExcept_apply _ _)

/-- A line of one call leaves the requests that the call leaves. -/
theorem evaluates_of_dispatches (p : Posting host line s) {o : Outcome} {t : Session}
    (h : Dispatches host "Post" p.raw (s.withArguments p.raw) o t) :
    Evaluates host line s (Outcome.ofSpans [o]) (o.keep t) ∧ (o.keep t).sent = t.sent := by
  obtain ⟨span, hspans, hb, hcall⟩ := p.isCall
  have hspan := (spanEvaluates_iff_dispatches hb hcall).mpr h
  exact ⟨hspan.evaluates hspans, by rw [keep_eq]⟩

end Posting

/-! ### Objects in a variable -/

/-- The arguments of a call that posts what the variable `b` holds. -/
def variableRaw : String := "\"http://x\", b, \"\""

/-- A line with this call. -/
def variableLine : String := "[Post(\"http://x\", b, \"\")]"

theorem isCall_variableLine : IsCall variableLine "Post" variableRaw := by
  have hparse : Call.ofChars? variableLine.toList = some ("Post".toList, variableRaw.toList) := by
    decide +kernel
  refine ⟨variableLine, by decide +kernel, by decide, ?_⟩
  rw [Call.parse, hparse]
  simp

section Variable

variable {P : String → Prop} {env : Environment}

theorem answers_url : Answers P env "\"http://x\"" (.str "http://x") := by
  have hquote : Answers P env ("" ++ Token.quote "http://x") (.str "http://x") :=
    answers_quote (by simp) (by decide)
  exact hquote

theorem answers_noHeaders : Answers P env " \"\"" (.str "") := by
  have hquote : Answers P env (" " ++ Token.quote "") (.str "") :=
    answers_quote (List.all_eq_true.mp (by decide)) (by decide)
  exact hquote

theorem answers_body {v : Value} (h : env.get? "b" = some v) : Answers (· = "b") env " b" v := by
  have hscan : Token.scan " b" = [.ident "b"] := by decide +kernel
  exact answers_var (by decide) (Expr.parse_eq_ok hscan rfl) h

end Variable

/-- If the variable holds an object, then the line posts it. -/
def Posting.ofVariable (host : Host) {s : Session} {members : List (String × Json)}
    (h : s.env.get? "b" = some (.json members)) : Posting host variableLine s where
  raw := variableRaw
  isCall := isCall_variableLine
  urlSource := "\"http://x\""
  bodySource := " b"
  headersSource := " \"\""
  arguments_eq := by decide +kernel
  url := "http://x"
  urlValue := .str "http://x"
  asText_url := rfl
  afterUrl := Outcome.keep (s.withArguments variableRaw) (.ok (.str "http://x"))
  evaluates_url := ⟨1, (answers_url : Answers (fun _ => True) _ _ _).line_self rfl host⟩
  members := members
  afterBody := Outcome.keep (Outcome.keep (s.withArguments variableRaw) (.ok (.str "http://x")))
    (.ok (.json members))
  evaluates_body := by
    -- neither the argument text nor the URL, which is kept as a value, is assigned to the variable
    have hcalled : (s.withArguments variableRaw).env.get? "b" = some (.json members) :=
      (s.env.get?_set_of_ne _ (by decide)).trans h
    have hkept := (Environment.get?_set_of_ne _ (.str "http://x")
      (show "b" ≠ valueName by decide)).trans hcalled
    exact ⟨1, (answers_body hkept).line_self rfl host⟩
  headers := []
  headersText := ""
  singleHeaders_eq := rfl
  headersValue := .str ""
  asText_headers := rfl
  afterHeaders := Outcome.keep (Outcome.keep (Outcome.keep (s.withArguments variableRaw)
    (.ok (.str "http://x"))) (.ok (.json members))) (.ok (.str ""))
  evaluates_headers := ⟨1, (answers_noHeaders : Answers (fun _ => True) _ _ _).line_self rfl host⟩

/-! ### Which objects are sent as they are -/

/-- An object with no quote in a string and no string that ends with a backslash is sent as it is.
For any other object the line fails before anything is sent, or another object is sent. So it is
with reading the object back from its text. -/
theorem Posting.sends_object_iff {host : Host} {line : String} {s : Session}
    (p : Posting host line s)
    (hread : Json.parse (Json.object p.members).compact = .ok (.object p.members)) :
    (jsonObject (Value.json p.members).display = .ok (.object p.members) ↔
      ∀ text ∈ (Json.object p.members).strings, Json.IsSafe text) ∧
    ∃ o t, Evaluates host line s o t ∧
      ((∀ text ∈ (Json.object p.members).strings, Json.IsSafe text) →
        t.sent = p.sentAfter p.members) ∧
      ((∃ text ∈ (Json.object p.members).strings, ¬ Json.IsSafe text) →
        (∃ report, o = .error (.invalidJson report) ∧ t.sent = p.afterBody.sent) ∨
          ∃ members, members ≠ p.members ∧ t.sent = p.sentAfter members) := by
  have hback := jsonObject_compact_eq_ok_iff hread
  refine ⟨hback, ?_⟩
  rcases jsonObject_cases (Json.object p.members).compact with
    ⟨members, hobject⟩ | ⟨report, hreport⟩
  · -- some object is sent, and it is the one given exactly if all strings are safe
    obtain ⟨o, t, hdispatches, hsent⟩ := p.dispatches.1 members hobject
    obtain ⟨hevaluates, hkeep⟩ := p.evaluates_of_dispatches hdispatches
    refine ⟨_, _, hevaluates, fun hsafe => ?_, fun ⟨text, htext, hunsafe⟩ => ?_⟩
    · obtain rfl : members = p.members := by
        simpa [hback.mpr hsafe] using hobject.symm
      rw [hkeep, hsent]
    · refine .inr ⟨members, ?_, hkeep.trans hsent⟩
      rintro rfl
      exact hunsafe (hback.mp hobject text htext)
  · -- nothing is sent, so not all strings are safe
    obtain ⟨hevaluates, hkeep⟩ := p.evaluates_of_dispatches (p.dispatches.2 _ hreport)
    refine ⟨_, _, hevaluates, fun hsafe => ?_, fun _ => .inl ⟨report, rfl, hkeep⟩⟩
    cases hreport.symm.trans (hback.mpr hsafe)

/-- A session in which the variable `b` holds an object. -/
def holding (members : List (String × Json)) : Session :=
  { env := Environment.empty.set "b" (.json members) }

/-- An object with a backslash within a name and within a nested string. -/
def pathMembers : List (String × Json) :=
  [("C:\\t", .array [.string "\\u", .null])]

/-- With the backslashes as they are, the object is sent. -/
theorem Posting.sends_object_iff_path :
    Json.parse (Json.object pathMembers).compact = .ok (.object pathMembers) ∧
    ∃ o t, Evaluates (.ofFiles []) variableLine (holding pathMembers) o t ∧
      t.sent = #[⟨⟨"http://x", [], .post, some (.object pathMembers)⟩, false⟩] := by
  have hbytes : Bytes.ofString (Json.object pathMembers).compact =
      ['\x7b', '"', 'C', ':', '\\', '\\', 't', '"', ':', '[', '"', '\\', '\\', 'u', '"', ',',
        'n', 'u', 'l', 'l', ']', '\x7d'].map fun c => UInt8.ofNat c.toNat := by
    decide +kernel
  have hread : Json.parse (Json.object pathMembers).compact = .ok (.object pathMembers) := by
    rw [Json.parse_eq_ok_iff, hbytes]
    rfl
  obtain ⟨-, o, t, hevaluates, hsafe, -⟩ :=
    (Posting.ofVariable (.ofFiles []) (s := holding pathMembers) rfl).sends_object_iff hread
  exact ⟨hread, o, t, hevaluates, hsafe (by decide)⟩

/-- An object with one member, whose value has quotes in it. -/
def quotedMembers : List (String × Json) := [("a", .string "\",\"b\":\"")]

/-- What its text is read as once the quotes are unescaped. -/
def splitMembers : List (String × Json) := [("a", .string ""), ("b", .string "")]

/-- The text of the first object can be read back, but the object is not: posting it sends the
second one. -/
theorem posts_other_object : splitMembers ≠ quotedMembers ∧
    Json.parse (Json.object quotedMembers).compact = .ok (.object quotedMembers) ∧
    jsonObject (Value.json quotedMembers).display = .ok (.object splitMembers) ∧
    ∃ o t, Evaluates (.ofFiles []) variableLine (holding quotedMembers) o t ∧
      t.sent = #[⟨⟨"http://x", [], .post, some (.object splitMembers)⟩, false⟩] := by
  have hbytes : Bytes.ofString (Json.object quotedMembers).compact =
      ['\x7b', '"', 'a', '"', ':', '"', '\\', '"', ',', '\\', '"', 'b', '\\', '"', ':', '\\', '"',
        '"', '\x7d'].map fun c => UInt8.ofNat c.toNat := by
    decide +kernel
  have hunescaped :
      Bytes.ofString (String.ofList (unescapeQuotes (Json.object quotedMembers).compact.toList)) =
        ['\x7b', '"', 'a', '"', ':', '"', '"', ',', '"', 'b', '"', ':', '"', '"', '\x7d'].map
          fun c => UInt8.ofNat c.toNat := by
    decide +kernel
  have hread : Json.parse (Json.object quotedMembers).compact = .ok (.object quotedMembers) := by
    rw [Json.parse_eq_ok_iff, hbytes]
    rfl
  have hother : jsonObject (Json.object quotedMembers).compact = .ok (.object splitMembers) := by
    rw [jsonObject_eq_ok_iff, Json.parse_eq_ok_iff, hunescaped]
    rfl
  let p := Posting.ofVariable (.ofFiles []) (s := holding quotedMembers) rfl
  obtain ⟨o, t, hdispatches, hsent⟩ := p.dispatches.1 _ hother
  obtain ⟨hevaluates, hkeep⟩ := p.evaluates_of_dispatches hdispatches
  have hne : splitMembers ≠ quotedMembers := by simp [splitMembers, quotedMembers]
  exact ⟨hne, hread, hother, _, _, hevaluates, hkeep.trans hsent⟩

end Session

end BracketScript
