import BracketScript.Proofs.Except
import BracketScript.Proofs.PostedObjects

/-!
# Assertions about lists

A call can require two lists to be the same, each written as a text with `___` between its elements.
If their order matters, the lists are compared place by place, and since a text can be put together
again from its elements, this is to compare the texts. If it does not matter, each list is searched
for the elements of the other one, but they are not counted: lists of the same length pass if they
have the same elements, however often each of them occurs.

## Main definitions

* `elementsOf`: the elements of a list that is written as a text
* `Session.ListAssertion`: a call that compares two lists
* `Session.ListAssertion.Passes`: the lists are found to be the same
* `Session.ListAssertion.ofTexts`: such a call for any two texts

## Main results

* `compareLists_ordered_iff`, `compareLists_unordered_iff`: which lists are the same
* `Session.ListAssertion.dispatches`: what the call comes to
* `Session.ListAssertion.decides`: which texts pass
-/

namespace BracketScript

/-! ### Lists that are the same -/

variable {as bs : List String}

theorem firstDifference_eq_none_iff (h : as.length = bs.length) :
    firstDifference as bs = none ↔ as = bs := by
  induction as generalizing bs with
  | nil =>
    obtain rfl := List.eq_nil_of_length_eq_zero h.symm
    simp [firstDifference]
  | cons a as ih =>
    obtain ⟨b, bs, rfl⟩ := List.exists_cons_of_length_eq_add_one h.symm
    by_cases hab : a = b
    · rw [firstDifference, if_pos hab, ih (Nat.succ.inj h), hab, List.cons_inj_right]
    · simp [firstDifference, hab]

/-- If the order matters, a list is the same as itself only. -/
theorem compareLists_ordered_iff : compareLists true as bs = .ok () ↔ as = bs := by
  by_cases hlength : as.length = bs.length
  · rw [← firstDifference_eq_none_iff hlength, compareLists, if_neg (not_not_intro hlength),
      if_pos rfl]
    cases firstDifference as bs <;> simp
  · have hne : as ≠ bs := fun h => hlength (congrArg List.length h)
    simp [compareLists, hlength, hne]

/-- All elements of a list are found in the other one exactly if the list has no others. -/
theorem find?_not_contains_eq_none_iff :
    (bs.find? fun x => !as.contains x) = none ↔ ∀ x ∈ bs, x ∈ as := by
  simp

/-- If it does not, lists are the same if they have the same length and the same elements. -/
theorem compareLists_unordered_iff : compareLists false as bs = .ok () ↔
    as.length = bs.length ∧ ∀ x, x ∈ as ↔ x ∈ bs := by
  by_cases hlength : as.length = bs.length
  · have hboth : (∀ x, x ∈ as ↔ x ∈ bs) ↔ (∀ x ∈ bs, x ∈ as) ∧ ∀ x ∈ as, x ∈ bs :=
      ⟨fun h => ⟨fun x => (h x).mpr, fun x => (h x).mp⟩, fun h x => ⟨h.2 x, h.1 x⟩⟩
    rw [and_iff_right hlength, hboth, ← find?_not_contains_eq_none_iff,
      ← find?_not_contains_eq_none_iff, compareLists, if_neg (not_not_intro hlength),
      if_neg Bool.false_ne_true]
    -- one list is searched after the other
    rcases bs.find? fun x => !as.contains x with _ | x
    · rcases as.find? fun x => !bs.contains x with _ | x <;> simp
    · simp
  · simp [compareLists, hlength]

/-- Lists are the same, or the assertion fails. -/
theorem compareLists_cases (ordered : Bool) (as bs : List String) :
    compareLists ordered as bs = .ok () ∨
      ∃ text, compareLists ordered as bs = .error (.assertionFailed text) := by
  unfold compareLists
  split
  · exact .inr ⟨_, rfl⟩
  · split <;> split
    · exact .inr ⟨_, rfl⟩
    · exact .inl rfl
    · exact .inr ⟨_, rfl⟩
    · split
      · exact .inr ⟨_, rfl⟩
      · exact .inl rfl

/-! ### Lists that are written as texts -/

/-- The elements of a list that is written as a text. -/
def elementsOf (text : String) : List String := Text.splitOn listSeparator text

/-- No text is lost when it is cut into elements. -/
theorem joinWith_elementsOf (text : String) :
    Text.joinWith listSeparator (elementsOf text) = text :=
  Text.joinWith_splitOn (by decide) text

theorem elementsOf_inj {a b : String} : elementsOf a = elementsOf b ↔ a = b := by
  constructor
  · intro h
    rw [← joinWith_elementsOf a, h, joinWith_elementsOf]
  · exact congrArg elementsOf

/-- Of four marks in a row the first three are between the elements. -/
example : elementsOf "a____b___" = ["a", "_b", ""] := by decide +kernel

/-! ### Calls that compare two lists -/

namespace Session

/-- A call that compares two lists: its arguments come to the texts of the lists and to whether
their order matters. Each argument is evaluated in the session that the one before it leaves. -/
structure ListAssertion (host : Host) (a b : String) (ordered : Bool) where
  /-- The session in which the call is made. -/
  session : Session
  /-- The argument text of the call. -/
  raw : String
  /-- The text of the first argument. -/
  firstSource : String
  /-- The text of the second argument. -/
  secondSource : String
  /-- The text of the last argument. -/
  orderSource : String
  arguments_eq : Brackets.arguments raw = [firstSource, secondSource, orderSource]
  /-- The value of the first argument. -/
  firstValue : Value
  asText_first : firstValue.asText = .ok a
  /-- The session after the first argument. -/
  afterFirst : Session
  evaluates_first : Evaluates host firstSource session (.ok firstValue) afterFirst
  /-- The value of the second argument. -/
  secondValue : Value
  asText_second : secondValue.asText = .ok b
  /-- The session after the second argument. -/
  afterSecond : Session
  evaluates_second : Evaluates host secondSource afterFirst (.ok secondValue) afterSecond
  /-- The value of the last argument. -/
  orderValue : Value
  asTruth_order : orderValue.asTruth = .ok ordered
  /-- The session after the last argument. -/
  after : Session
  evaluates_order : Evaluates host orderSource afterSecond (.ok orderValue) after

namespace ListAssertion

variable {host : Host} {a b : String} {ordered : Bool}

/-- The call passes. -/
def Passes (p : ListAssertion host a b ordered) : Prop :=
  ∃ t, Dispatches host "AssertStringArrEquals" p.raw p.session (.ok .pass) t

theorem liftExcept_pass (checked : Except ScriptError Unit) (s : Session) :
    (do liftExcept checked; return .pass : Action Value) s =
      some (checked.map fun _ => .pass, s) := by
  cases checked <;> rfl

/-- The call comes to what comparing the elements comes to. -/
theorem dispatches (p : ListAssertion host a b ordered) :
    Dispatches host "AssertStringArrEquals" p.raw p.session
      ((compareLists ordered (elementsOf a) (elementsOf b)).map fun _ => .pass) p.after := by
  obtain ⟨limit, hfirst, hsecond, horder⟩ := exists_limit_of_evaluates p.evaluates_first
    p.evaluates_second p.evaluates_order
  have htruth : (evaluator host limit).truth p.orderSource p.afterSecond =
      some (.ok ordered, p.after) := by
    rw [Evaluator.truth_apply, horder, ← p.asTruth_order]
    rfl
  have hthree : exactlyThree "AssertStringArrEquals" p.raw =
      .ok (p.firstSource, p.secondSource, p.orderSource) := by
    rw [exactlyThree, p.arguments_eq]
  have hname : dispatch host limit "AssertStringArrEquals" p.raw =
      runAssertLists (evaluator host limit) p.raw := dispatch_name host limit .assertLists p.raw
  refine ⟨limit, ?_⟩
  rw [hname, runAssertLists, hthree, Script.bind_of_ok (Script.liftExcept_apply _ _)]
  -- the arguments are evaluated one after the other, and then their elements are compared
  refine (Script.bind_of_ok (Evaluator.text_of_line hfirst p.asText_first)).trans
    ((Script.bind_of_ok (Evaluator.text_of_line hsecond p.asText_second)).trans
      ((Script.bind_of_ok htruth).trans ?_))
  exact liftExcept_pass _ _

theorem passes_iff (p : ListAssertion host a b ordered) :
    p.Passes ↔ compareLists ordered (elementsOf a) (elementsOf b) = .ok () := by
  constructor
  · rintro ⟨t, h⟩
    obtain ⟨_, hcompared, -⟩ := exceptMap_eq_ok_iff.mp (p.dispatches.unique h).1
    exact hcompared
  · intro h
    have hdispatches := p.dispatches
    rw [h] at hdispatches
    exact ⟨p.after, hdispatches⟩

/-- A call that does not pass fails with the text of an assertion. -/
theorem dispatches_of_not_passes (p : ListAssertion host a b ordered) (h : ¬ p.Passes) :
    ∃ text, Dispatches host "AssertStringArrEquals" p.raw p.session
      (.error (.assertionFailed text)) p.after := by
  rcases compareLists_cases ordered (elementsOf a) (elementsOf b) with hpass | ⟨text, hfail⟩
  · exact absurd (p.passes_iff.mpr hpass) h
  · have hdispatches := p.dispatches
    rw [hfail] at hdispatches
    exact ⟨text, hdispatches⟩

/-! ### Lists in variables -/

/-- The arguments of a call that compares what the variables `a` and `b` hold. -/
def variablesRaw (ordered : Bool) : String := "a, b, " ++ Value.boolText ordered

theorem arguments_variablesRaw (ordered : Bool) : Brackets.arguments (variablesRaw ordered) =
    ["a", " b", " " ++ Value.boolText ordered] := by
  cases ordered <;> decide +kernel

theorem answers_a {env : Environment} {v : Value} (h : env.get? "a" = some v) :
    Answers (· = "a") env "a" v := by
  have hscan : Token.scan "a" = [.ident "a"] := by decide +kernel
  exact answers_var (by decide) (Expr.parse_eq_ok hscan rfl) h

theorem answers_order (P : String → Prop) (env : Environment) (ordered : Bool) :
    Answers P env (" " ++ Value.boolText ordered) (.bool ordered) := by
  have hplain : Brackets.IsPlain (" " ++ Value.boolText ordered) := by cases ordered <;> decide
  exact answers_of_parse hplain (Expr.parse_boolText (List.all_eq_true.mp (by decide)) ordered)
    fun _ _ => Script.yields_pure _

/-- If the variables hold two texts, then the call compares them. -/
def ofVariables (host : Host) {s : Session} (ha : s.env.get? "a" = some (.str a))
    (hb : s.env.get? "b" = some (.str b)) (ordered : Bool) : ListAssertion host a b ordered where
  session := s.withArguments (variablesRaw ordered)
  raw := variablesRaw ordered
  firstSource := "a"
  secondSource := " b"
  orderSource := " " ++ Value.boolText ordered
  arguments_eq := arguments_variablesRaw ordered
  firstValue := .str a
  asText_first := rfl
  afterFirst := Outcome.keep (s.withArguments (variablesRaw ordered)) (.ok (.str a))
  evaluates_first := by
    have hcalled := (s.env.get?_set_of_ne (.str (variablesRaw ordered))
      (show "a" ≠ paramsName by decide)).trans ha
    exact ⟨1, (answers_a hcalled).line_self rfl host⟩
  secondValue := .str b
  asText_second := rfl
  afterSecond := Outcome.keep (Outcome.keep (s.withArguments (variablesRaw ordered)) (.ok (.str a)))
    (.ok (.str b))
  evaluates_second := by
    -- neither the argument text nor the first list, which is kept as a value, is assigned to `b`
    have hcalled := (s.env.get?_set_of_ne (.str (variablesRaw ordered))
      (show "b" ≠ paramsName by decide)).trans hb
    have hkept := (Environment.get?_set_of_ne _ (.str a)
      (show "b" ≠ valueName by decide)).trans hcalled
    exact ⟨1, (answers_body hkept).line_self rfl host⟩
  orderValue := .bool ordered
  asTruth_order := rfl
  after := Outcome.keep (Outcome.keep (Outcome.keep (s.withArguments (variablesRaw ordered))
    (.ok (.str a))) (.ok (.str b))) (.ok (.bool ordered))
  evaluates_order := ⟨1, (answers_order (fun _ => True) _ ordered).line_self rfl host⟩

/-- A session in which the variables `a` and `b` hold two texts. -/
def holding (a b : String) : Session :=
  { env := (Environment.empty.set "a" (.str a)).set "b" (.str b) }

/-- The call in that session. -/
def ofTexts (host : Host) (a b : String) (ordered : Bool) : ListAssertion host a b ordered :=
  have ha : (holding a b).env.get? "a" = some (.str a) :=
    (Environment.get?_set_of_ne _ _ (by decide)).trans (Environment.empty.get?_set_self _ _)
  ofVariables host ha (Environment.get?_set_self _ _ _) ordered

/-- A line with the call. -/
def variablesLine (ordered : Bool) : String :=
  "[AssertStringArrEquals(" ++ variablesRaw ordered ++ ")]"

theorem isCall_variablesLine (ordered : Bool) :
    IsCall (variablesLine ordered) "AssertStringArrEquals" (variablesRaw ordered) := by
  have hraw : Brackets.IsInner (variablesRaw ordered).toList := by cases ordered <;> decide
  exact (isCall_bracketed hraw : IsCall _ Builtin.assertLists.name _)

/-! ### Which texts pass -/

/-- If the order matters, the texts are the same. -/
theorem passes_ordered_iff (p : ListAssertion host a b true) : p.Passes ↔ a = b :=
  p.passes_iff.trans (compareLists_ordered_iff.trans elementsOf_inj)

/-- If it does not, their lists have the same length and the same elements. -/
theorem passes_unordered_iff (p : ListAssertion host a b false) : p.Passes ↔
    (elementsOf a).length = (elementsOf b).length ∧
      ∀ x, x ∈ elementsOf a ↔ x ∈ elementsOf b :=
  p.passes_iff.trans compareLists_unordered_iff

/-- A call that compares two lists in order passes exactly if their texts are the same, and one that
compares them in any order exactly if they have the same length and the same elements. So it is then
of no importance which list comes first and how its elements are arranged, and lists that are the
same in order are the same in any order. No text is lost in its elements, and a call that does not
pass fails with the text of an assertion. For all texts there is a line with such a call. -/
theorem decides (host : Host) (a b : String) :
    (∀ p : ListAssertion host a b true, p.Passes ↔ a = b) ∧
    (∀ p : ListAssertion host a b false, p.Passes ↔
      (elementsOf a).length = (elementsOf b).length ∧
        ∀ x, x ∈ elementsOf a ↔ x ∈ elementsOf b) ∧
    (∀ (p : ListAssertion host a b false) (q : ListAssertion host b a false),
      p.Passes ↔ q.Passes) ∧
    (∀ (p : ListAssertion host a b true) (q : ListAssertion host a b false),
      p.Passes → q.Passes) ∧
    (∀ a', (elementsOf a').Perm (elementsOf a) →
      ∀ (p : ListAssertion host a b false) (q : ListAssertion host a' b false),
        p.Passes ↔ q.Passes) ∧
    Text.joinWith listSeparator (elementsOf a) = a ∧
    (∀ ordered (p : ListAssertion host a b ordered), ¬ p.Passes → ∃ text,
      Dispatches host "AssertStringArrEquals" p.raw p.session
        (.error (.assertionFailed text)) p.after) ∧
    ∀ ordered, ∃ (line : String) (s : Session) (p : ListAssertion host a b ordered),
      IsCall line "AssertStringArrEquals" p.raw ∧ p.session = s.withArguments p.raw := by
  refine ⟨passes_ordered_iff, passes_unordered_iff, fun p q => ?symm, fun p q hp => ?ordered,
    fun a' hperm p q => ?perm, joinWith_elementsOf a, fun _ => dispatches_of_not_passes,
    fun ordered => ⟨variablesLine ordered, holding a b, ofTexts host a b ordered,
      isCall_variablesLine ordered, rfl⟩⟩
  case symm =>
    rw [p.passes_unordered_iff, q.passes_unordered_iff]
    exact and_congr eq_comm (forall_congr' fun _ => iff_comm)
  case ordered =>
    obtain rfl := p.passes_ordered_iff.mp hp
    exact q.passes_unordered_iff.mpr ⟨rfl, fun _ => Iff.rfl⟩
  case perm =>
    rw [p.passes_unordered_iff, q.passes_unordered_iff, hperm.length_eq]
    exact and_congr_right' (forall_congr' fun _ => iff_congr hperm.mem_iff.symm Iff.rfl)

/-- The line passes in the session in which the variables hold the two texts. -/
def LinePasses (host : Host) (a b : String) (ordered : Bool) : Prop :=
  ∃ t, Evaluates host (variablesLine ordered) (holding a b) (.ok .pass) t

theorem linePasses_iff : LinePasses host a b ordered ↔ (ofTexts host a b ordered).Passes :=
  exists_congr fun _ => evaluates_pass_iff_dispatches (isCall_variablesLine ordered)

/-- Elements that occur more than once, empty ones among them, are not counted, wherever they are:
the line passes for lists that hold the same elements a different number of times, whichever comes
first and after an exchange of elements, unless their order matters. -/
theorem decides_repeated :
    variablesLine false = "[AssertStringArrEquals(a, b, false)]" ∧
    (elementsOf "___1______1").Perm (elementsOf "1___1______") ∧
    LinePasses (.ofFiles []) "1___1______" "___1______" false ∧
    LinePasses (.ofFiles []) "___1______" "1___1______" false ∧
    LinePasses (.ofFiles []) "___1______1" "___1______" false ∧
    ¬ LinePasses (.ofFiles []) "1___1______" "___1______" true ∧
    LinePasses (.ofFiles []) "1___1______" "1___1______" true ∧
    LinePasses (.ofFiles []) "1___1______" "1___1______" false := by
  have hperm : (elementsOf "___1______1").Perm (elementsOf "1___1______") := by decide +kernel
  have hsame : (elementsOf "1___1______").length = (elementsOf "___1______").length ∧
      (∀ x ∈ elementsOf "1___1______", x ∈ elementsOf "___1______") ∧
      ∀ x ∈ elementsOf "___1______", x ∈ elementsOf "1___1______" := by
    decide +kernel
  obtain ⟨hordered, hunordered, hsymm, -, hperms, -⟩ :=
    decides (.ofFiles []) "1___1______" "___1______"
  obtain ⟨hself, -, -, himplies, -⟩ := decides (.ofFiles []) "1___1______" "1___1______"
  have hpasses := (hunordered (ofTexts _ _ _ _)).mpr
    ⟨hsame.1, fun x => ⟨hsame.2.1 x, hsame.2.2 x⟩⟩
  have hpasses' := (hself (ofTexts _ _ _ _)).mpr rfl
  refine ⟨by decide +kernel, hperm, ?_⟩
  simp only [linePasses_iff]
  exact ⟨hpasses, (hsymm _ _).mp hpasses, (hperms _ hperm _ _).mp hpasses,
    fun h => absurd ((hordered _).mp h) (by decide), hpasses', himplies _ _ hpasses'⟩

end ListAssertion

end Session

end BracketScript
