import BracketScript.Proofs.CallPaths
import BracketScript.Proofs.Sequence

/-!
# Values as argument text

A call in an expression gets text for values that are there already: a literal, or the name of a
variable that holds the value. When the built-in splits this text and evaluates its pieces it gets
the values back, whatever is in them. A text with quotes, commas, brackets or calls in it is never
split and never evaluated itself.

## Main results

* `Session.exists_sequence_of_answers`: texts for values, evaluated one after the other
* `Session.length_arguments_callText`: the number of pieces
* `Session.evaluates_callText`: the pieces of the text that is written for values have these values
-/

namespace BracketScript

namespace Session

open Environment (AgreesOn)

variable {P : String → Prop} {env : Environment} {s : Session}

/-- Keeping what a line comes to changes at most the variables. -/
theorem keep_eq (s : Session) (o : Outcome) : o.keep s = { s with env := (o.keep s).env } := by
  rcases o with error | v
  · rfl
  · cases v <;> rfl

/-- Keeping what a line comes to changes at most the most recent value. -/
theorem agreesOn_keep (hP : ¬ P valueName) (hs : env.AgreesOn P s.env) (o : Outcome) :
    env.AgreesOn P (o.keep s).env := by
  rcases o with error | v
  · exact hs
  · cases v with
    | error | report | pass => exact hs
    | _ => exact hs.set hP _

/-- Texts that have values as long as certain variables keep theirs come, one after the other, to
these values, and change no variable of these. -/
theorem exists_sequence_of_answers (host : Host) {sources : List String} {values : List Value}
    (h : List.Forall₂ (Answers P env) sources values) (hP : ¬ P valueName)
    (hs : env.AgreesOn P s.env) :
    ∃ env', env.AgreesOn P env' ∧ Sequence (Evaluates host) s
      (sources.zip (values.map Value.outcome)) { s with env := env' } := by
  -- the variables that the texts read have kept their values in the session of each step
  induction h generalizing s with
  | nil => exact ⟨s.env, hs, .nil s⟩
  | @cons source v _ _ hsource _ ih =>
    have hline : Evaluates host source s v.outcome (Outcome.keep s (.ok v)) :=
      ⟨1, hsource.line_outcome host 0 hs⟩
    obtain ⟨env', hagrees, hrest⟩ := ih (agreesOn_keep hP hs (.ok v))
    refine ⟨env', hagrees, .cons hline ?_⟩
    rwa [keep_eq s (.ok v)] at hrest ⊢

/-- There are as many pieces as values, but the text for no values is one empty piece. -/
theorem length_arguments_callText (env : Environment) {values : List Value}
    (hvalues : ∀ v ∈ values, v ≠ .int Int64.minValue) :
    (Brackets.arguments (callText env values).1).length = max 1 values.length := by
  cases values with
  | nil => rfl
  | cons v rest =>
    have hall := forall₂_answers_callText env (List.cons_ne_nil v rest) hvalues (P := fun _ => True)
      fun _ => trivial
    rw [hall.length_eq, List.length_cons]
    omega

/-- The text that is written for values is split into as many pieces as there are values, and the
pieces come, one after the other, to these values: an error value to the failure that it keeps, and
all other values to themselves. Nothing is printed, sent or run, and no variable but the most recent
value changes. -/
theorem evaluates_callText (host : Host) (s : Session) {values : List Value}
    (hvalues : .int Int64.minValue ∉ values) :
    (Brackets.arguments (callText s.env values).1).length = max 1 values.length ∧
      ∃ env, Sequence (Evaluates host) { s with env := (callText s.env values).2 }
          ((Brackets.arguments (callText s.env values).1).zip (values.map Value.outcome))
          { s with env := env } ∧
        ∀ name, name ≠ valueName → env.get? name = (callText s.env values).2.get? name := by
  have hne : ∀ v ∈ values, v ≠ .int Int64.minValue := fun v hv => by
    rintro rfl
    exact hvalues hv
  refine ⟨length_arguments_callText s.env hne, ?_⟩
  cases values with
  | nil =>
    rw [List.map_nil, List.zip_nil_right]
    exact ⟨_, .nil _, fun _ _ => rfl⟩
  | cons v rest =>
    have hall := forall₂_answers_callText s.env (List.cons_ne_nil v rest) hne
      (P := (· ≠ valueName)) argumentName_ne_valueName
    obtain ⟨env, hagrees, hsequence⟩ := exists_sequence_of_answers host
      (s := { s with env := (callText s.env (v :: rest)).2 }) hall (fun h => h rfl)
      fun _ _ => rfl
    exact ⟨env, hsequence, fun name hname => (hagrees name hname).symm⟩

/-- A text that looks like a call and has quotes, one that the split would cut, and values of other
kinds. -/
def mixedValues : List Value :=
  [.str "Fail(\"x\")\n", .str "a,[Fail(b)]", .int (-5), .bool true, .error "[,]", .pass]

/-- Three of them are written as literals and three are held by variables. Each comes back as it
was, and the text in quotes is not called. -/
theorem evaluates_callText_mixed : .int Int64.minValue ∉ mixedValues ∧
    (callText .empty mixedValues).1 =
      "\"Fail(\\\"x\\\")\\n\", params1, -5, true, params4, params5" ∧
    ∃ env, Sequence (Evaluates (.ofFiles [])) { env := (callText .empty mixedValues).2 }
      [("\"Fail(\\\"x\\\")\\n\"", .ok (.str "Fail(\"x\")\n")),
        (" params1", .ok (.str "a,[Fail(b)]")), (" -5", .ok (.int (-5))),
        (" true", .ok (.bool true)), (" params4", .error (.fail "[,]")),
        (" params5", .ok .pass)] { env := env } := by
  have hvalues : .int Int64.minValue ∉ mixedValues := by
    simp only [mixedValues, List.mem_cons, List.not_mem_nil, reduceCtorEq, Value.int.injEq,
      or_false, false_or]
    decide
  have htext : (callText .empty mixedValues).1 =
      "\"Fail(\\\"x\\\")\\n\", params1, -5, true, params4, params5" := by
    decide +kernel
  have hpieces : Brackets.arguments
      "\"Fail(\\\"x\\\")\\n\", params1, -5, true, params4, params5" =
        ["\"Fail(\\\"x\\\")\\n\"", " params1", " -5", " true", " params4", " params5"] := by
    decide +kernel
  obtain ⟨-, env, hsequence, -⟩ := evaluates_callText (.ofFiles []) {} hvalues
  rw [htext, hpieces] at hsequence
  exact ⟨hvalues, htext, env, hsequence⟩

end Session

end BracketScript
