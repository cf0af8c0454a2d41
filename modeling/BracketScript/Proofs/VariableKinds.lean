import BracketScript.Proofs.Names
import BracketScript.Proofs.Steps

/-!
# What variables hold

All variables are in one environment, and the language itself assigns some of them. The most recent
value may be a JSON object, the slot of one of several simultaneous requests may hold a failure, and
an evaluated argument may be anything and stays where it was put for its call. All other variables
hold texts, integers and truth values, among them those that scripts assign, the argument text of a
call and the stored response. For this, the names that the language assigns have to be different.

## Main definitions

* `Regime.typed`: every variable holds what its name admits

## Main results

* `Environment.Admits.isScalar`: what a name admits that is none of the special ones
* `Session.variables_typed`: every variable of a session holds what its name admits
-/

namespace BracketScript

/-! ### What names admit -/

namespace Environment

variable {name : String} {v : Value}

theorem admits_iff : Admits name v ↔
    v.isScalar = true ∨ (name = valueName ∧ ∃ members, v = .json members) ∨
      (∃ index, name = slotName index ∧ ∃ message, v = .error message) ∨
      ∃ index, name = argumentName index := by
  constructor
  · intro h
    cases h with
    | scalar h => exact .inl h
    | latest members => exact .inr (.inl ⟨rfl, members, rfl⟩)
    | outcome index message => exact .inr (.inr (.inl ⟨index, rfl, message, rfl⟩))
    | argument index => exact .inr (.inr (.inr ⟨index, rfl⟩))
  · rintro (h | ⟨rfl, members, rfl⟩ | ⟨index, rfl, message, rfl⟩ | ⟨index, rfl⟩)
    · exact .scalar h
    · exact .latest members
    · exact .outcome index message
    · exact .argument index v

/-- The most recent value is a scalar or a JSON object. -/
theorem admits_valueName_iff :
    Admits valueName v ↔ v.isScalar = true ∨ ∃ members, v = .json members := by
  rw [admits_iff]
  have hslot (index : Nat) : valueName ≠ slotName index := (slotName_ne (by decide) index).symm
  have hargument (index : Nat) : valueName ≠ argumentName index :=
    (argumentName_ne (by decide) index).symm
  simp [hslot, hargument]

/-- The slot of a request holds a scalar or a failure. -/
theorem admits_slotName_iff (index : Nat) :
    Admits (slotName index) v ↔ v.isScalar = true ∨ ∃ message, v = .error message := by
  rw [admits_iff]
  have hvalue : slotName index ≠ valueName := slotName_ne (by decide) index
  have hargument (i : Nat) : slotName index ≠ argumentName i :=
    (argumentName_ne_slotName i index).symm
  simp only [hvalue, hargument, false_and, exists_const, or_false, false_or]
  refine or_congr_right ⟨fun ⟨_, _, hmessage⟩ => hmessage, fun hmessage => ⟨index, rfl, hmessage⟩⟩

/-- All other names but those of arguments admit scalars only. -/
theorem Admits.isScalar (h : Admits name v) (hvalue : name ≠ valueName)
    (hslot : ∀ index, name ≠ slotName index) (hargument : ∀ index, name ≠ argumentName index) :
    v.isScalar = true := by
  rcases admits_iff.mp h with h | ⟨rfl, -⟩ | ⟨index, rfl, -⟩ | ⟨index, rfl⟩
  · exact h
  · exact absurd rfl hvalue
  · exact absurd rfl (hslot index)
  · exact absurd rfl (hargument index)

end Environment

/-! ### Sessions -/

namespace Regime

/-- The sessions in which every variable holds what its name admits. -/
def typed : Regime where
  session s := s.env.All Environment.Admits
  report _ := True
  assign hs hadmits _ := hs.set hadmits
  erase name hs := hs.erase name
  print _ hs := hs
  send _ hs := hs
  lookup _ _ := trivial
  ofText _ := trivial
  add _ _ _ := trivial
  addTree _ _ := trivial

theorem isEntered_typed : typed.IsEntered where
  enter hs _ := hs
  leave hs := hs

end Regime

namespace Session

/-- Whatever a session has been asked for, the most recent value is a scalar or a JSON object, a
slot holds a scalar or a failure, and all other variables but those for arguments hold scalars, the
argument text of a call and the stored response among them. On the way through any further step the
variables hold what their names admit, too. -/
theorem variables_typed {host : Host} {s : Session} (hreachable : Reachable host s) :
    (∀ name v, s.env.get? name = some v →
      (name = valueName → v.isScalar = true ∨ ∃ members, v = .json members) ∧
      (∀ index, name = slotName index → v.isScalar = true ∨ ∃ message, v = .error message) ∧
      (name ≠ valueName → (∀ index, name ≠ slotName index) →
        (∀ index, name ≠ argumentName index) → v.isScalar = true) ∧
      (name = paramsName ∨ name = responseName → v.isScalar = true)) ∧
    ∀ step outcome t, Performs host step s outcome t →
      PerformsWithin .typed host step s outcome t := by
  have hs : Regime.typed.session s :=
    hreachable.session Regime.isEntered_typed Environment.all_empty
  refine ⟨fun name v hfound => ?_, fun step outcome t hperforms => ?_⟩
  · have hadmits : Environment.Admits name v := hs name v hfound
    refine ⟨?_, ?_, hadmits.isScalar, ?_⟩
    · rintro rfl
      exact Environment.admits_valueName_iff.mp hadmits
    · rintro index rfl
      exact (Environment.admits_slotName_iff index).mp hadmits
    · -- neither is the name of the most recent value, of a slot or of an argument
      rintro (rfl | rfl)
      · exact hadmits.isScalar (by decide) (fun index => (slotName_ne (by decide) index).symm)
          fun index => (argumentName_ne_paramsName index).symm
      · exact hadmits.isScalar (by decide) (fun index => (slotName_ne (by decide) index).symm)
          fun index => (argumentName_ne (by decide) index).symm
  · have hgiven : ∀ v ∈ step.given, Regime.typed.value v := fun _ _ _ _ => trivial
    exact hperforms.within Regime.isEntered_typed hs hgiven

/-- A session that has been asked for a line in which a failing script is the argument of a call. -/
theorem variables_typed_failing_argument :
    ∃ s argument v, Reachable (.ofFiles [("a.txt", "[Fail(\"no\")]")]) s ∧
      s.env.get? (argumentName 0) = some argument ∧ argument.isScalar = false ∧
      s.env.get? paramsName = some v ∧ v.isScalar = true := by
  have htest : (eval (.ofFiles [("a.txt", "[Fail(\"no\")]")]) 6 "Pass(Evaluate(\"a.txt\"))" {}).any
      (fun r => ((r.2.env.get? (argumentName 0)).any fun argument => !argument.isScalar) &&
        (r.2.env.get? paramsName).isSome) = true := by
    decide +kernel
  obtain ⟨outcome, s, hline, htest⟩ := evaluates_of_any htest
  obtain ⟨hargument, hparams⟩ := Bool.and_eq_true_iff.mp htest
  obtain ⟨argument, hargument, htree⟩ := (Option.any_eq_true _ _).mp hargument
  obtain ⟨v, hparams⟩ := Option.isSome_iff_exists.mp hparams
  have hgiven : ∀ v ∈ (Step.eval "Pass(Evaluate(\"a.txt\"))").given, ∀ tree, v ≠ .report tree :=
    nofun
  have hreachable := Reachable.step .new hgiven (performs_eval_iff.mpr hline)
  obtain ⟨htyped, -⟩ := variables_typed hreachable
  obtain ⟨-, -, -, hscalar⟩ := htyped paramsName v hparams
  exact ⟨s, argument, v, hreachable, hargument, by simpa using htree, hparams, hscalar (.inl rfl)⟩

end Session

end BracketScript
