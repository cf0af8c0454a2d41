import BracketScript.Value.Basic

/-!
# Environments

The variables of a run. Assignments stay in force for the rest of the run.

## Main definitions

* `Environment`: the variables that have a value
* `Environment.get?`, `Environment.set`, `Environment.erase`: reading, assigning and removing
* `Environment.All`: what holds of all variables that have a value
* `paramsName`, `valueName`, `responseName`, `slotName`: names that the language itself assigns

## Main results

* `Environment.get?_set_self`, `Environment.get?_set_of_ne`, `Environment.get?_erase_self`,
  `Environment.get?_erase_of_ne`: what is read after an assignment or removal
* `Environment.All.set`, `Environment.All.erase`: what holds of all variables after one
-/

namespace BracketScript

/-- The raw argument text of the call that is being evaluated. -/
def paramsName : String := "params"

/-- The most recent plain value of an expression. -/
def valueName : String := "val"

/-- The most recent response. -/
def responseName : String := "res"

/-- The variable for the outcome of the request with the given index among simultaneous ones. -/
def slotName (index : Nat) : String := "ParallelPost" ++ Text.natText index

/-- The variable for the evaluated argument with the given index of a call. -/
def argumentName (index : Nat) : String := paramsName ++ Text.natText index

/-- The variables that have a value, each with its value. -/
structure Environment where
  /-- Names and values; the first entry for a name counts. -/
  entries : List (String × Value)
  deriving Inhabited, Repr

namespace Environment

/-- No variable has a value. -/
def empty : Environment := ⟨[]⟩

/-- The value of a variable. -/
def get? (env : Environment) (name : String) : Option Value :=
  (env.entries.find? fun e => e.1 == name).map Prod.snd

/-- The environment without a variable. -/
def erase (env : Environment) (name : String) : Environment :=
  ⟨env.entries.filter fun e => e.1 != name⟩

/-- The environment in which a variable has the given value. -/
def set (env : Environment) (name : String) (value : Value) : Environment :=
  ⟨(name, value) :: (env.erase name).entries⟩

/-- The stored response. -/
def response? (env : Environment) : Option Value := env.get? responseName

/-- A variable has the value that was assigned to it last. -/
@[simp] theorem get?_set_self (env : Environment) (name : String) (value : Value) :
    (env.set name value).get? name = some value := by
  simp [get?, set]

/-- A removed variable has no value. -/
@[simp] theorem get?_erase_self (env : Environment) (name : String) :
    (env.erase name).get? name = none := by
  simp [get?, erase]

/-- Removing a variable leaves the others alone. -/
theorem get?_erase_of_ne (env : Environment) {name other : String} (h : other ≠ name) :
    (env.erase name).get? other = env.get? other := by
  unfold get? erase
  induction env.entries with
  | nil => rfl
  | cons e es ih =>
    by_cases he : e.1 = name
    · have : (e.1 == other) = false := by simpa [he] using fun e => h e.symm
      simp [he, List.find?_cons] at ih ⊢
      simpa [← he, this] using ih
    · by_cases ho : e.1 = other
      · simp [ho, h]
      · have : (e.1 == other) = false := by simpa using ho
        simpa [he, List.find?_cons, this] using ih

/-- Assigning a variable leaves the others alone. -/
theorem get?_set_of_ne (env : Environment) {name other : String} (value : Value)
    (h : other ≠ name) : (env.set name value).get? other = env.get? other := by
  have hn : (name == other) = false := by simpa using fun e => h e.symm
  rw [← get?_erase_of_ne env h]
  simp [get?, set, hn]

/-- All variables that have a value have one that `P` holds of. -/
def All (P : String → Value → Prop) (env : Environment) : Prop :=
  ∀ name value, env.get? name = some value → P name value

variable {P : String → Value → Prop} {env : Environment}

theorem all_empty : empty.All P := fun _ _ h => nomatch h

theorem All.set (henv : env.All P) {name : String} {value : Value} (h : P name value) :
    (env.set name value).All P := by
  intro other found hfound
  by_cases hname : other = name
  · subst hname
    rw [get?_set_self] at hfound
    exact Option.some.inj hfound ▸ h
  · rw [get?_set_of_ne env value hname] at hfound
    exact henv other found hfound

theorem All.erase (henv : env.All P) (name : String) : (env.erase name).All P := by
  intro other found hfound
  by_cases hname : other = name
  · subst hname
    rw [get?_erase_self] at hfound
    exact absurd hfound (by simp)
  · rw [get?_erase_of_ne env hname] at hfound
    exact henv other found hfound

end Environment

end BracketScript
