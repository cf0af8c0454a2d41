import BracketScript.Proofs.IntegerTexts

/-!
# Comparison of values

Two values are compared as integers if both can be seen as integers, and by their texts otherwise.
Which of the two happens depends on the pair, so it is not clear that values that are equal to the
same value are equal to each other. Among texts, integers and truth values they are: the text of
such a value decides whether it can be seen as an integer, so a value that can be is never equal to
one that cannot be, and each value is equal to those with the same key. With any values on the two
sides, the outcome is the reverse when the sides are changed.

## Main definitions

* `Scalar`: a text, an integer or a truth value
* `Value.key`: what two such values must have in common to be equal

## Main results

* `Value.toInt?_display`: the text of a value is seen as the same integer as the value
* `Scalar.compare_eq_eq_iff`: values are equal if their keys are
* `Value.compare_swap`: the two sides changed
* `Scalar.equality_equivalence`: equality is an equivalence
-/

namespace BracketScript

namespace Value

variable {a b v : Value} {m n : Int64} {s t : String}

/-! ### Integers and texts -/

theorem compareInt_swap (m n : Int64) : compareInt m n = (compareInt n m).swap :=
  compareOfLessAndEq_eq_swap Int64.le_antisymm Int64.le_total Int64.not_le

theorem compareInt_eq_eq_iff : compareInt m n = .eq ↔ m = n :=
  compareOfLessAndEq_eq_eq (fun _ => Int64.le_refl _) Int64.not_le

theorem compareInt_eq_lt_iff : compareInt m n = .lt ↔ m < n :=
  compareOfLessAndEq_eq_lt

theorem compareText_swap (s t : String) : compareText s t = (compareText t s).swap :=
  compareOfLessAndEq_eq_swap String.le_antisymm String.le_total String.not_le

theorem compareText_eq_eq_iff : compareText s t = .eq ↔ s = t :=
  compareOfLessAndEq_eq_eq String.le_refl String.not_le

theorem compareText_eq_lt_iff : compareText s t = .lt ↔ s < t :=
  compareOfLessAndEq_eq_lt

/-! ### Values -/

theorem compare_of_integers (ha : a.toInt? = some m) (hb : b.toInt? = some n) :
    a.compare b = compareInt m n := by
  rw [compare, ha, hb]

theorem compare_of_texts (h : a.toInt? = none ∨ b.toInt? = none) :
    a.compare b = compareText a.display b.display := by
  rw [compare]
  rcases h with h | h
  · rw [h]
  · rw [h]
    cases a.toInt? <;> rfl

/-- Changing the sides reverses the outcome, for values of any type. -/
theorem compare_swap (a b : Value) : a.compare b = (b.compare a).swap := by
  cases ha : a.toInt? with
  | none =>
    rw [compare_of_texts (.inl ha), compare_of_texts (.inr ha)]
    exact compareText_swap _ _
  | some m =>
    cases hb : b.toInt? with
    | none =>
      rw [compare_of_texts (.inr hb), compare_of_texts (.inl hb)]
      exact compareText_swap _ _
    | some n =>
      rw [compare_of_integers ha hb, compare_of_integers hb ha]
      exact compareInt_swap _ _

/-- What a value is known by: the integer that it is seen as, or its text if it is seen as none. -/
def key (v : Value) : Int64 ⊕ String :=
  match v.toInt? with
  | some n => .inl n
  | none => .inr v.display

theorem key_of_integer (h : v.toInt? = some n) : v.key = .inl n := by rw [key, h]

theorem key_of_text (h : v.toInt? = none) : v.key = .inr v.display := by rw [key, h]

/-- Whether a text, an integer or a truth value can be seen as an integer, and as which one, can be
told from its text. -/
theorem toInt?_display (h : v.isScalar = true) : (str v.display).toInt? = v.toInt? := by
  cases v with
  | str s => rfl
  | int n => exact toInt?_intText n
  | bool b => cases b <;> decide
  | _ => cases h

end Value

/-! ### Scalars -/

/-- A text, an integer or a truth value. -/
abbrev Scalar := { v : Value // v.isScalar = true }

namespace Scalar

open Value

/-- Scalars with the same text are seen as the same integer, or neither of them as any. -/
theorem toInt?_eq_of_display_eq {a b : Scalar} (h : a.1.display = b.1.display) :
    a.1.toInt? = b.1.toInt? := by
  rw [← toInt?_display a.2, h, toInt?_display b.2]

/-- Two scalars are equal if and only if they have the same key. -/
theorem compare_eq_eq_iff (a b : Scalar) : a.1.compare b.1 = .eq ↔ a.1.key = b.1.key := by
  cases ha : a.1.toInt? with
  | none =>
    rw [compare_of_texts (.inl ha), compareText_eq_eq_iff, key_of_text ha]
    cases hb : b.1.toInt? with
    | none => rw [key_of_text hb, Sum.inr.injEq]
    | some n =>
      -- with the text of `b`, also `a` would be seen as an integer
      rw [key_of_integer hb]
      refine iff_of_false (fun h => ?_) nofun
      exact Option.some_ne_none n (hb.symm.trans ((toInt?_eq_of_display_eq h).symm.trans ha))
  | some m =>
    rw [key_of_integer ha]
    cases hb : b.1.toInt? with
    | none =>
      rw [compare_of_texts (.inr hb), compareText_eq_eq_iff, key_of_text hb]
      refine iff_of_false (fun h => ?_) nofun
      exact Option.some_ne_none m (ha.symm.trans ((toInt?_eq_of_display_eq h).trans hb))
    | some n =>
      rw [compare_of_integers ha hb, compareInt_eq_eq_iff, key_of_integer hb, Sum.inl.injEq]

/-- What `==` computes is an equivalence of texts, integers and truth values. It holds for two
values that can be seen as integers if these are the same, and for any other two if their texts are.
Changing the sides of a comparison reverses its outcome. -/
theorem equality_equivalence :
    Equivalence (fun a b : Scalar => a.1.compare b.1 = .eq) ∧
    (∀ a b : Value, BinaryOp.eq.apply a b = .ok (.bool true) ↔ a.compare b = .eq) ∧
    (∀ (a b : Value) (m n : Int64), a.toInt? = some m → b.toInt? = some n →
      (a.compare b = .eq ↔ m = n)) ∧
    (∀ a b : Value, a.toInt? = none ∨ b.toInt? = none →
      (a.compare b = .eq ↔ a.display = b.display)) ∧
    ∀ a b : Value, b.compare a = (a.compare b).swap := by
  refine ⟨⟨fun a => ?_, fun {a b} h => ?_, fun {a b c} hab hbc => ?_⟩, fun a b => ?_,
    fun a b m n ha hb => ?_, fun a b h => ?_, fun a b => ?_⟩
  · exact (compare_eq_eq_iff a a).mpr rfl
  · exact (compare_eq_eq_iff b a).mpr ((compare_eq_eq_iff a b).mp h).symm
  · have hkey := ((compare_eq_eq_iff a b).mp hab).trans ((compare_eq_eq_iff b c).mp hbc)
    exact (compare_eq_eq_iff a c).mpr hkey
  · simp [BinaryOp.apply]
  · rw [compare_of_integers ha hb, compareInt_eq_eq_iff]
  · rw [compare_of_texts h, compareText_eq_eq_iff]
  · exact compare_swap b a

/-- Three spellings of one integer are equal, and a truth value is not equal to its text with white
space around it. -/
theorem equality_equivalence_spellings :
    (str " 007").toInt? = some 7 ∧ (str "+7").toInt? = some 7 ∧ (bool true).toInt? = none ∧
      (str " 007").compare (int 7) = .eq ∧ (int 7).compare (str "+7") = .eq ∧
      (str " 007").compare (str "+7") = .eq ∧ (bool true).compare (str "true ") ≠ .eq := by
  obtain ⟨hequivalence, -, hintegers, htexts, -⟩ := equality_equivalence
  have hleft : (str " 007").toInt? = some 7 := by decide
  have hright : (str "+7").toInt? = some 7 := by decide
  have hfirst : (str " 007").compare (int 7) = .eq := (hintegers _ _ 7 7 hleft rfl).mpr rfl
  have hsecond : (int 7).compare (str "+7") = .eq := (hintegers _ _ 7 7 rfl hright).mpr rfl
  have hboth := hequivalence.trans (x := ⟨str " 007", rfl⟩) (y := ⟨int 7, rfl⟩)
    (z := ⟨str "+7", rfl⟩) hfirst hsecond
  refine ⟨hleft, hright, rfl, hfirst, hsecond, hboth, fun h => ?_⟩
  exact absurd ((htexts (bool true) (str "true ") (.inl rfl)).mp h) (by decide)

-- a failure kept as a value is not seen as an integer although its text is one
example : (error "5").compare (str "5") = .eq ∧ (str "5").compare (str "05") = .eq ∧
    (error "5").compare (str "05") = .gt := by decide

end Scalar

end BracketScript
