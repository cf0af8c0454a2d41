import BracketScript.Text.Blank
import BracketScript.Text.Decimal
import Mathlib.Algebra.Ring.Nat

/-!
# Decimal texts

A row of digits of any length writes a number, and is read as this number unless that is too large.
The decimal text of a number is such a row, so it is read back. Rows of the same length are ordered
like the numbers that they write.

## Main results

* `Text.natText_injective`: different numbers have different decimal texts
* `Text.Chars.readNat_digits`, `Text.Chars.readInt?_digits`: what a row of digits is read as
* `Text.Chars.readInt?_ofNat`: the decimal text of a number is read back
* `Text.Chars.lt_iff_ofDigitChars_lt`: rows of digits of one length are ordered like their numbers
-/

namespace BracketScript.Text

namespace Chars

variable {cs ds : List Char} {c d : Char} {n limit acc : Nat}

/-! ### Reading -/

theorem ofDigitChars_ofNat (n : Nat) : Nat.ofDigitChars 10 (ofNat n) 0 = n :=
  Nat.ofDigitChars_ten_toDigits

theorem isBlank_of_isAsciiDigit (h : isAsciiDigit c = true) : isBlank c = false := by
  simp only [isAsciiDigit, Bool.and_eq_true, decide_eq_true_eq] at h
  simp only [isBlank]
  grind

theorem isAsciiDigit_of_mem_ofNat (h : c ∈ ofNat n) : isAsciiDigit c = true := by
  have hdigit : c.isDigit = true := Nat.isDigit_of_mem_toDigits (by decide) (by decide) h
  simpa [Char.isDigit, isAsciiDigit, UInt32.le_iff_toNat_le] using hdigit

/-- Digits are read as the number that they write, which only grows on the way. -/
theorem readDigits_eq (hdigits : ∀ c ∈ cs, isAsciiDigit c = true)
    (hle : Nat.ofDigitChars 10 cs acc ≤ limit) :
    readDigits limit acc cs = .ok (Nat.ofDigitChars 10 cs acc) := by
  induction cs generalizing acc with
  | nil => simp [readDigits]
  | cons c cs ih =>
    obtain ⟨hc, hcs⟩ := List.forall_mem_cons.mp hdigits
    have hnext : 10 * acc + (c.toNat - '0'.toNat) = acc * 10 + digitValue c := by
      rw [Nat.mul_comm]
      rfl
    rw [Nat.ofDigitChars_cons, hnext] at hle ⊢
    have hacc : acc * 10 + digitValue c ≤ limit := by
      refine Nat.le_trans ?_ hle
      rw [Nat.ofDigitChars_eq_ofDigitChars_zero]
      have := Nat.le_mul_of_pos_left (acc * 10 + digitValue c)
        (Nat.pow_pos (n := cs.length) (show 0 < 10 by decide))
      omega
    rw [readDigits, addDigit, if_pos hc]
    simp only [hacc, if_true]
    exact ih hcs hle

/-- Digits are not read as a number that exceeds the limit. -/
theorem readDigits_eq_error (hdigits : ∀ c ∈ cs, isAsciiDigit c = true) (hacc : acc ≤ limit)
    (hlarge : limit < Nat.ofDigitChars 10 cs acc) :
    readDigits limit acc cs = .error .tooLarge := by
  induction cs generalizing acc with
  | nil =>
    rw [Nat.ofDigitChars_nil] at hlarge
    omega
  | cons c cs ih =>
    obtain ⟨hc, hcs⟩ := List.forall_mem_cons.mp hdigits
    have hnext : 10 * acc + (c.toNat - '0'.toNat) = acc * 10 + digitValue c := by
      rw [Nat.mul_comm]
      rfl
    rw [Nat.ofDigitChars_cons, hnext] at hlarge
    rw [readDigits, addDigit, if_pos hc]
    by_cases hle : acc * 10 + digitValue c ≤ limit
    · simp only [hle, if_true]
      exact ih hcs hle hlarge
    · simp only [hle, if_false]

theorem readMagnitude_digits (hne : cs ≠ []) (hdigits : ∀ c ∈ cs, isAsciiDigit c = true)
    (hle : Nat.ofDigitChars 10 cs 0 ≤ limit) :
    readMagnitude limit cs = .ok (Nat.ofDigitChars 10 cs 0) := by
  rw [readMagnitude, if_neg (by simpa using hne), readDigits_eq hdigits hle]

/-- A row of digits is the natural number that it writes. -/
theorem readNat_digits (hne : cs ≠ []) (hdigits : ∀ c ∈ cs, isAsciiDigit c = true)
    (hle : Nat.ofDigitChars 10 cs 0 ≤ limit) :
    readNat limit cs = .ok (Nat.ofDigitChars 10 cs 0) := by
  unfold readNat
  split
  · exact absurd rfl hne
  · exact absurd (hdigits '+' List.mem_cons_self) (by decide)
  · exact readMagnitude_digits hne hdigits hle

/-- A row of digits is an integer if the number that it writes is not too large. -/
theorem readInt?_digits (hne : cs ≠ []) (hdigits : ∀ c ∈ cs, isAsciiDigit c = true) :
    readInt? cs = if Nat.ofDigitChars 10 cs 0 ≤ maxInt64 then
      some (Nat.ofDigitChars 10 cs 0 : Int) else none := by
  have hread : (readMagnitude maxInt64 cs).toOption.map Int.ofNat =
      if Nat.ofDigitChars 10 cs 0 ≤ maxInt64 then
        some (Nat.ofDigitChars 10 cs 0 : Int) else none := by
    split
    · next hle =>
      rw [readMagnitude_digits hne hdigits hle]
      rfl
    · next hlarge =>
      rw [readMagnitude, if_neg (by simpa using hne),
        readDigits_eq_error hdigits (Nat.zero_le _) (Nat.lt_of_not_le hlarge)]
      rfl
  -- the first character is a digit, so neither sign
  unfold readInt?
  split
  · exact absurd (hdigits '-' List.mem_cons_self) (by decide)
  · exact absurd (hdigits '+' List.mem_cons_self) (by decide)
  · exact hread

theorem readMagnitude_ofNat (h : n ≤ limit) : readMagnitude limit (ofNat n) = .ok n := by
  rw [readMagnitude_digits (by simp [ofNat]) (fun _ => isAsciiDigit_of_mem_ofNat)
    ((ofDigitChars_ofNat n).symm ▸ h), ofDigitChars_ofNat]

/-- The decimal text of a number is read back. -/
theorem readInt?_ofNat (h : n ≤ maxInt64) : readInt? (ofNat n) = some (n : Int) := by
  rw [readInt?_digits (by simp [ofNat]) fun _ => isAsciiDigit_of_mem_ofNat, ofDigitChars_ofNat,
    if_pos h]

/-! ### Rows of digits and their order -/

theorem ofDigitChars_cons_zero (c : Char) (cs : List Char) :
    Nat.ofDigitChars 10 (c :: cs) 0 =
      10 ^ cs.length * digitValue c + Nat.ofDigitChars 10 cs 0 := by
  rw [Nat.ofDigitChars_cons, Nat.mul_zero, Nat.zero_add, Nat.ofDigitChars_eq_ofDigitChars_zero]
  rfl

theorem digitValue_lt (hc : isAsciiDigit c = true) : digitValue c < 10 := by
  simp only [isAsciiDigit, Bool.and_eq_true, decide_eq_true_eq] at hc
  rw [digitValue]
  omega

theorem lt_iff_digitValue_lt (hc : isAsciiDigit c = true) (hd : isAsciiDigit d = true) :
    c < d ↔ digitValue c < digitValue d := by
  simp only [isAsciiDigit, Bool.and_eq_true, decide_eq_true_eq] at hc hd
  have htoNat : c < d ↔ c.toNat < d.toNat := Iff.rfl
  rw [htoNat, digitValue, digitValue]
  omega

theorem digitValue_inj (hc : isAsciiDigit c = true) (hd : isAsciiDigit d = true) :
    digitValue c = digitValue d ↔ c = d := by
  simp only [isAsciiDigit, Bool.and_eq_true, decide_eq_true_eq] at hc hd
  rw [← Char.toNat_inj, digitValue, digitValue]
  omega

/-- A row of digits writes a number below the power of ten with its length. -/
theorem ofDigitChars_lt (hcs : ∀ c ∈ cs, isAsciiDigit c = true) :
    Nat.ofDigitChars 10 cs 0 < 10 ^ cs.length := by
  induction cs with
  | nil => decide
  | cons c cs ih =>
    obtain ⟨hc, hcs⟩ := List.forall_mem_cons.mp hcs
    have hdigit := Nat.mul_le_mul_left (10 ^ cs.length) (digitValue_lt hc)
    have hrest := ih hcs
    rw [Nat.mul_succ] at hdigit
    rw [ofDigitChars_cons_zero, List.length_cons, Nat.pow_succ]
    omega

/-- Two rows of digits of the same length are ordered as texts like the numbers that they write. -/
theorem lt_iff_ofDigitChars_lt (hlength : cs.length = ds.length)
    (hcs : ∀ c ∈ cs, isAsciiDigit c = true) (hds : ∀ d ∈ ds, isAsciiDigit d = true) :
    cs < ds ↔ Nat.ofDigitChars 10 cs 0 < Nat.ofDigitChars 10 ds 0 := by
  induction cs generalizing ds with
  | nil =>
    obtain rfl := List.eq_nil_of_length_eq_zero hlength.symm
    simp
  | cons c cs ih =>
    obtain ⟨d, ds, rfl⟩ := List.exists_cons_of_length_eq_add_one hlength.symm
    have hlength : cs.length = ds.length := Nat.succ.inj hlength
    obtain ⟨hc, hcs⟩ := List.forall_mem_cons.mp hcs
    obtain ⟨hd, hds⟩ := List.forall_mem_cons.mp hds
    have hleft := ofDigitChars_lt hcs
    have hright := ofDigitChars_lt hds
    rw [hlength] at hleft
    rw [ofDigitChars_cons_zero, ofDigitChars_cons_zero, hlength, List.cons_lt_cons_iff,
      ih hlength hcs hds, lt_iff_digitValue_lt hc hd, ← digitValue_inj hc hd]
    -- the first digits decide, unless they are the same
    rcases Nat.lt_trichotomy (digitValue c) (digitValue d) with h | h | h
    · have hmul := Nat.mul_le_mul_left (10 ^ ds.length) h
      rw [Nat.mul_succ] at hmul
      omega
    · rw [h]
      omega
    · have hmul := Nat.mul_le_mul_left (10 ^ ds.length) h
      rw [Nat.mul_succ] at hmul
      omega

end Chars

/-! ### Texts -/

theorem natText_injective {m n : Nat} (h : natText m = natText n) : m = n := by
  have hdigits : Chars.ofNat m = Chars.ofNat n := String.ofList_injective h
  rw [← Chars.ofDigitChars_ofNat m, hdigits, Chars.ofDigitChars_ofNat]

theorem intText_negSucc (n : Nat) : intText (.negSucc n) = "-" ++ natText (n + 1) := by
  apply String.toList_injective
  simp [intText, natText, Chars.ofInt]

end BracketScript.Text
