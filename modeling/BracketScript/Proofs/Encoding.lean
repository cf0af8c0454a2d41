import BracketScript.Text.Utf8
import Mathlib.Algebra.BigOperators.Group.List.Basic
import Mathlib.Algebra.Ring.Nat

/-!
# Texts and their bytes

A text is encoded character by character. The characters of ASCII have one byte each, with their
code point as its value, and the bytes of all other characters are larger than those. What can be
read as a text is the encoding of this text.

## Main definitions

* `Bytes.weight`: what a byte counts, given what characters count

## Main results

* `Bytes.ofString_eq_flatMap`: a text is encoded character by character
* `Bytes.toString?_ofString`, `Bytes.ofString_of_toString?`: bytes are read as a text if and only if
  they encode it
* `Bytes.encode_of_ascii`, `Bytes.le_of_mem_encode`: the bytes of a character
* `Bytes.sum_ofString`: the bytes of a text count what its characters count
-/

namespace BracketScript.Bytes

variable {c : Char} {b : UInt8}

theorem toList_loop_eq (bytes : ByteArray) (i : Nat) (reversed : List UInt8) :
    ByteArray.toList.loop bytes i reversed = reversed.reverse ++ bytes.data.toList.drop i := by
  fun_induction ByteArray.toList.loop bytes i reversed with
  | case1 i reversed h ih =>
    have hi : i < bytes.data.toList.length := h
    rw [ih, List.drop_eq_getElem_cons hi]
    simp [ByteArray.get!, h]
  | case2 i reversed h =>
    have hi : bytes.data.toList.length ≤ i := Nat.not_lt.mp h
    rw [List.drop_eq_nil_of_le hi, List.append_nil]

theorem toList_eq (bytes : ByteArray) : bytes.toList = bytes.data.toList := by
  rw [ByteArray.toList, toList_loop_eq]
  rfl

/-- A text is encoded character by character. -/
theorem ofString_eq_flatMap (s : String) :
    ofString s = s.toList.flatMap String.utf8EncodeChar := by
  rw [ofString, toList_eq, String.toUTF8_eq_toByteArray, ← String.utf8Encode_toList,
    List.utf8Encode]
  simp

/-- Bytes that are read as a text encode it. -/
theorem ofString_of_toString? {bytes : Bytes} {s : String} (h : toString? bytes = some s) :
    ofString s = bytes := by
  rw [toString?, String.fromUTF8?] at h
  split at h
  · cases h
    rw [ofString, toList_eq]
    rfl
  · cases h

/-- The bytes of a text are read as the text. -/
theorem toString?_ofString (s : String) : toString? (ofString s) = some s := by
  have hbytes : (⟨(ofString s).toArray⟩ : ByteArray) = s.toByteArray := by
    rw [ofString, toList_eq, Array.toArray_toList]
    rfl
  rw [toString?, hbytes, String.fromUTF8?, dif_pos s.isValidUTF8]
  rfl

/-- A character of ASCII is one byte. -/
theorem encode_of_ascii (h : c.toNat < 128) : String.utf8EncodeChar c = [UInt8.ofNat c.toNat] := by
  have hle : c.val.toNat ≤ 0x7f := Nat.le_of_lt_succ h
  rw [String.utf8EncodeChar]
  simp only [hle, if_true]
  rfl

/-- The bytes of a character beyond ASCII are beyond ASCII. -/
theorem le_of_mem_encode (h : 128 ≤ c.toNat) (hb : b ∈ String.utf8EncodeChar c) :
    128 ≤ b.toNat := by
  have hlarge {n : Nat} (hn : 128 ≤ n ∧ n < 256) : 128 ≤ (UInt8.ofNat n).toNat := by
    rw [UInt8.toNat_ofNat_of_lt' hn.2]
    exact hn.1
  have hascii : ¬ c.val.toNat ≤ 0x7f := Nat.not_le.mpr h
  rw [String.utf8EncodeChar] at hb
  simp only [if_neg hascii] at hb
  -- each byte has its highest bit set
  split at hb
  · simp only [List.mem_cons, List.not_mem_nil, or_false] at hb
    rcases hb with rfl | rfl <;> exact hlarge (by omega)
  · split at hb
    · simp only [List.mem_cons, List.not_mem_nil, or_false] at hb
      rcases hb with rfl | rfl | rfl <;> exact hlarge (by omega)
    · simp only [List.mem_cons, List.not_mem_nil, or_false] at hb
      rcases hb with rfl | rfl | rfl | rfl <;> exact hlarge (by omega)

/-! ### Counting characters by their bytes -/

/-- What a byte counts, given what characters count: only characters of ASCII do. -/
def weight (f : Char → Nat) (b : UInt8) : Nat :=
  if b.toNat < 128 then f (Char.ofNat b.toNat) else 0

variable {f : Char → Nat}

theorem sum_encode (hf : ∀ c, 128 ≤ c.toNat → f c = 0) (c : Char) :
    ((String.utf8EncodeChar c).map (weight f)).sum = f c := by
  by_cases hc : c.toNat < 128
  · have hbyte : (UInt8.ofNat c.toNat).toNat = c.toNat := 
      UInt8.toNat_ofNat_of_lt' (Nat.lt_trans hc (by decide))
    rw [encode_of_ascii hc, List.map_singleton, List.sum_singleton, weight, hbyte, if_pos hc,
      Char.ofNat_toNat]
  · have hlarge : 128 ≤ c.toNat := Nat.not_lt.mp hc
    rw [hf c hlarge]
    refine List.sum_eq_zero (List.forall_mem_map.mpr fun b hb => ?_)
    rw [weight, if_neg (Nat.not_lt.mpr (le_of_mem_encode hlarge hb))]

/-- The bytes of a text count what its characters count. -/
theorem sum_ofString (hf : ∀ c, 128 ≤ c.toNat → f c = 0) (s : String) :
    ((ofString s).map (weight f)).sum = (s.toList.map f).sum := by
  rw [ofString_eq_flatMap]
  induction s.toList with
  | nil => rfl
  | cons c cs ih =>
    rw [List.flatMap_cons, List.map_append, List.sum_append, sum_encode hf, ih, List.map_cons,
      List.sum_cons]

end BracketScript.Bytes
