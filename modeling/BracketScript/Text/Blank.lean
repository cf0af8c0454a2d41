/-!
# White space

The characters with the Unicode property White_Space, and trimming and cutting a text at them.

## Main definitions

* `isBlank`: a white space character
* `trimStart`, `trimEnd`, `trim`: a text without the white space at its ends
* `Chars.words`: the maximal pieces of a text that hold no white space

## Main results

* `Chars.trimStart_eq_iff`, `Chars.trimEnd_eq_iff`: what is left when white space is dropped
-/

namespace BracketScript.Text

/-- The character has the Unicode property White_Space. -/
def isBlank (c : Char) : Bool :=
  (9 ≤ c.toNat && c.toNat ≤ 13) || c.toNat == 32 || c.toNat == 0x85 || c.toNat == 0xa0 ||
    c.toNat == 0x1680 || (0x2000 ≤ c.toNat && c.toNat ≤ 0x200a) || c.toNat == 0x2028 ||
    c.toNat == 0x2029 || c.toNat == 0x202f || c.toNat == 0x205f || c.toNat == 0x3000

namespace Chars

/-- A text without its leading white space. -/
def trimStart (cs : List Char) : List Char :=
  cs.dropWhile isBlank

/-- A text without its trailing white space. -/
def trimEnd (cs : List Char) : List Char :=
  (cs.reverse.dropWhile isBlank).reverse

/-- A text without the white space at its two ends. -/
def trim (cs : List Char) : List Char :=
  trimEnd (trimStart cs)

/-- The pieces of a text between the characters that satisfy `p`, empty pieces included. -/
def splitWhere (p : Char → Bool) (cs : List Char) : List (List Char) :=
  cs.foldr
    (fun c pieces =>
      if p c then [] :: pieces
      else match pieces with
        | [] => [[c]]
        | piece :: rest => (c :: piece) :: rest)
    [[]]

/-- The maximal pieces of a text that hold no white space. -/
def words (cs : List Char) : List (List Char) :=
  (splitWhere isBlank cs).filter (fun piece => !piece.isEmpty)

/-- `trimStart` drops all white space before the first visible character, and nothing else. -/
theorem trimStart_eq_iff {cs rest : List Char} : trimStart cs = rest ↔
    (∃ blanks, (∀ b ∈ blanks, isBlank b = true) ∧ cs = blanks ++ rest) ∧
      ∀ c ∈ rest.head?, isBlank c = false := by
  constructor
  · rintro rfl
    refine ⟨⟨cs.takeWhile isBlank, fun b hb => ?_, List.takeWhile_append_dropWhile.symm⟩,
      fun c hc => ?_⟩
    · exact List.all_eq_true.mp List.all_takeWhile b hb
    · have hhead := List.head?_dropWhile_not isBlank cs
      rw [trimStart] at hc
      rwa [hc] at hhead
  · rintro ⟨⟨blanks, hblanks, rfl⟩, hhead⟩
    rw [trimStart, List.dropWhile_append_of_pos hblanks]
    cases rest with
    | nil => rfl
    | cons c rest => rw [List.dropWhile_cons, hhead c rfl, if_neg Bool.false_ne_true]

/-- `trimEnd` drops all white space behind the last visible character, and nothing else. -/
theorem trimEnd_eq_iff {cs line : List Char} : trimEnd cs = line ↔
    (∃ blanks, (∀ b ∈ blanks, isBlank b = true) ∧ cs = line ++ blanks) ∧
      ∀ c ∈ line.getLast?, isBlank c = false := by
  have hreverse : trimEnd cs = line ↔ trimStart cs.reverse = line.reverse :=
    List.reverse_eq_iff
  rw [hreverse, trimStart_eq_iff, List.head?_reverse]
  refine and_congr_left fun _ => ⟨?_, ?_⟩
  · rintro ⟨blanks, hblanks, hcs⟩
    refine ⟨blanks.reverse, fun b hb => hblanks b (List.mem_reverse.mp hb), ?_⟩
    rw [← List.reverse_inj, hcs, List.reverse_append, List.reverse_reverse]
  · rintro ⟨blanks, hblanks, rfl⟩
    exact ⟨blanks.reverse, fun b hb => hblanks b (List.mem_reverse.mp hb), List.reverse_append⟩

end Chars

/-- A text without its leading white space. -/
def trimStart (s : String) : String := String.ofList (Chars.trimStart s.toList)

/-- A text without its trailing white space. -/
def trimEnd (s : String) : String := String.ofList (Chars.trimEnd s.toList)

/-- A text without the white space at its two ends. -/
def trim (s : String) : String := String.ofList (Chars.trim s.toList)

end BracketScript.Text
