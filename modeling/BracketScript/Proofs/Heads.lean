import BracketScript.Proofs.Decimals
import BracketScript.Proofs.Encoding
import BracketScript.Proofs.Separators
import BracketScript.Service.Head

/-!
# Heads of requests are read back

A head is cut three times: at line ends into lines, the first line at white space of any kind into
three words, and every other line at its first colon into a name and a value. So what is written
between these places is read back as long as it holds none of what it is cut at: a value can hold
colons, and names and values can hold white space. Of the fields only those count that give the
length of the body, in any case and with any white space around the name and the number, and of
these only the last.

## Main definitions

* `HeaderField`: a field that can be written in one line
* `WrittenHead`: a request line and header fields that can be written
* `WrittenHead.length`: the length that the fields give

## Main results

* `Head.requestLine_line`: the request line is read back
* `Head.readFields_lines`: the last length counts
* `Head.parse_text`: a written head is read back, unless the length is too large
-/

namespace BracketScript

/-! ### Written heads -/

/-- There is no line end in the text, nor a half of one. -/
def IsInline (text : String) : Prop := '\r' ∉ text.toList ∧ '\n' ∉ text.toList

instance (text : String) : Decidable (IsInline text) := inferInstanceAs (Decidable (_ ∧ _))

/-- The text can be a word of a request line. -/
structure IsWord (text : String) : Prop where
  ne_empty : text ≠ ""
  visible : ∀ c ∈ text.toList, Text.isBlank c = false

theorem IsWord.return_notMem {text : String} (h : IsWord text) : '\r' ∉ text.toList :=
  fun hmem => absurd (h.visible '\r' hmem) (by decide)

/-- A header field that can be written in one line. If it gives the length of the body, its value is
a row of digits for a number of 64 bits, with any white space around it. -/
structure HeaderField where
  /-- The name. -/
  name : String
  /-- The value. -/
  value : String
  no_colon : ':' ∉ name.toList
  name_inline : IsInline name
  value_inline : IsInline value
  digits : Head.isLengthName name.toList = true →
    Text.trim value ≠ "" ∧ ∀ c ∈ (Text.trim value).toList, Text.isAsciiDigit c = true
  bounded : Head.isLengthName name.toList = true →
    Nat.ofDigitChars 10 (Text.trim value).toList 0 < 2 ^ 64

namespace HeaderField

variable (f : HeaderField)

/-- The line that the field is written in. -/
def line : String := f.name ++ ":" ++ f.value

/-- The length that the field gives, if it gives one. -/
def length? : Option Nat :=
  if Head.isLengthName f.name.toList then some (Nat.ofDigitChars 10 (Text.trim f.value).toList 0)
  else none

theorem toList_line : f.line.toList = f.name.toList ++ ':' :: f.value.toList := by simp [line]

theorem return_notMem_line : '\r' ∉ f.line.toList := by
  rw [toList_line, List.mem_append, List.mem_cons, not_or, not_or]
  exact ⟨f.name_inline.1, by decide, f.value_inline.1⟩

end HeaderField

/-- A request line and header fields that can be written. -/
structure WrittenHead where
  /-- What is asked for. -/
  method : String
  /-- What it is asked of. -/
  target : String
  /-- The version after `HTTP/1.`. -/
  minor : String
  /-- The header fields. -/
  fields : List HeaderField
  isWord_method : IsWord method
  isWord_target : IsWord target
  visible_minor : ∀ c ∈ minor.toList, Text.isBlank c = false

namespace WrittenHead

variable (w : WrittenHead)

/-- The version. -/
def version : String := "HTTP/1." ++ w.minor

/-- The request line. -/
def line : String := w.method ++ " " ++ w.target ++ " " ++ w.version

/-- The lines of the head, with a line end between each two. -/
def text : String := Text.joinWith "\r\n" (w.line :: w.fields.map HeaderField.line)

/-- The length of the body: the one given last, or none at all. -/
def length : Nat := (w.fields.filterMap HeaderField.length?).getLast?.getD 0

theorem isWord_version : IsWord w.version := by
  have hstart : ∀ c ∈ "HTTP/1.".toList, Text.isBlank c = false :=
    List.forall_iff_forall_mem.mp (by decide)
  refine ⟨fun h => ?_, fun c hc => ?_⟩
  · have hchars := congrArg String.toList h
    simp [version] at hchars
  · rw [version, String.toList_append, List.mem_append] at hc
    exact hc.elim (hstart c) (w.visible_minor c)

theorem toList_line : w.line.toList =
    w.method.toList ++ ' ' :: (w.target.toList ++ ' ' :: w.version.toList) := by simp [line]

theorem return_notMem_line : '\r' ∉ w.line.toList := by
  simp [toList_line, w.isWord_method.return_notMem, w.isWord_target.return_notMem,
    w.isWord_version.return_notMem]

end WrittenHead

/-- Three words with a space between each two are found again. -/
theorem Text.Chars.words_eq {first second third : String} (h₁ : IsWord first) (h₂ : IsWord second)
    (h₃ : IsWord third) :
    words (first.toList ++ ' ' :: (second.toList ++ ' ' :: third.toList)) =
      [first.toList, second.toList, third.toList] := by
  have hspace : isBlank ' ' = true := by decide
  rw [words, splitWhere_append h₁.visible hspace, splitWhere_append h₂.visible hspace,
    splitWhere_of_forall h₃.visible, List.filter_eq_self]
  simp [h₁.ne_empty, h₂.ne_empty, h₃.ne_empty]

namespace Head

/-- The request line is read back. -/
theorem requestLine_line (w : WrittenHead) :
    requestLine w.line.toList = .ok (w.method, w.target, w.version) := by
  rw [requestLine, w.toList_line,
    Text.Chars.words_eq w.isWord_method w.isWord_target w.isWord_version]
  simp only [String.ofList_toList]

/-- A field gives the length of the body or leaves it as it is. -/
theorem readField_line (f : HeaderField) (length : Nat) :
    readField length f.line.toList = .ok (f.length?.getD length) := by
  rw [readField, f.toList_line, Text.Chars.splitFirst_append f.no_colon, HeaderField.length?]
  by_cases hname : isLengthName f.name.toList = true
  · obtain ⟨hne, hdigits⟩ := f.digits hname
    have hle : Nat.ofDigitChars 10 (Text.trim f.value).toList 0 ≤ Text.maxUInt64 :=
      Nat.le_of_lt_succ (f.bounded hname)
    have hnil : (Text.trim f.value).toList ≠ [] := fun h => hne (String.toList_eq_nil_iff.mp h)
    have htrim : Text.Chars.trim f.value.toList = (Text.trim f.value).toList := by
      rw [Text.trim, String.toList_ofList]
    simp only [hname, if_true, htrim, Text.Chars.readNat_digits hnil hdigits hle, Option.getD_some]
  · simp only [hname, Bool.false_eq_true, if_false, Option.getD_none]

/-- Of several lengths the last one counts. -/
theorem readFields_lines (fields : List HeaderField) (length : Nat) :
    readFields length (fields.map fun f => f.line.toList) =
      .ok ((fields.filterMap HeaderField.length?).getLast?.getD length) := by
  -- `length` is what the fields before these have given
  induction fields generalizing length with
  | nil => rfl
  | cons f rest ih =>
    have hline : f.line.toList.isEmpty = false := by simp [f.toList_line]
    rw [List.map_cons, readFields, hline, if_neg Bool.false_ne_true, readField_line]
    simp only [ih]
    cases hlength : f.length? with
    | none => rw [List.filterMap_cons_none hlength, Option.getD_none]
    | some n =>
      rw [List.filterMap_cons_some hlength, List.getLast?_cons, Option.getD_some, Option.getD_some]

/-- The lines of a head are found again. -/
theorem splitOn_text (w : WrittenHead) :
    Text.Chars.splitOn ['\r', '\n'] w.text.toList =
      w.line.toList :: w.fields.map fun f => f.line.toList := by
  have hlines : ∀ line ∈ w.line.toList :: w.fields.map fun f => f.line.toList,
      Text.Chars.Avoids ['\r', '\n'] line := by
    refine List.forall_mem_cons.mpr ⟨?_, List.forall_mem_map.mpr fun f _ => ?_⟩
    · exact Text.Chars.avoids_of_notMem w.return_notMem_line
    · exact Text.Chars.avoids_of_notMem f.return_notMem_line
  have htext : w.text.toList =
      ['\r', '\n'].intercalate (w.line.toList :: w.fields.map fun f => f.line.toList) := by
    rw [WrittenHead.text, Text.toList_joinWith, List.map_cons, List.map_map]
    rfl
  rw [htext, Text.Chars.splitOn_intercalate (List.cons_ne_nil _ _) (List.cons_ne_nil _ _) hlines]

/-- A written head is read back, with the length of the body that is given last. It is refused if
this length is too large. -/
theorem parse_text (w : WrittenHead) :
    parse (Bytes.ofString w.text) =
      if maxBody < w.length then .error .payloadTooLarge
      else .ok ⟨w.method, w.target, w.length⟩ := by
  have hversion : Text.hasStart w.version "HTTP/1." = true := by
    simp [Text.hasStart, WrittenHead.version]
  rw [parse, Bytes.toString?_ofString]
  simp only [ofChars, splitOn_text, requestLine_line, bind, Except.bind, hversion, Bool.not_true,
    Bool.false_eq_true, if_false, readFields_lines]
  rfl

/-- A head that gives the length of the body twice, with a field between that says
something else. -/
def repeatedLength : WrittenHead where
  method := "POST"
  target := "/evaluate"
  minor := "1"
  fields := [
    ⟨"Content-Length", " 5", by decide, by decide, by decide,
      fun _ => ⟨by decide, List.all_eq_true.mp (by decide)⟩, fun _ => by decide⟩,
    ⟨"Referer", "http://host:80/", by decide, by decide, by decide, fun h => absurd h (by decide),
      fun h => absurd h (by decide)⟩,
    ⟨" CONTENT-length", "\t017 ", by decide, by decide, by decide,
      fun _ => ⟨by decide, List.all_eq_true.mp (by decide)⟩, fun _ => by decide⟩]
  isWord_method := ⟨by decide, List.forall_iff_forall_mem.mp (by decide)⟩
  isWord_target := ⟨by decide, List.forall_iff_forall_mem.mp (by decide)⟩
  visible_minor := List.forall_iff_forall_mem.mp (by decide)

theorem parse_text_repeated_length :
    repeatedLength.text = "POST /evaluate HTTP/1.1\r\nContent-Length: 5\r\n" ++
      "Referer:http://host:80/\r\n CONTENT-length:\t017 " ∧
    parse (Bytes.ofString repeatedLength.text) = .ok ⟨"POST", "/evaluate", 17⟩ := by
  have hparse := parse_text repeatedLength
  rw [show repeatedLength.length = 17 by decide, if_neg (by decide)] at hparse
  exact ⟨by decide, hparse⟩

end Head

end BracketScript
