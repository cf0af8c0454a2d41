import BracketScript.Proofs.Calls
import BracketScript.Proofs.Except
import BracketScript.Proofs.Paths
import BracketScript.Session.Arguments
import Mathlib.Data.List.Infix

/-!
# Lists with delimiters between their elements

A list is written with three equal marks between its elements. The text is cut at the first three
marks, then at the next ones behind these, and so on. So the elements are found again if none of
them holds three marks in a row or ends in a mark; a mark at the beginning of an element does no
harm. Texts of this kind can be put together, so that lists can be elements of other lists with
other marks.

Header fields are written in this way, each with its name and its value, and header sets as lists of
fields. Whatever the order of the fields is, the header set is read back.

## Main definitions

* `IsElement`: a text that can be an element between marks
* `Headers.text`: header fields as text

## Main results

* `IsElement.append`, `isElement_joinWith`: texts that are put together
* `Text.splitOn_joinWith`: the elements of a list are found again
* `Headers.insertAll_eq`: header fields in any order make up the header set
* `headersOf_text`: header fields are read back
-/

namespace BracketScript

/-! ### Texts between marks -/

/-- A text that can stand before three marks: it does not hold them, and it does not end
in a mark. -/
structure IsElement (mark : Char) (cs : List Char) : Prop where
  no_separator : ¬ [mark, mark, mark] <:+: cs
  getLast?_ne : cs.getLast? ≠ some mark

namespace IsElement

variable {mark c : Char} {cs ds : List Char}

theorem of_cons (h : IsElement mark (c :: cs)) : IsElement mark cs := by
  refine ⟨fun hinfix => h.no_separator (List.infix_cons hinfix), fun hlast => h.getLast?_ne ?_⟩
  rw [List.getLast?_cons, hlast]
  rfl

/-- Three marks in front do not reach from such a text into what is behind it. -/
theorem not_isPrefix (h : IsElement mark cs) (hne : cs ≠ []) (ds : List Char) :
    ¬ [mark, mark, mark] <+: cs ++ ds := by
  intro hprefix
  rcases List.prefix_or_prefix_of_prefix hprefix (List.prefix_append cs ds) with hp | hp
  · exact h.no_separator hp.isInfix
  · -- the text is made of marks, so it ends in one
    have hlast := hp.subset (List.getLast_mem hne)
    simp only [List.mem_cons, List.not_mem_nil, or_false, or_self] at hlast
    exact h.getLast?_ne (hlast ▸ List.getLast?_eq_some_getLast hne)

theorem of_suffix (h : IsElement mark cs) (hsuffix : ds <:+ cs) : IsElement mark ds := by
  obtain ⟨front, rfl⟩ := hsuffix
  induction front with
  | nil => exact h
  | cons c front ih => exact ih h.of_cons

/-- Three marks do not begin in such a text. -/
theorem avoids (h : IsElement mark cs) : Text.Chars.Avoids [mark, mark, mark] cs :=
  fun _ hne hsuffix ds => (h.of_suffix hsuffix).not_isPrefix hne ds

theorem append (hcs : IsElement mark cs) (hds : IsElement mark ds) : IsElement mark (cs ++ ds) := by
  induction cs with
  | nil => exact hds
  | cons c cs ih =>
    refine ⟨fun hinfix => ?_, fun hlast => ?_⟩
    · rcases List.infix_cons_iff.mp hinfix with h | h
      · exact hcs.not_isPrefix (List.cons_ne_nil c cs) ds h
      · exact (ih hcs.of_cons).no_separator h
    · rw [List.getLast?_append] at hlast
      rcases Option.or_eq_some_iff.mp hlast with h | ⟨-, h⟩
      · exact hds.getLast?_ne h
      · exact hcs.getLast?_ne h

end IsElement

instance (mark : Char) (cs : List Char) : Decidable (IsElement mark cs) :=
  decidable_of_iff (¬ [mark, mark, mark] <:+: cs ∧ cs.getLast? ≠ some mark)
    ⟨fun h => ⟨h.1, h.2⟩, fun h => ⟨h.no_separator, h.getLast?_ne⟩⟩

theorem isElement_joinWith {mark : Char} {sep : String} {texts : List String}
    (hsep : IsElement mark sep.toList) (h : ∀ text ∈ texts, IsElement mark text.toList) :
    IsElement mark (Text.joinWith sep texts).toList := by
  induction texts with
  | nil => exact ⟨by simp [Text.joinWith_nil], by simp⟩
  | cons text rest ih =>
    obtain ⟨htext, hrest⟩ := List.forall_mem_cons.mp h
    cases rest with
    | nil => exact htext
    | cons next rest =>
      rw [Text.joinWith_cons_cons, String.toList_append, String.toList_append]
      exact (htext.append hsep).append (ih hrest)

/-! ### Cutting at marks -/

namespace Text

/-- The elements of a list are found again at the marks between them. -/
theorem splitOn_joinWith (mark : Char) {sep : String} (hsep : sep.toList = [mark, mark, mark])
    {texts : List String} (hne : texts ≠ []) (h : ∀ text ∈ texts, IsElement mark text.toList) :
    splitOn sep (joinWith sep texts) = texts := by
  have hempty : sep ≠ "" := by
    rintro rfl
    cases hsep
  refine splitOn_joinWith_of_avoids hempty hne fun text htext => ?_
  rw [hsep]
  exact (h text htext).avoids

/-- Elements that give the empty text are none at all, or the empty text alone. -/
theorem joinWith_eq_empty {sep : String} (hsep : sep ≠ "") {texts : List String}
    (h : joinWith sep texts = "") : texts = [] ∨ texts = [""] := by
  cases texts with
  | nil => exact .inl rfl
  | cons text rest =>
    cases rest with
    | nil =>
      rw [joinWith_singleton] at h
      exact .inr (h ▸ rfl)
    | cons next rest =>
      rw [joinWith_cons_cons] at h
      have hchars := congrArg String.toList h
      simp [hsep] at hchars

end Text

/-! ### Header fields as text -/

namespace Headers

variable {name value : String} {headers written given : Headers} {field : String × String}

/-- The fields are in the order of their names, and no two have the same name. -/
def IsSorted (headers : Headers) : Prop := headers.Pairwise fun field other => field.1 < other.1

theorem mem_of_mem_insert (h : field ∈ insert name value headers) :
    field = (name, value) ∨ field ∈ headers := by
  induction headers with
  | nil => exact .inl (List.mem_singleton.mp h)
  | cons first rest ih =>
    rw [insert] at h
    split at h
    · exact List.mem_cons.mp h
    · split at h
      · exact (List.mem_cons.mp h).imp_right (List.mem_cons_of_mem _)
      · rcases List.mem_cons.mp h with rfl | h
        · exact .inr List.mem_cons_self
        · exact (ih h).imp_right (List.mem_cons_of_mem _)

theorem isSorted_insert (h : headers.IsSorted) : IsSorted (insert name value headers) := by
  induction headers with
  | nil => exact List.pairwise_singleton _ _
  | cons first rest ih =>
    obtain ⟨hfirst, hrest⟩ := List.pairwise_cons.mp h
    rw [insert]
    split
    next hlt =>
      refine List.pairwise_cons.mpr ⟨List.forall_mem_cons.mpr ⟨hlt, fun field hfield => ?_⟩, h⟩
      exact String.lt_trans hlt (hfirst field hfield)
    next hle =>
      split
      next heq =>
        subst heq
        exact List.pairwise_cons.mpr ⟨hfirst, hrest⟩
      next hne =>
        refine List.pairwise_cons.mpr ⟨fun field hfield => ?_, ih hrest⟩
        rcases mem_of_mem_insert hfield with rfl | hfield
        · by_contra hge
          exact hne (String.le_antisymm (String.not_lt.mp hge) (String.not_lt.mp hle))
        · exact hfirst field hfield

/-- A field with a new name is added. -/
theorem insert_perm (h : name ∉ headers.map Prod.fst) :
    (insert name value headers).Perm ((name, value) :: headers) := by
  induction headers with
  | nil => exact .refl _
  | cons first rest ih =>
    rw [List.map_cons, List.mem_cons, not_or] at h
    obtain ⟨hne, hrest⟩ := h
    rw [insert]
    split
    · exact .refl _
    · exact ((ih hrest).cons first).trans (.swap _ _ _)

/-- Sets header fields one after the other. -/
def insertAll (given fields : Headers) : Headers :=
  fields.foldl (fun headers field => insert field.1 field.2 headers) given

/-- Fields with different names that are set one after the other are all there in the end. -/
theorem insertAll_perm (h : ((given ++ written).map Prod.fst).Nodup) :
    (insertAll given written).Perm (given ++ written) := by
  induction written generalizing given with
  | nil =>
    rw [List.append_nil]
    exact .refl _
  | cons field rest ih =>
    have hnew : field.1 ∉ given.map Prod.fst := by
      rw [List.map_append, List.map_cons, List.perm_middle.nodup_iff] at h
      exact fun hmem => (List.nodup_cons.mp h).1 (List.mem_append_left _ hmem)
    have hfirst : (insert field.1 field.2 given ++ rest).Perm (given ++ field :: rest) :=
      ((insert_perm hnew).append_right rest).trans List.perm_middle.symm
    exact (ih ((hfirst.map Prod.fst).nodup_iff.mpr h)).trans hfirst

theorem isSorted_insertAll (h : given.IsSorted) : (insertAll given written).IsSorted := by
  induction written generalizing given with
  | nil => exact h
  | cons field rest ih => exact ih (isSorted_insert h)

theorem IsSorted.nodup (h : headers.IsSorted) : (headers.map Prod.fst).Nodup := by
  rw [List.Nodup, List.pairwise_map]
  refine List.Pairwise.imp (fun hlt heq => ?_) h
  rw [heq] at hlt
  exact String.lt_irrefl _ hlt

/-- The order in which the fields of a header set are set makes no difference. -/
theorem insertAll_eq (hsorted : headers.IsSorted) (hperm : written.Perm headers) :
    insertAll [] written = headers := by
  have hnodup := (hperm.map Prod.fst).nodup_iff.mpr hsorted.nodup
  have hall : (insertAll [] written).Perm ([] ++ written) := insertAll_perm hnodup
  refine List.Perm.eq_of_pairwise (fun field other _ _ hlt hgt => ?_)
    (isSorted_insertAll List.Pairwise.nil) hsorted (hall.trans hperm)
  exact absurd (String.lt_trans hlt hgt) (String.lt_irrefl _)

/-- A header field, with three marks between the name and the value. -/
def fieldText (field : String × String) : String := field.1 ++ ":::" ++ field.2

/-- Header fields, with three marks between two of them. -/
def text (fields : Headers) : String := Text.joinWith "---" (fields.map fieldText)

/-- The name and the value of a field can be elements of each of the lists that they are in. -/
def IsWritable (fields : Headers) : Prop :=
  ∀ field ∈ fields, ∀ mark ∈ ['_', '-', ':'],
    IsElement mark field.1.toList ∧ IsElement mark field.2.toList

instance (fields : Headers) : Decidable fields.IsWritable :=
  decidable_of_iff ((fields.all fun field => ['_', '-', ':'].all fun mark =>
    decide (IsElement mark field.1.toList ∧ IsElement mark field.2.toList)) = true) <| by
      simp only [IsWritable, List.all_eq_true, decide_eq_true_eq]

theorem isElement_fieldText {mark : Char} (hmark : mark ≠ ':')
    (h : IsElement mark field.1.toList ∧ IsElement mark field.2.toList) :
    IsElement mark (fieldText field).toList := by
  have hsep : IsElement mark ":::".toList := by
    refine ⟨fun hinfix => hmark ?_, fun hlast => hmark (Option.some.inj hlast).symm⟩
    simpa using hinfix.subset List.mem_cons_self
  rw [fieldText, String.toList_append, String.toList_append]
  exact (h.1.append hsep).append h.2

theorem IsWritable.isElement_text (h : written.IsWritable) :
    IsElement '_' (text written).toList := by
  refine isElement_joinWith (by decide) (List.forall_mem_map.mpr fun field hfield => ?_)
  exact isElement_fieldText (by decide) (h field hfield '_' (by decide))

theorem fieldText_ne_empty (field : String × String) : fieldText field ≠ "" := by
  intro h
  have hchars := congrArg String.toList h
  simp [fieldText] at hchars

/-- Header fields are written as the empty text only if there are none. -/
theorem text_eq_empty_iff : text written = "" ↔ written = [] := by
  constructor
  · intro h
    rcases Text.joinWith_eq_empty (by decide) h with h | h
    · exact List.map_eq_nil_iff.mp h
    · obtain ⟨field, -, hfield⟩ := List.map_eq_singleton_iff.mp h
      exact absurd hfield (fieldText_ne_empty field)
  · rintro rfl
    rfl

theorem splitOn_fieldText (h : IsElement ':' field.1.toList ∧ IsElement ':' field.2.toList) :
    Text.splitOn ":::" (fieldText field) = [field.1, field.2] := by
  have hjoin : fieldText field = Text.joinWith ":::" [field.1, field.2] := rfl
  rw [hjoin, Text.splitOn_joinWith ':' rfl (List.cons_ne_nil _ _)]
  exact List.forall_mem_cons.mpr ⟨h.1, List.forall_mem_singleton.mpr h.2⟩

end Headers

open Headers in
/-- Header fields that are written in any order are read back as the header set. -/
theorem headersOf_text {headers written : Headers} (hsorted : headers.IsSorted)
    (hperm : written.Perm headers) (h : written.IsWritable) (format : String) :
    headersOf "---" ":::" format (text written) = .ok headers := by
  have hentries : (Text.splitOn "---" (text written)).filter (fun entry => !entry.isEmpty) =
      written.map fieldText := by
    by_cases hne : written = []
    · subst hne
      decide
    · have helement : ∀ entry ∈ written.map fieldText, IsElement '-' entry.toList :=
        List.forall_mem_map.mpr fun field hfield =>
          isElement_fieldText (by decide) (h field hfield '-' (by decide))
      rw [text, Text.splitOn_joinWith '-' rfl (by simpa using hne) helement,
        List.filter_eq_self]
      exact List.forall_mem_map.mpr fun field _ => by simpa using fieldText_ne_empty field
  rw [headersOf, hentries, List.foldlM_map, ← insertAll_eq hsorted hperm]
  -- each entry is cut into a name and a value
  refine foldlM_eq_ok (fun field hfield given => ?_) []
  rw [splitOn_fieldText (h field hfield ':' (by decide))]

end BracketScript
