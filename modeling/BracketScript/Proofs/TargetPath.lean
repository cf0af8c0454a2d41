import BracketScript.Proofs.Sequence
import Mathlib.Data.List.TakeWhile

/-!
# Paths of targets and of their entries

Before a target is run, white space around its path and slashes at its end are dropped. A path that
is left alone by this is the label of its own report. The path of a directory entry is such a path
again, whatever is in the directory, as long as its name is one.

## Main definitions

* `IsTarget`: a path that names a target as it is
* `IsEntryName`: a name that an entry of a directory can be run by

## Main results

* `IsTarget.targetPath_eq`: such a path is not changed
* `IsTarget.entryPath`: the path of an entry is a path of a target
* `IsTarget.refusal?_eq_none`: such a target is run unless it is being run already
-/

namespace BracketScript

namespace Text.Chars

variable {cs : List Char}

theorem dropWhile_eq_self_iff {p : Char → Bool} :
    cs.dropWhile p = cs ↔ ∀ c ∈ cs.head?, p c = false := by
  rw [List.dropWhile_eq_self_iff]
  cases cs <;> simp

theorem trimStart_eq_self_iff : trimStart cs = cs ↔ ∀ c ∈ cs.head?, isBlank c = false :=
  dropWhile_eq_self_iff

theorem trimEnd_eq_self_iff : trimEnd cs = cs ↔ ∀ c ∈ cs.getLast?, isBlank c = false := by
  rw [trimEnd, List.reverse_eq_iff, ← trimStart, trimStart_eq_self_iff, List.head?_reverse]

/-- Text is trimmed if neither its first nor its last character is blank. -/
theorem trim_eq_self_iff :
    trim cs = cs ↔
      (∀ c ∈ cs.head?, isBlank c = false) ∧ ∀ c ∈ cs.getLast?, isBlank c = false := by
  rw [← trimStart_eq_self_iff, ← trimEnd_eq_self_iff, trim]
  constructor
  · intro h
    -- trimming makes a text shorter or leaves it alone, so neither end has been trimmed
    have hend : (trimEnd (trimStart cs)).length ≤ (trimStart cs).length := by
      rw [trimEnd, List.length_reverse]
      exact (List.dropWhile_suffix _).length_le.trans_eq List.length_reverse
    have hstart : trimStart cs = cs :=
      (List.dropWhile_suffix _).eq_of_length_le (by rw [h] at hend; exact hend)
    exact ⟨hstart, by rwa [hstart] at h⟩
  · rintro ⟨hstart, hend⟩
    rw [hstart, hend]

end Text.Chars

/-- A path that names a target as it is: it is not empty, there is no white space around it, and no
slash at its end. -/
structure IsTarget (path : String) : Prop where
  ne_empty : path ≠ ""
  trimmed : Text.trim path = path
  getLast?_ne : path.toList.getLast? ≠ some '/'

/-- A name of an entry of a directory: it is not empty, it holds no slash, and it does not end in
white space. -/
structure IsEntryName (name : String) : Prop where
  ne_empty : name ≠ ""
  trimmed : Text.trimEnd name = name
  no_slash : '/' ∉ name.toList

theorem entryPath_toList (path name : String) :
    (entryPath path name).toList = path.toList ++ '/' :: name.toList := by
  simp [entryPath]

/-- Entries with different names have different paths. -/
theorem entryPath_inj {path name name' : String} :
    entryPath path name = entryPath path name' ↔ name = name' := by
  rw [← String.toList_inj, entryPath_toList, entryPath_toList, List.append_cancel_left_eq,
    List.cons_inj_right, String.toList_inj]

/-- The path of an entry is not that of the directory. -/
theorem entryPath_ne (path name : String) : entryPath path name ≠ path := by
  intro h
  have hlength := congrArg (fun p : String => p.toList.length) h
  simp only [entryPath_toList, List.length_append, List.length_cons] at hlength
  omega

namespace IsTarget

variable {path name : String} {s : Session}

theorem trim_toList (h : IsTarget path) : Text.Chars.trim path.toList = path.toList := by
  have htrim := congrArg String.toList h.trimmed
  rwa [Text.trim, String.toList_ofList] at htrim

/-- The path of a target is not changed before it is run. -/
theorem targetPath_eq (h : IsTarget path) : targetPath path = path := by
  have hslash : path.toList.reverse.dropWhile (· == '/') = path.toList.reverse := by
    rw [Text.Chars.dropWhile_eq_self_iff, List.head?_reverse]
    intro c hc
    rw [beq_eq_false_iff_ne]
    rintro rfl
    exact h.getLast?_ne hc
  rw [targetPath, h.trim_toList, hslash, List.reverse_reverse, String.ofList_toList]

/-- A target is refused only if it is being run already. -/
theorem refusal?_eq_none (h : IsTarget path) (hactive : path ∉ s.active) :
    refusal? s path = none := by
  rw [refusal?_eq_none_iff, h.targetPath_eq]
  exact ⟨h.ne_empty, hactive⟩

/-- The path of an entry is that of a target if the name of the entry ends in a character that is
neither blank nor a slash. -/
theorem entryPath_of_getLast? (h : IsTarget path) {c : Char}
    (hlast : name.toList.getLast? = some c) (hblank : Text.isBlank c = false) (hslash : c ≠ '/') :
    IsTarget (entryPath path name) := by
  have hne : path.toList ≠ [] := fun hnil => h.ne_empty (String.toList_eq_nil_iff.mp hnil)
  have hhead : (entryPath path name).toList.head? = path.toList.head? := by
    obtain ⟨c', cs, hcs⟩ := List.exists_cons_of_ne_nil hne
    rw [entryPath_toList, hcs]
    rfl
  -- it begins as the directory's path does, and ends as the name does
  have hend : (entryPath path name).toList.getLast? = some c := by
    rw [entryPath_toList, List.getLast?_append, List.getLast?_cons, hlast]
    rfl
  refine ⟨?_, ?_, ?_⟩
  · intro hempty
    rw [hempty] at hend
    exact absurd hend (by simp)
  · rw [Text.trim, Text.Chars.trim_eq_self_iff.mpr, String.ofList_toList]
    rw [hhead, hend]
    refine ⟨(Text.Chars.trim_eq_self_iff.mp h.trim_toList).1, ?_⟩
    rintro c' ⟨⟩
    exact hblank
  · rw [hend]
    exact fun hc => hslash (Option.some.inj hc)

/-- The path of an entry with a proper name is that of a target. -/
theorem entryPath (h : IsTarget path) (hname : IsEntryName name) :
    IsTarget (entryPath path name) := by
  have hne : name.toList ≠ [] := fun hnil => hname.ne_empty (String.toList_eq_nil_iff.mp hnil)
  have hlast := List.getLast?_eq_some_getLast hne
  have htrim := congrArg String.toList hname.trimmed
  rw [Text.trimEnd, String.toList_ofList, Text.Chars.trimEnd_eq_self_iff] at htrim
  refine h.entryPath_of_getLast? hlast (htrim _ hlast) ?_
  intro hslash
  exact hname.no_slash (hslash ▸ List.getLast_mem hne)

end IsTarget

end BracketScript
