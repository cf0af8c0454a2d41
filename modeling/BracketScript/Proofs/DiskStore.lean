import BracketScript.Proofs.Paths
import BracketScript.Scripts.Store
import Mathlib.Logic.Relation

/-!
# Listing and reading below a root

What the files and directories below a root directory promise to those who run them. A directory is
listed in the order of names. A file is no directory, and it is not found at a path that ends in a
slash: the last segment of such a path is empty, and only a directory can be followed by a further
segment.

## Main definitions

* `FileTree.HasEntry`: a directory and one of its entries
* `Path.EndsInSlash`: the characters end in a slash, or there are none

## Main results

* `FileTree.list_pairwise`: names are listed in order
* `FileTree.follow_append`: segments are followed one after the other
* `FileTree.hasEntry_of_follow`: without going up they lead to something in the directory
* `FileTree.follow_append_empty`: an empty last segment leads to a directory
* `Disk.isDirectory_of_read`, `Disk.isDirectory_of_list`: files and directories are told apart
* `Disk.not_endsInSlash_of_read`: the path of a file does not end in a slash
-/

namespace BracketScript

/-! ### Names in order -/

namespace FileTree

variable {name : String} {names : List String}

theorem mem_insertName {n : String} : n ∈ insertName name names ↔ n = name ∨ n ∈ names := by
  induction names with
  | nil => simp [insertName]
  | cons first rest ih =>
    rw [insertName]
    split
    · exact List.mem_cons
    · rw [List.mem_cons, ih, List.mem_cons, or_left_comm]

theorem insertName_pairwise (h : names.Pairwise (· ≤ ·)) :
    (insertName name names).Pairwise (· ≤ ·) := by
  induction names with
  | nil => exact List.pairwise_singleton _ _
  | cons first rest ih =>
    obtain ⟨hfirst, hrest⟩ := List.pairwise_cons.mp h
    rw [insertName]
    split
    next hlt =>
      have hle : name ≤ first := Std.le_of_not_ge fun hge => hge hlt
      refine List.pairwise_cons.mpr ⟨fun n hn => ?_, h⟩
      rcases List.mem_cons.mp hn with rfl | hn
      · exact hle
      · exact String.le_trans hle (hfirst n hn)
    next hlt =>
      refine List.pairwise_cons.mpr ⟨fun n hn => ?_, ih hrest⟩
      rcases mem_insertName.mp hn with rfl | hn
      · exact String.not_lt.mp hlt
      · exact hfirst n hn

/-- The names of the entries of a directory are listed in order. -/
theorem list_pairwise {tree : FileTree} (h : tree.list = .ok names) :
    names.Pairwise (· ≤ ·) := by
  cases tree with
  | file content => exact absurd h (by simp [list])
  | directory entries =>
    obtain rfl := Except.ok.inj h
    induction entries with
    | nil => exact .nil
    | cons entry rest ih => exact insertName_pairwise (ih rfl)

/-! ### Following segments -/

section Follow

variable {above : List FileTree} {tree found : FileTree} {rest : List String}

/-- The second tree is an entry of the first, which is a directory. -/
def HasEntry (tree entry : FileTree) : Prop :=
  ∃ entries name, tree = .directory entries ∧ child? entries name = some entry

/-- A segment leads from a directory to a tree where the rest is followed. Unless the segment goes
up, that is the directory itself or an entry of it. -/
theorem follow_cons (h : follow (name :: rest) above tree = .ok found) :
    tree.isDirectory = true ∧ ∃ next around,
      (∀ rest, follow (name :: rest) above tree = follow rest around next) ∧
      (name ≠ ".." → next = tree ∨ HasEntry tree next) := by
  cases tree with
  | file content => exact absurd h (by simp [follow])
  | directory entries =>
    refine ⟨rfl, ?_⟩
    by_cases hhere : name = "" ∨ name = "."
    · refine ⟨.directory entries, above, fun rest => ?_, fun _ => .inl rfl⟩
      simp only [follow, if_pos hhere]
    by_cases hup : name = ".."
    · subst hup
      cases above with
      | nil => exact ⟨.directory entries, [], fun rest => by simp [follow], fun h => absurd rfl h⟩
      | cons parent around =>
        exact ⟨parent, around, fun rest => by simp [follow], fun h => absurd rfl h⟩
    simp only [follow, if_neg hhere, if_neg hup] at h ⊢
    by_cases hlong : maxName < name.utf8ByteSize
    · exact absurd h (by simp [hlong])
    cases hchild : child? entries name with
    | none => exact absurd h (by simp [hlong, hchild])
    | some child =>
      exact ⟨child, .directory entries :: above, fun rest => by simp [hlong],
        fun _ => .inr ⟨entries, name, rfl, hchild⟩⟩

/-- Segments one after the other: any others after the first ones are followed from where these lead
to. -/
theorem follow_append {first last : List String}
    (h : follow (first ++ last) above tree = .ok found) :
    ∃ mid around, ∀ more, follow (first ++ more) above tree = follow more around mid := by
  induction first generalizing above tree with
  | nil => exact ⟨tree, above, fun more => rfl⟩
  | cons name first ih =>
    obtain ⟨-, next, around, hnext, -⟩ := follow_cons h
    rw [List.cons_append, hnext] at h
    obtain ⟨mid, beyond, hmid⟩ := ih h
    exact ⟨mid, beyond, fun more => (hnext (first ++ more)).trans (hmid more)⟩

/-- Segments that do not go up lead to the directory itself or to something in it. -/
theorem hasEntry_of_follow (h : follow rest above tree = .ok found) (hup : ".." ∉ rest) :
    Relation.ReflTransGen HasEntry tree found := by
  induction rest generalizing above tree with
  | nil =>
    rw [follow] at h
    obtain rfl := Except.ok.inj h
    exact .refl
  | cons name rest ih =>
    rw [List.mem_cons, not_or] at hup
    obtain ⟨hname, hrest⟩ := hup
    obtain ⟨-, next, around, hnext, hentry⟩ := follow_cons h
    rw [hnext] at h
    rcases hentry (Ne.symm hname) with rfl | hentry
    · exact ih h hrest
    · exact .head hentry (ih h hrest)

/-- An empty segment leads from a directory to itself. -/
theorem follow_empty (h : tree.isDirectory = true) : follow [""] above tree = .ok tree := by
  cases tree with
  | file content => cases h
  | directory entries => simp [follow]

/-- An empty last segment leads to a directory, if it leads anywhere. -/
theorem follow_append_empty {segments : List String}
    (h : follow (segments ++ [""]) above tree = .ok found) : found.isDirectory = true := by
  obtain ⟨mid, around, hmid⟩ := follow_append h
  rw [hmid] at h
  obtain ⟨hdirectory, -⟩ := follow_cons h
  rw [follow_empty hdirectory] at h
  exact Except.ok.inj h ▸ hdirectory

end Follow

end FileTree

/-! ### Paths that end in a slash -/

namespace Path

/-- The characters end in a slash, or there are none. -/
def EndsInSlash (cs : List Char) : Prop := ∀ c ∈ cs.getLast?, c = '/'

theorem EndsInSlash.append {cs ds : List Char} (h : EndsInSlash cs) (h' : EndsInSlash ds) :
    EndsInSlash (cs ++ ds) := by
  intro c hc
  rw [List.getLast?_append] at hc
  cases hds : ds.getLast? with
  | none => exact h c (by simpa [hds] using hc)
  | some d =>
    obtain rfl : d = c := by simpa [hds] using hc
    exact h' d hds

theorem EndsInSlash.of_cons {c : Char} {cs : List Char} (h : EndsInSlash (c :: cs)) :
    EndsInSlash cs := by
  intro d hd
  refine h d ?_
  rw [List.getLast?_cons, hd]
  rfl

theorem EndsInSlash.stripHereChars {cs : List Char} (h : EndsInSlash cs) :
    EndsInSlash (stripHereChars cs) := by
  fun_induction Path.stripHereChars cs with
  | case1 cs ih => exact ih h.of_cons.of_cons
  | case2 cs => exact h

theorem endsInSlash_concat (cs : List Char) : EndsInSlash (cs ++ ['/']) := by
  intro c hc
  rw [List.getLast?_concat] at hc
  exact (Option.some.inj hc).symm

/-- A path that ends in a slash, or is empty, is so below a root too. -/
theorem EndsInSlash.join {path : String} (h : EndsInSlash path.toList) (root : String) :
    EndsInSlash (join root path).toList := by
  rw [Path.join]
  split
  · exact h
  next c hroot =>
    split
    next hc =>
      rw [String.toList_append]
      refine EndsInSlash.append (fun d hd => ?_) h
      rw [hroot] at hd
      exact (Option.some.inj hd).symm.trans hc
    next =>
      rw [String.toList_append, String.toList_append]
      exact (endsInSlash_concat root.toList).append h

end Path

/-- The last segment of a path that ends in a slash is empty. -/
theorem Path.EndsInSlash.segments {path : String} (h : EndsInSlash path.toList)
    (hne : path ≠ "") : ∃ segments, Path.segments path = segments ++ [""] := by
  have hne' : path.toList ≠ [] := fun hnil => hne (String.toList_eq_nil_iff.mp hnil)
  have hlast := List.getLast?_eq_some_getLast hne'
  have hconcat : path.toList = path.toList.dropLast ++ ['/'] := by
    rw [← h _ hlast, List.dropLast_concat_getLast]
  obtain ⟨pieces, hpieces⟩ := Text.Chars.splitOnFrom_concat '/' [] path.toList.dropLast
  refine ⟨pieces.map String.ofList, ?_⟩
  have hsplit : Text.Chars.splitOn "/".toList path.toList = pieces ++ [[]] := by
    rw [hconcat]
    exact hpieces
  rw [Path.segments, Text.splitOn, hsplit, List.map_append]
  rfl

/-! ### Files and directories of a disk -/

namespace Disk

variable {disk : Disk} {root path data : String} {names : List String}

theorem locate_of_read (h : (disk.store root).read path = .ok data) :
    ∃ content, disk.locate root path = .ok (.file content) := by
  cases hlocate : disk.locate root path with
  | error error => simp [store, hlocate, bind, Except.bind] at h
  | ok tree =>
    cases tree with
    | file content => exact ⟨content, rfl⟩
    | directory entries => simp [store, hlocate, bind, Except.bind, FileTree.read] at h

/-- What can be read is no directory. -/
theorem isDirectory_of_read (h : (disk.store root).read path = .ok data) :
    (disk.store root).isDirectory path = false := by
  obtain ⟨content, hlocate⟩ := locate_of_read h
  simp [store, hlocate, Except.map, Except.toOption, FileTree.isDirectory]

/-- What can be listed is a directory, and the names of its entries are listed in order. -/
theorem isDirectory_of_list (h : (disk.store root).list path = .ok names) :
    (disk.store root).isDirectory path = true ∧ names.Pairwise (· ≤ ·) := by
  cases hlocate : disk.locate root path with
  | error error => simp [store, hlocate, bind, Except.bind] at h
  | ok tree =>
    have hlist : tree.list = .ok names := by simpa [store, hlocate, bind, Except.bind] using h
    refine ⟨?_, FileTree.list_pairwise hlist⟩
    cases tree with
    | file content => exact absurd hlist (by simp [FileTree.list])
    | directory entries => simp [store, hlocate, Except.map, Except.toOption, FileTree.isDirectory]

/-- The segments that lead to the place where a path starts. -/
def start (disk : Disk) (path : String) : List String :=
  if Path.isAbsolute path then [] else disk.here

/-- What is found at a path is where its segments lead to, if the path is one at all. -/
theorem find_eq_ok_iff {tree : FileTree} : disk.find path = .ok tree ↔
    (path.toList.any (fun c => c.toNat = 0) = false ∧ path ≠ "" ∧
      path.utf8ByteSize ≤ FileTree.maxPath) ∧
    FileTree.follow (disk.start path ++ Path.segments path) [] disk.top = .ok tree := by
  rw [find]
  split
  next hnul => simp [hnul]
  next hnul =>
    split
    next hempty => simp [String.isEmpty_iff.mp hempty]
    next hempty =>
      have hne : path ≠ "" := fun h => hempty (String.isEmpty_iff.mpr h)
      split
      next hlong => simp [Nat.not_le.mpr hlong]
      next hlong =>
        rw [Bool.not_eq_true] at hnul
        rw [start, and_iff_right ⟨hnul, hne, Nat.not_lt.mp hlong⟩]

/-- The path of a file does not end in a slash, and is not empty. -/
theorem not_endsInSlash_of_read (h : (disk.store root).read path = .ok data) :
    ¬ Path.EndsInSlash path.toList := by
  intro hslash
  obtain ⟨content, hlocate⟩ := locate_of_read h
  have hstrip : Path.EndsInSlash (Path.stripHere path).toList := by
    rw [Path.stripHere, String.toList_ofList]
    exact hslash.stripHereChars
  rw [locate, Path.resolve?] at hlocate
  split at hlocate
  next place hplace =>
    obtain ⟨-, hplace⟩ := Option.ite_none_left_eq_some.mp hplace
    obtain rfl := Option.some.inj hplace
    -- the empty last segment leads to a directory, not to a file
    obtain ⟨⟨-, hne, -⟩, hfollow⟩ := find_eq_ok_iff.mp hlocate
    obtain ⟨segments, hsegments⟩ := (hstrip.join root).segments hne
    rw [hsegments, ← List.append_assoc] at hfollow
    exact absurd (FileTree.follow_append_empty hfollow) (by simp [FileTree.isDirectory])
  next => exact absurd hlocate (by simp)

end Disk

end BracketScript
