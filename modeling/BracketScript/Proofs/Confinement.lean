import BracketScript.Proofs.DiskStore

/-!
# Scripts stay below their root

A script is named by a path below a root directory, and no spelling of the path leads out of the
root. Each `./` at the front is dropped first, and what is left is refused if it starts at the top
or goes up anywhere. What is not refused is put after the root, so its parts are those of the root
and then names of entries only. On a disk such a path leads to the directory at the root or to
something in it.

## Main definitions

* `Path.Part`, `Path.parts`: the parts of a path that are followed
* `Path.entryNames`: the segments of a path that name entries

## Main results

* `Path.parts_join`: the parts of a path below a root
* `Path.leavesRoot_iff`: a path is refused for a part that is no entry
* `Disk.hasEntry_of_locate`: what a path leads to on a disk is at the root or in the directory there
* `Path.stays_below_root`: which paths are refused, and that all others stay below the root
-/

namespace BracketScript

namespace Path

variable {root path : String}

/-! ### Parts of paths -/

/-- A part of a path that is followed. -/
inductive Part where
  /-- The top of the file system. -/
  | top
  /-- The working directory. -/
  | here
  /-- The directory around the one that has been reached. -/
  | up
  /-- An entry of the directory that has been reached. -/
  | entry (name : String)
  deriving DecidableEq, Repr

/-- The part that a segment is, unless it is empty or a single dot. -/
def Part.ofSegment? (segment : String) : Option Part :=
  if segment = "" ∨ segment = "." then none
  else if segment = ".." then some .up
  else some (.entry segment)

/-- The part that a path starts with, apart from its segments: the top if it starts with a slash,
the working directory if its first segment is a single dot. -/
def start (path : String) : List Part :=
  if isAbsolute path then [.top]
  else if (segments path).head? = some "." then [.here]
  else []

/-- The parts of a path. Empty segments are none, and single dots are none unless they
stand first. -/
def parts (path : String) : List Part :=
  start path ++ (segments path).filterMap Part.ofSegment?

/-- The segments of a path that name entries: they are neither empty nor dots. -/
def entryNames (path : String) : List String :=
  (segments path).filter fun s => s ≠ "" && s ≠ "." && s ≠ ".."

/-- The names of entries are the components other than those that go up. -/
theorem entryNames_eq_filter (path : String) :
    entryNames path = (components path).filter (· ≠ "..") := by
  rw [entryNames, components, List.filter_filter]
  refine List.filter_congr fun s _ => ?_
  rw [Bool.and_comm]

/-- Where no segment goes up, the parts are the names of entries. -/
theorem filterMap_ofSegment? {names : List String} (h : ".." ∉ names) :
    names.filterMap Part.ofSegment? =
      (names.filter fun s => s ≠ "" && s ≠ "." && s ≠ "..").map .entry := by
  induction names with
  | nil => rfl
  | cons name rest ih =>
    obtain ⟨hname, hrest⟩ := not_or.mp (mt List.mem_cons.mpr h)
    have hup : name ≠ ".." := Ne.symm hname
    by_cases hempty : name = "" ∨ name = "."
    · rw [List.filterMap_cons_none (by rw [Part.ofSegment?, if_pos hempty]), ih hrest]
      rcases hempty with rfl | rfl <;> rfl
    · rw [List.filterMap_cons_some (by rw [Part.ofSegment?, if_neg hempty, if_neg hup]), ih hrest]
      rw [not_or] at hempty
      simp [hempty.1, hempty.2, hup]

/-! ### Paths below a root -/

theorem segments_ne_nil (path : String) : segments path ≠ [] :=
  mt List.map_eq_nil_iff.mp (Text.Chars.splitOnFrom_ne_nil ['/'] 0 [] path.toList)

/-- The segments of a path put after a root are those of the root, but for an empty one at its end,
and then those of the path. -/
theorem segments_join (hroot : root ≠ "") (path : String) : ∃ names, names ≠ [] ∧
    (segments root = names ∨ segments root = names ++ [""]) ∧
    segments (join root path) = names ++ segments path := by
  rw [join]
  split
  next hnil =>
    rw [List.getLast?_eq_none_iff, String.toList_eq_nil_iff] at hnil
    exact absurd hnil hroot
  next c hlast =>
    split
    next hc =>
      -- the slash at the end of the root is the one between the two
      obtain ⟨cs, hcs⟩ := List.getLast?_eq_some_iff.mp (hc ▸ hlast)
      obtain rfl : root = String.ofList cs ++ "/" := by
        rw [← String.toList_inj, hcs]
        simp
      have hend := segments_append (String.ofList cs) ""
      rw [String.append_empty] at hend
      exact ⟨_, segments_ne_nil (String.ofList cs), .inr hend,
        segments_append (String.ofList cs) path⟩
    next => exact ⟨_, segments_ne_nil root, .inl rfl, segments_append root path⟩

/-- A path put after a root starts with the root. -/
theorem exists_join_eq_append (root path : String) : ∃ rest, join root path = root ++ rest := by
  rw [join]
  split
  next hnil =>
    rw [List.getLast?_eq_none_iff, String.toList_eq_nil_iff] at hnil
    exact ⟨path, by rw [hnil, String.empty_append]⟩
  next =>
    split
    · exact ⟨path, rfl⟩
    · exact ⟨"/" ++ path, String.append_assoc⟩

theorem isAbsolute_join (hroot : root ≠ "") (path : String) :
    isAbsolute (join root path) = isAbsolute root := by
  obtain ⟨c, cs, hcs⟩ := List.exists_cons_of_ne_nil (mt String.toList_eq_nil_iff.mp hroot)
  obtain ⟨rest, hrest⟩ := exists_join_eq_append root path
  rw [isAbsolute, isAbsolute, hrest, String.toList_append, hcs]
  rfl

/-- The parts of a path put after a root are those of the root and then those of its segments. -/
theorem parts_join (hroot : root ≠ "") (path : String) :
    parts (join root path) = parts root ++ (segments path).filterMap Part.ofSegment? := by
  obtain ⟨names, hne, hroot', hjoin⟩ := segments_join hroot path
  obtain ⟨name, rest, rfl⟩ := List.exists_cons_of_ne_nil hne
  have hhead : (segments root).head? = some name := by
    rcases hroot' with h | h <;> rw [h] <;> rfl
  -- an empty segment at the end of the root is no part
  have hparts : (segments root).filterMap Part.ofSegment? =
      (name :: rest).filterMap Part.ofSegment? := by
    rcases hroot' with h | h
    · rw [h]
    · rw [h, List.filterMap_append]
      exact List.append_nil _
  have hstart : start (join root path) = start root := by
    rw [start, start, isAbsolute_join hroot, hjoin, hhead]
    rfl
  rw [parts, parts, hstart, hparts, hjoin, List.filterMap_append, List.append_assoc]

/-! ### What is dropped at the front -/

theorem exists_replicate_stripHereChars (cs : List Char) :
    ∃ n, cs = (List.replicate n ['.', '/']).flatten ++ stripHereChars cs := by
  fun_induction stripHereChars cs with
  | case1 cs ih =>
    obtain ⟨n, hn⟩ := ih
    refine ⟨n + 1, ?_⟩
    rw [List.replicate_succ, List.flatten_cons, List.append_assoc, ← hn]
    rfl
  | case2 cs => exact ⟨0, rfl⟩

theorem not_prefix_stripHereChars (cs : List Char) : ¬ ['.', '/'] <+: stripHereChars cs := by
  fun_induction stripHereChars cs with
  | case1 cs ih => exact ih
  | case2 cs h =>
    rintro ⟨rest, rfl⟩
    exact h rest rfl

/-! ### Which paths are refused -/

/-- A path leads out of the root if one of its parts is neither the working directory
nor an entry. -/
theorem leavesRoot_iff : leavesRoot path = true ↔
    ∃ part ∈ parts path, part ≠ .here ∧ ∀ name, part ≠ .entry name := by
  have hmem (part : Part) : part ∈ parts path ↔
      part ∈ start path ∨ ∃ s ∈ segments path, Part.ofSegment? s = some part := by
    rw [parts, List.mem_append, List.mem_filterMap]
  rw [leavesRoot, Bool.or_eq_true, List.contains_iff_mem]
  constructor
  · rintro (habsolute | hup)
    · exact ⟨.top, (hmem _).mpr (.inl (by simp [start, habsolute])), by simp, by simp⟩
    · exact ⟨.up, (hmem _).mpr (.inr ⟨"..", hup, by decide⟩), by simp, by simp⟩
  · rintro ⟨part, hpart, hhere, hentry⟩
    rcases (hmem part).mp hpart with hstart | ⟨s, hs, hsegment⟩
    · -- the path does not start in the working directory, so it starts at the top
      rw [start] at hstart
      split at hstart
      next habsolute => exact .inl habsolute
      next =>
        split at hstart
        next => exact absurd (List.mem_singleton.mp hstart) hhere
        next => cases hstart
    · rw [Part.ofSegment?] at hsegment
      split at hsegment
      next => cases hsegment
      next =>
        split at hsegment
        next hup => exact .inr (hup ▸ hs)
        next => exact absurd (Option.some.inj hsegment).symm (hentry s)

/-- A path that is not refused is put after the root, and what is put there goes down only. -/
theorem parts_of_resolve? (hroot : root ≠ "") {target : String}
    (h : resolve? root path = some target) :
    ".." ∉ segments (stripHere path) ∧
      parts target = parts root ++ (entryNames path).map .entry := by
  obtain ⟨hleaves, rfl⟩ := resolve?_eq_some_iff.mp h
  obtain ⟨-, hup⟩ := Bool.or_eq_false_iff.mp hleaves
  have hup : ".." ∉ segments (stripHere path) := by simpa using hup
  refine ⟨hup, ?_⟩
  -- what is dropped at the front names no entry
  rw [parts_join hroot, filterMap_ofSegment? hup, ← entryNames, entryNames_eq_filter,
    components_stripHere, ← entryNames_eq_filter]

end Path

/-! ### What a path leads to on a disk -/

namespace Disk

variable {disk : Disk} {root path : String} {tree : FileTree}

/-- Where a path put after a root leads to is reached from what is at the root. -/
theorem find_join (hroot : root ≠ "") (h : disk.find (Path.join root path) = .ok tree) :
    ∃ base above, disk.find root = .ok base ∧
      FileTree.follow (Path.segments path) above base = .ok tree := by
  obtain ⟨names, -, hsegments, hjoin⟩ := Path.segments_join hroot path
  obtain ⟨⟨hnul, -, hlong⟩, hfollow⟩ := find_eq_ok_iff.mp h
  have hstart : disk.start (Path.join root path) = disk.start root := by
    rw [start, start, Path.isAbsolute_join hroot]
  rw [hstart, hjoin, ← List.append_assoc] at hfollow
  obtain ⟨base, above, hbase⟩ := FileTree.follow_append hfollow
  rw [hbase] at hfollow
  refine ⟨base, above, find_eq_ok_iff.mpr ⟨⟨?_, hroot, ?_⟩, ?_⟩, hfollow⟩
  -- the root is a part of the path that leads somewhere, and so is a path itself
  · obtain ⟨rest, hrest⟩ := Path.exists_join_eq_append root path
    rw [hrest, String.toList_append, List.any_append, Bool.or_eq_false_iff] at hnul
    exact hnul.1
  · obtain ⟨rest, hrest⟩ := Path.exists_join_eq_append root path
    rw [hrest, String.utf8ByteSize_append] at hlong
    exact Nat.le_trans (Nat.le_add_right _ _) hlong
  · rcases hsegments with hroot | hroot
    · rw [hroot, ← List.append_nil names, ← List.append_assoc, hbase, FileTree.follow]
    · -- what the segments of the path are followed from is a directory
      obtain ⟨name, more, hpath⟩ := List.exists_cons_of_ne_nil (Path.segments_ne_nil path)
      rw [hpath] at hfollow
      rw [hroot, ← List.append_assoc, hbase]
      exact FileTree.follow_empty (FileTree.follow_cons hfollow).1

/-- What a path leads to is at the root or in the directory there. -/
theorem hasEntry_of_locate (hroot : root ≠ "") (h : disk.locate root path = .ok tree) :
    ∃ base, disk.find root = .ok base ∧ Relation.ReflTransGen FileTree.HasEntry base tree := by
  rw [locate] at h
  split at h
  next target htarget =>
    obtain ⟨hup, -⟩ := Path.parts_of_resolve? hroot htarget
    obtain ⟨-, rfl⟩ := Path.resolve?_eq_some_iff.mp htarget
    obtain ⟨base, above, hbase, hfollow⟩ := find_join hroot h
    exact ⟨base, hbase, FileTree.hasEntry_of_follow hfollow hup⟩
  next => cases h

end Disk

namespace Path

/-- What is left of a path once each `./` at its front is dropped decides whether it is refused:
only if that is absolute or goes up. Otherwise the path below the root has the parts of the root and
then the entries that the path names, in order, and on any disk it leads to what is at the root or
to something in the directory there. -/
theorem stays_below_root (hroot : root ≠ "") (path : String) :
    (∃ n, path.toList = (List.replicate n ['.', '/']).flatten ++ (stripHere path).toList) ∧
    ¬ ['.', '/'] <+: (stripHere path).toList ∧
    (resolve? root path = none ↔
      isAbsolute (stripHere path) = true ∨ ".." ∈ segments (stripHere path)) ∧
    (∀ target, resolve? root path = some target →
      parts target = parts root ++ (entryNames path).map .entry) ∧
    ∀ (disk : Disk) tree, disk.locate root path = .ok tree →
      ∃ base, disk.find root = .ok base ∧ Relation.ReflTransGen FileTree.HasEntry base tree := by
  refine ⟨?_, ?_, ?_, fun target h => (parts_of_resolve? hroot h).2,
    fun disk tree h => Disk.hasEntry_of_locate hroot h⟩
  · rw [stripHere, String.toList_ofList]
    exact exists_replicate_stripHereChars path.toList
  · rw [stripHere, String.toList_ofList]
    exact not_prefix_stripHereChars path.toList
  · have hnone : resolve? root path = none ↔ leavesRoot (stripHere path) = true := by
      simp [resolve?]
    rw [hnone, leavesRoot, Bool.or_eq_true, List.contains_iff_mem]

/-- Dots and slashes in between are no parts, and an absolute path is refused even where it shows up
only behind a `./`. -/
theorem stays_below_root_scripts : "/srv/scripts" ≠ "" ∧
    (∀ target, resolve? "/srv/scripts" "././suite//./a.txt" = some target →
      parts target = [.top, .entry "srv", .entry "scripts", .entry "suite", .entry "a.txt"]) ∧
    resolve? "/srv/scripts" ".//etc/passwd" = none := by
  have hroot : "/srv/scripts" ≠ "" := by decide
  obtain ⟨-, -, -, hparts, -⟩ := stays_below_root hroot "././suite//./a.txt"
  obtain ⟨-, -, hrefused, -⟩ := stays_below_root hroot ".//etc/passwd"
  refine ⟨hroot, fun target h => (hparts target h).trans ?_, hrefused.mpr (.inl ?_)⟩
  · decide
  · decide

end Path

end BracketScript
