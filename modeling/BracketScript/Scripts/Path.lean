import BracketScript.Text.Split

/-!
# Paths of scripts

Scripts are named by paths below a root directory. A path may not lead out of the root.

## Main definitions

* `Path.segments`: the parts of a path between slashes
* `Path.components`: the parts that name something
* `Path.stripHere`: a path without its leading `./`
* `Path.join`: a path appended to another
* `Path.resolve?`: the path of a script below a root
-/

namespace BracketScript.Path

/-- The parts of a path between slashes, empty ones included. -/
def segments (path : String) : List String := Text.splitOn "/" path

/-- The parts of a path that name something: empty parts and single dots name nothing. -/
def components (path : String) : List String :=
  (segments path).filter fun s => s ≠ "" && s ≠ "."

/-- Characters without each `./` at the front. -/
def stripHereChars : List Char → List Char
  | '.' :: '/' :: cs => stripHereChars cs
  | cs => cs

/-- A path without each `./` at its front. -/
def stripHere (path : String) : String := String.ofList (stripHereChars path.toList)

/-- The path starts at the top of the file system. -/
def isAbsolute (path : String) : Bool := path.toList.head? == some '/'

/-- A path that is not absolute appended to another one. -/
def join (base path : String) : String :=
  match base.toList.getLast? with
  | none => path
  | some c => if c = '/' then base ++ path else base ++ "/" ++ path

/-- The path leads out of the directory that it is relative to: it is absolute, or goes up. -/
def leavesRoot (path : String) : Bool :=
  isAbsolute path || (segments path).contains ".."

/-- The path of a script below a root, if it does not lead out of the root. -/
def resolve? (root path : String) : Option String :=
  if leavesRoot (stripHere path) then none else some (join root (stripHere path))

end BracketScript.Path
