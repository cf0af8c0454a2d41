import BracketScript.Scripts.Path
import BracketScript.Text.Utf8

/-!
# Stores of scripts

Where the files of scripts come from: what is at a path below the root, and why a file cannot be
read.

## Main definitions

* `FileError`: why a file or directory cannot be read
* `ScriptStore`: reading files and directories below a root
* `FileTree`: a file or a directory with all that is in it
* `FileTree.follow`: what a path leads to
* `Disk`: a file system with a working directory
* `Disk.store`: the store of the scripts below a root directory
-/

namespace BracketScript

/-- Why a file or directory cannot be read. -/
inductive FileError where
  | notFound
  | notDirectory
  | isDirectory
  | nameTooLong
  | notText
  | nulByte
  /-- The path leads out of the root. -/
  | outsideRoot (path : String)
  deriving DecidableEq, Repr, Inhabited

/-- The wording of a file error. -/
def FileError.message : FileError → String
  | notFound => "No such file or directory (os error 2)"
  | notDirectory => "Not a directory (os error 20)"
  | isDirectory => "Is a directory (os error 21)"
  | nameTooLong => "File name too long (os error 36)"
  | notText => "stream did not contain valid UTF-8"
  | nulByte => "file name contained an unexpected NUL byte"
  | outsideRoot path => path ++ " is outside the scripts root"

/-- Reading files and directories below a root. -/
structure ScriptStore where
  /-- The text of a file. -/
  read : String → Except FileError String
  /-- The names of the entries of a directory, in order. -/
  list : String → Except FileError (List String)
  /-- Something is there. -/
  has : String → Bool
  /-- A directory is there. -/
  isDirectory : String → Bool

/-- A file with its content, or a directory with its entries. -/
inductive FileTree where
  | file (content : Bytes)
  | directory (entries : List (String × FileTree))
  deriving Inhabited, Repr

namespace FileTree

/-- The longest name of an entry, in bytes. -/
def maxName : Nat := 255

/-- The longest path, in bytes. -/
def maxPath : Nat := 4095

/-- The entry of a directory with a given name. -/
def child? (entries : List (String × FileTree)) (name : String) : Option FileTree :=
  (entries.find? fun e => e.1 == name).map Prod.snd

/-- What the segments of a path lead to; `above` holds the directories around the tree, the
innermost first. Only a directory can be followed by a further segment, even by an empty one, and
above the top there is the top itself. -/
def follow : List String → List FileTree → FileTree → Except FileError FileTree
  | [], _, tree => .ok tree
  | _ :: _, _, .file _ => .error .notDirectory
  | name :: rest, above, .directory entries =>
    if name = "" ∨ name = "." then follow rest above (.directory entries)
    else if name = ".." then
      match above with
      | [] => follow rest [] (.directory entries)
      | parent :: above => follow rest above parent
    else if maxName < name.utf8ByteSize then .error .nameTooLong
    else match child? entries name with
      | some tree => follow rest (.directory entries :: above) tree
      | none => .error .notFound

/-- Adds an entry to those of a directory, in the order of their names. -/
def insertEntry (name : String) (tree : FileTree) :
    List (String × FileTree) → List (String × FileTree)
  | [] => [(name, tree)]
  | (n, t) :: rest =>
    if name < n then (name, tree) :: (n, t) :: rest
    else if name = n then (name, tree) :: rest
    else (n, t) :: insertEntry name tree rest

/-- Puts a file or directory at the path with the given components, and makes the directories above
it. -/
def insert (leaf : FileTree) : List String → FileTree → FileTree
  | [], tree =>
    match leaf, tree with
    | .directory [], .directory entries => .directory entries
    | leaf, _ => leaf
  | name :: rest, tree =>
    let entries := match tree with
      | .directory entries => entries
      | .file _ => []
    let below := (child? entries name).getD (.directory [])
    .directory (insertEntry name (insert leaf rest below) entries)

/-- The tree of the given files and directories, each at its path. -/
def ofEntries (entries : List (String × FileTree)) : FileTree :=
  entries.foldl (fun tree (path, leaf) => insert leaf (Path.components path) tree)
    (.directory [])

/-- The text of a file. -/
def read : FileTree → Except FileError String
  | .file content =>
    match Bytes.toString? content with
    | some text => .ok text
    | none => .error .notText
  | .directory _ => .error .isDirectory

/-- Puts a name among names that are in order. -/
def insertName (name : String) : List String → List String
  | [] => [name]
  | n :: rest => if name < n then name :: n :: rest else n :: insertName name rest

/-- The names of the entries of a directory, in order. -/
def list : FileTree → Except FileError (List String)
  | .file _ => .error .notDirectory
  | .directory entries => .ok ((entries.map Prod.fst).foldr insertName [])

/-- The tree is a directory. -/
def isDirectory : FileTree → Bool
  | .file _ => false
  | .directory _ => true

end FileTree

/-- A file system. -/
structure Disk where
  /-- What is at the top. -/
  top : FileTree
  /-- The segments of the path of the working directory. -/
  here : List String := []
  deriving Inhabited, Repr

namespace Disk

/-- What is at a path. A path that does not start at the top starts at the working directory. -/
def find (disk : Disk) (path : String) : Except FileError FileTree :=
  if path.toList.any (fun c => c.toNat = 0) then .error .nulByte
  else if path.isEmpty then .error .notFound
  else if FileTree.maxPath < path.utf8ByteSize then .error .nameTooLong
  else
    let start := if Path.isAbsolute path then [] else disk.here
    FileTree.follow (start ++ Path.segments path) [] disk.top

/-- What is at a path given by a script, which may not lead out of the root. -/
def locate (disk : Disk) (root path : String) : Except FileError FileTree :=
  match Path.resolve? root path with
  | some path => disk.find path
  | none => .error (.outsideRoot (Path.stripHere path))

/-- The store of the scripts below a root directory. -/
def store (disk : Disk) (root : String) : ScriptStore where
  read path := disk.locate root path >>= FileTree.read
  list path := disk.locate root path >>= FileTree.list
  has path := (disk.locate root path).isOk
  isDirectory path := ((disk.locate root path).map FileTree.isDirectory).toOption.getD false

end Disk

end BracketScript
