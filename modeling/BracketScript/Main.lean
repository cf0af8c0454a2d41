import BracketScript.Exchange.Client
import BracketScript.Program

/-!
# Running the program

Reads what the program finds around it, and prints its outcome. No network can be reached from here:
requests of scripts fail, and so does listening on an address.

## Main definitions

* `Files.load`: the files that a command line is about
* `start`: runs the program
* `main`: the program
-/

namespace BracketScript

/-- The machine with the given files and values of variables, and no network: nobody accepts a
connection, and no address can be listened on. -/
def Machine.offline (disk : Disk) (values : List (String × String)) : Machine where
  disk
  value? name := (values.find? fun v => v.1 == name).map Prod.snd
  transport _ request := (Client.send [] request).1
  refusal? _ := some "Network is unreachable (os error 101)"

namespace Files

/-- The file or the directory at a path, with all that is in it. -/
partial def read (path : String) : IO FileTree := do
  let place ← IO.FS.realPath path
  if ← place.isDir then
    let children ← (← place.readDir).toList.mapM fun entry => do
      return (entry.fileName, ← read (path ++ "/" ++ entry.fileName))
    return children.foldl
      (fun tree (name, child) => FileTree.insert child [name] tree) (.directory [])
  else return .file (← IO.FS.readBinFile path).toList

/-- The disk with what is at a path added to it, if anything is there. -/
def add (disk : Disk) (path : String) : IO Disk := do
  try
    let tree ← read path
    let place := (← IO.FS.realPath path).toString
    return { disk with top := FileTree.insert tree (Path.components place) disk.top }
  catch _ => return disk

/-- The files that a command line is about: its configuration file, and the scripts. -/
def load (arguments : List String) (values : List (String × String)) : IO Disk := do
  let here := Path.components (← IO.FS.realPath ".").toString
  let disk : Disk := ⟨FileTree.insert (.directory []) here (.directory []), here⟩
  match CommandLine.parse arguments with
  | .error _ => return disk
  | .ok line =>
    let disk ← match line.config with
      | some path => add disk path
      | none => pure disk
    match Program.configuration (.offline disk values) line with
    | .error _ => return disk
    | .ok c => add disk c.root

end Files

/-- Runs the program with the given arguments and gives its exit code. -/
def start (arguments : List String) : IO UInt32 := do
  let values ← Override.all.filterMapM fun o => do
    return (← IO.getEnv o.name).map fun value => (o.name, value)
  let disk ← Files.load arguments values
  match Program.run (.offline disk values) 1000000000 arguments with
  | none => return 1
  | some outcome =>
    (← IO.getStdout).putStr (Outcome.text outcome.output)
    (← IO.getStderr).putStr (Outcome.text outcome.errors)
    return outcome.code.toUInt32

end BracketScript

/-- The program. -/
def main (arguments : List String) : IO UInt32 := BracketScript.start arguments
