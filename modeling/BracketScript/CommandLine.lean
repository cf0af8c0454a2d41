import BracketScript.Text.Decimal

/-!
# Command lines

A command line is a row of arguments. Read from the left, it is a row of items: the debug flag,
options with their values, and operands. Several letters may share one dash, and the value of an
option is the rest of its argument or, when nothing is left of it, the next argument as it stands.
The options count wherever they are, the last of a kind wins, and the operands alone say what to do.

## Main definitions

* `Item`: a flag, an option with its value, or an operand
* `Item.readAll`: the items of a row of arguments
* `Command.ofOperands`: what the operands ask for
* `CommandLine.ofItems`: what a row of items comes to
* `CommandLine.parse`: what a row of arguments comes to
* `UsageError`: why a command line is refused
-/

namespace BracketScript

/-- An option that takes a value. -/
inductive Setting where
  /-- The configuration file. -/
  | config
  /-- The directory of the scripts. -/
  | root
  /-- The address to listen on. -/
  | apiHost
  deriving DecidableEq, Repr

namespace Setting

/-- The letter of an option. -/
def letter : Setting → Char
  | config => 'c'
  | root => 'r'
  | apiHost => 'a'

/-- The option with a given letter. -/
def ofLetter? (c : Char) : Option Setting :=
  [config, root, apiHost].find? fun s => s.letter == c

@[simp] theorem ofLetter?_letter (s : Setting) : ofLetter? s.letter = some s := by
  cases s <;> rfl

end Setting

/-- Why a command line is refused. -/
inductive UsageError where
  /-- The last argument is an option without its value. -/
  | missingValue (setting : Setting)
  | unknownOption (letter : Char)
  /-- A run was asked for without saying of what. -/
  | missingPath
  | unknownCommand (name : String)
  /-- There are operands that nothing asks for. -/
  | extraOperands (count : Nat)
  deriving DecidableEq, Repr

/-- The wording of a usage error. -/
def UsageError.message : UsageError → String
  | missingValue setting => "-" ++ setting.letter.toString ++ " requires an argument"
  | unknownOption letter => "unknown option: -" ++ letter.toString
  | missingPath => "run requires a script path"
  | unknownCommand name => "unknown command: " ++ name
  | extraOperands count => "too many arguments (" ++ Text.natText count ++ " extra)"

/-- One thing that a command line says. -/
inductive Item where
  /-- The flag that asks for more logging. -/
  | debug
  | option (setting : Setting) (value : String)
  | operand (text : String)
  deriving DecidableEq, Repr

namespace Item

/-- The letter of the debug flag. -/
def debugLetter : Char := 'd'

/-- The items of the letters that share a dash. The letters after an option are its value; an option
that comes last is left waiting for one. -/
def readLetters : List Char → Except UsageError (List Item × Option Setting)
  | [] => .ok ([], none)
  | c :: cs =>
    if c = debugLetter then
      (readLetters cs).map fun (items, waiting) => (debug :: items, waiting)
    else match Setting.ofLetter? c with
      | none => .error (.unknownOption c)
      | some setting =>
        if cs.isEmpty then .ok ([], some setting)
        else .ok ([option setting (String.ofList cs)], none)

/-- An argument that is a dash and letters: those letters. A dash alone is an operand. -/
def letters? (argument : String) : Option (List Char) :=
  match argument.toList with
  | '-' :: c :: cs => some (c :: cs)
  | _ => none

/-- The items of a row of arguments, the first of which may be awaited as the value of an option.
After `--` there are only operands. -/
def readFrom : Option Setting → List String → Except UsageError (List Item)
  | none, [] => .ok []
  | some setting, [] => .error (.missingValue setting)
  | some setting, value :: rest => (readFrom none rest).map (option setting value :: ·)
  | none, argument :: rest =>
    if argument = "--" then .ok (rest.map operand)
    else match letters? argument with
      | none => (readFrom none rest).map (operand argument :: ·)
      | some letters =>
        match readLetters letters with
        | .error e => .error e
        | .ok (items, waiting) => (readFrom waiting rest).map (items ++ ·)

/-- The items of a row of arguments. -/
def readAll (arguments : List String) : Except UsageError (List Item) :=
  readFrom none arguments

/-- The item as an operand. -/
def operand? : Item → Option String
  | operand text => some text
  | _ => none

/-- The value that the item gives to an option. -/
def value? (setting : Setting) : Item → Option String
  | option s value => if s = setting then some value else none
  | _ => none

end Item

/-- What the program is to do. -/
inductive Command where
  /-- Answer requests until told to stop. -/
  | serve
  /-- Run a script or a directory of scripts and tell what failed and what passed. -/
  | run (path : String)
  deriving DecidableEq, Repr

/-- What the operands ask for: to serve if there are none. -/
def Command.ofOperands : List String → Except UsageError Command
  | [] | ["serve"] => .ok .serve
  | ["run"] => .error .missingPath
  | ["run", path] => .ok (.run path)
  | "serve" :: rest => .error (.extraOperands rest.length)
  | "run" :: _ :: rest => .error (.extraOperands rest.length)
  | name :: _ => .error (.unknownCommand name)

/-- What a command line comes to. -/
structure CommandLine where
  /-- The configuration file. -/
  config : Option String
  /-- The directory of the scripts. -/
  root : Option String
  /-- The address to listen on. -/
  apiHost : Option String
  /-- More is logged. -/
  debug : Bool
  /-- What to do. -/
  command : Command
  deriving DecidableEq, Repr

namespace CommandLine

/-- The value that the items give to an option: the last one. -/
def lastValue? (items : List Item) (setting : Setting) : Option String :=
  (items.filterMap (Item.value? setting)).getLast?

/-- What a row of items comes to. -/
def ofItems (items : List Item) : Except UsageError CommandLine :=
  (Command.ofOperands (items.filterMap Item.operand?)).map fun command =>
    { config := lastValue? items .config
      root := lastValue? items .root
      apiHost := lastValue? items .apiHost
      debug := items.contains .debug
      command }

/-- What a row of arguments comes to. -/
def parse (arguments : List String) : Except UsageError CommandLine :=
  Item.readAll arguments >>= ofItems

/-- How the program is used. -/
def usage : List String :=
  ["Usage: dataapi [-c<config.toml>] [-r<script-root>] [-a<host:port>] [-d] [serve]",
   "       dataapi [-c<config.toml>] [-r<script-root>] [-d] run <file-or-dir>"]

end CommandLine

end BracketScript
