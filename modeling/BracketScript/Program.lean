import BracketScript.CommandLine
import BracketScript.Configuration
import BracketScript.Service.Basic

/-!
# The program

What the program prints and with which code it ends, given its arguments and what it finds around
it. It either runs scripts once and lists what failed and what passed, or serves requests.

## Main definitions

* `Machine`: what the program finds around it
* `Outcome`: what a run of the program prints, and its exit code
* `Program.configuration`: the settings after files, variables and options
* `Program.run`: the outcome of a run
-/

namespace BracketScript

/-- What the program finds around it. -/
structure Machine where
  /-- The files. -/
  disk : Disk
  /-- The values of the variables of the process. -/
  value? : String → Option String
  /-- What answers the requests of scripts. -/
  transport : Transport
  /-- Why the program cannot listen on an address that is well formed, if it cannot. -/
  refusal? : String → Option String

/-- What a run of the program prints, and its exit code. -/
structure Outcome where
  /-- The exit code. -/
  code : Nat
  /-- The lines of the standard output. -/
  output : List String := []
  /-- The lines of the error output. -/
  errors : List String := []
  deriving DecidableEq, Repr

/-- Lines as one text, each with its line feed. -/
def Outcome.text (lines : List String) : String :=
  Text.joinWith "" (lines.map (· ++ "\n"))

namespace Program

/-- A line about an error: the name of the program, and the error with what led to it. -/
def complaint (messages : List String) : String :=
  "dataapi: " ++ Text.joinWith ": " messages

/-- The settings after the configuration file, the variables and the options of a command line, or
the wordings of what went wrong. -/
def configuration (machine : Machine) (line : CommandLine) :
    Except (List String) Configuration :=
  let start : Except (List String) Configuration :=
    match line.config with
    | none => .ok {}
    | some path =>
      match Configuration.read machine.disk path with
      | .ok c => .ok c
      | .error e => .error (("loading configuration " ++ path) :: e.messages)
  start.bind fun c =>
    match c.override machine.value? with
    | (_, some fault) => .error ["applying environment overrides", fault.message]
    | (c, none) =>
      .ok { c with root := line.root.getD c.root, apiHost := line.apiHost.getD c.apiHost }

/-- What is wrong with the form of an address: it is a host and, after the last colon, a number of
16 bits. -/
def addressFault? (address : String) : Option String :=
  let pieces := Text.splitOn ":" address
  if pieces.length < 2 then some "invalid socket address"
  else match Text.Chars.readNat 0xffff ((pieces.getLast?.getD "").toList) with
    | .ok _ => none
    | .error _ => some "invalid port value"

/-- The lines that list results. -/
def listing (results : Results) : List String :=
  ["Failures:"] ++ results.failures.map ("  " ++ ·) ++
    ["Successes:"] ++ results.successes.map ("  " ++ ·)

/-- The outcome of what a command line asks for, with the given settings. -/
def perform (machine : Machine) (limit : Nat) (c : Configuration) :
    Command → Option Outcome
  | .run path =>
    let host : Host := ⟨machine.transport, machine.disk.store c.root⟩
    (Service.evaluate host limit path).map fun (results, _) =>
      { code := if results.failures.isEmpty then 0 else 1, output := listing results }
  | .serve =>
    match (addressFault? c.apiHost).orElse fun _ => machine.refusal? c.apiHost with
    | some reason => some { code := 1, errors := [complaint ["binding " ++ c.apiHost, reason]] }
    | none => some { code := 0 }

/-- The outcome of a run of the program with the given arguments. Evaluations that go on beyond
`limit` have none. -/
def run (machine : Machine) (limit : Nat) (arguments : List String) : Option Outcome :=
  match CommandLine.parse arguments with
  | .error e => some { code := 2, errors := complaint [e.message] :: CommandLine.usage }
  | .ok line =>
    match configuration machine line with
    | .error messages => some { code := 1, errors := [complaint messages] }
    | .ok c => perform machine limit c line.command

end Program

end BracketScript
