import BracketScript.Scripts.Store
import BracketScript.Text.Blank
import BracketScript.Text.Decimal
import BracketScript.Text.Quoted
import BracketScript.Toml.Parser

/-!
# The configuration of the service

Where the service listens, how long it waits, and where its scripts are. Each setting has a default,
which a configuration file, then a variable of the process and then the command line can override.

## Main definitions

* `Configuration`: the settings
* `Configuration.ofEntries?`: the settings that a TOML document gives
* `Configuration.read`: the settings that a file gives
* `Override`: a variable that overrides a setting
* `Configuration.override`: the settings overridden by variables
* `ConfigurationError`: why there are no settings
-/

namespace BracketScript

/-- The settings of the service. -/
structure Configuration where
  /-- The address to listen on. -/
  apiHost : String := "0.0.0.0:8082"
  /-- How many seconds a client may take to send a request. -/
  readTimeout : Nat := 5
  /-- How many seconds the requests at work get to finish when the service stops. -/
  shutdownTimeout : Nat := 5
  /-- The directory of the scripts. -/
  root : String := "configs/dataapi"
  deriving DecidableEq, Repr, Inhabited

/-- A variable whose value is not a number of seconds. -/
structure VariableFault where
  /-- The name of the variable. -/
  name : String
  /-- Its value. -/
  value : String
  /-- What is wrong with the value. -/
  reason : Text.DecimalFault
  deriving DecidableEq, Repr

/-- The wording of what is wrong with a variable. -/
def VariableFault.message (fault : VariableFault) : String :=
  fault.name ++ ": invalid value " ++ Text.quoted fault.value ++ ": " ++ fault.reason.message

/-- Why there are no settings. -/
inductive ConfigurationError where
  /-- The configuration file cannot be read. -/
  | read (path : String) (cause : FileError)
  /-- The configuration file is no TOML document, or gives a setting a value of the wrong kind. -/
  | parse
  deriving DecidableEq, Repr

/-- The wording of an error, and the wording of its cause. -/
def ConfigurationError.messages : ConfigurationError → List String
  | read path cause => ["reading " ++ path ++ ": " ++ cause.message, cause.message]
  | parse => ["parsing config: invalid document", "invalid document"]

namespace Toml

/-- The parts of a value that stands for a record: by name in a table, and by position in an array.
A date has none of the names. -/
def parts? : Toml → Option (String → Nat → Option Toml)
  | table _ entries => some fun name _ => Entries.get? entries name
  | array items => some fun _ position => items[position]?
  | tables rows => some fun _ position => rows[position]?.map (table .header)
  | moment _ => some fun _ _ => none
  | _ => none

/-- The text of a string. -/
def text? : Toml → Option String
  | string text => some text
  | _ => none

/-- A number of seconds. -/
def seconds? : Toml → Option Nat
  | integer n => if 0 ≤ n then some n.toNat else none
  | _ => none

end Toml

namespace Configuration

/-- The value that `read` gives to a part that is there, and a default for one that is not. -/
def partOr {α : Type} (default : α) (read : Toml → Option α) (part : Option Toml) : Option α :=
  match part with
  | none => some default
  | some value => read value

/-- The settings with those about the web replaced by what a value gives. -/
def withWeb? (c : Configuration) (web : Toml) : Option Configuration := do
  let part ← web.parts?
  let apiHost ← partOr c.apiHost Toml.text? (part "api_host" 0)
  let readTimeout ← partOr c.readTimeout Toml.seconds? (part "read_timeout_secs" 1)
  let shutdownTimeout ← partOr c.shutdownTimeout Toml.seconds? (part "shutdown_timeout_secs" 2)
  return { c with apiHost, readTimeout, shutdownTimeout }

/-- The settings with those about the scripts replaced by what a value gives. -/
def withScripts? (c : Configuration) (scripts : Toml) : Option Configuration := do
  let part ← scripts.parts?
  let root ← partOr c.root Toml.text? (part "root" 0)
  return { c with root }

/-- The settings that a TOML document gives. What it does not mention has its default, and what it
mentions beyond that does not matter. -/
def ofEntries? (entries : Toml.Entries) : Option Configuration := do
  let c ← partOr {} (withWeb? {}) (entries.get? "web")
  partOr c (withScripts? c) (entries.get? "scripts")

/-- The settings that the text of a configuration file gives. -/
def ofText (text : String) : Except ConfigurationError Configuration :=
  match (Toml.parse? text).bind ofEntries? with
  | some c => .ok c
  | none => .error .parse

/-- The settings that a configuration file gives. -/
def read (disk : Disk) (path : String) : Except ConfigurationError Configuration :=
  match disk.find path >>= FileTree.read with
  | .ok text => ofText text
  | .error cause => .error (.read path cause)

end Configuration

/-- A variable of the process that overrides a setting. -/
inductive Override where
  | apiHost
  | readTimeout
  | shutdownTimeout
  | root
  deriving DecidableEq, Repr

namespace Override

/-- The variables, in the order in which they are looked at. -/
def all : List Override := [apiHost, readTimeout, shutdownTimeout, root]

/-- The name of a variable. -/
def name : Override → String
  | apiHost => "DATA_API_WEB_API_HOST"
  | readTimeout => "DATA_API_WEB_READ_TIMEOUT"
  | shutdownTimeout => "DATA_API_WEB_SHUTDOWN_TIMEOUT"
  | root => "DATA_API_SCRIPTS_ROOT"

/-- The number of seconds that a variable gives; blanks around it do not matter. -/
def seconds (o : Override) (value : String) : Except VariableFault Nat :=
  match Text.readUInt64 (Text.trim value) with
  | .ok n => .ok n
  | .error reason => .error ⟨o.name, value, reason⟩

/-- The settings with the one that the variable stands for set to its value. -/
def apply (o : Override) (value : String) (c : Configuration) :
    Except VariableFault Configuration :=
  match o with
  | apiHost => .ok { c with apiHost := value }
  | readTimeout => (o.seconds value).map fun n => { c with readTimeout := n }
  | shutdownTimeout => (o.seconds value).map fun n => { c with shutdownTimeout := n }
  | root => .ok { c with root := value }

/-- The settings overridden by the variables that have a value, one after the other. At the first
wrong value it stops, with the settings overridden so far. -/
def applyAll (value? : String → Option String) :
    List Override → Configuration → Configuration × Option VariableFault
  | [], c => (c, none)
  | o :: rest, c =>
    match value? o.name with
    | none => applyAll value? rest c
    | some value =>
      match o.apply value c with
      | .ok c => applyAll value? rest c
      | .error fault => (c, some fault)

end Override

/-- The settings overridden by the variables of a process, and what is wrong with one of them. -/
def Configuration.override (c : Configuration) (value? : String → Option String) :
    Configuration × Option VariableFault :=
  Override.applyAll value? Override.all c

end BracketScript
