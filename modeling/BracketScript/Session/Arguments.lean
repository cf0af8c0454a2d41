import BracketScript.Brackets
import BracketScript.Json.Parser
import BracketScript.Session.Basic

/-!
# Arguments of built-ins

A built-in gets the text of its arguments and decides which of them to evaluate, how often and to
what type. Lists in arguments have `___` between their elements.

## Main definitions

* `exactlyOne`, `exactlyTwo`, `exactlyThree`, `exactlyFour`: the arguments, if there are that many
* `bareName`: an argument that is taken as it is written
* `jsonObject`: an argument that is a JSON object
* `headersOf`, `headerSetsOf`: arguments that are header fields
* `responseElements`: the elements of the last response
* `callText`: evaluated arguments as argument text
-/

namespace BracketScript

/-- What separates the elements of a list in an argument. -/
def listSeparator : String := "___"

/-- The only argument of a call. -/
def exactlyOne (name : String) (raw : String) : Except ScriptError String :=
  match Brackets.arguments raw with
  | [a] => .ok a
  | arguments => .error (.arity name "1" arguments.length)

/-- The two arguments of a call. -/
def exactlyTwo (name : String) (raw : String) : Except ScriptError (String × String) :=
  match Brackets.arguments raw with
  | [a, b] => .ok (a, b)
  | arguments => .error (.arity name "2" arguments.length)

/-- The three arguments of a call. -/
def exactlyThree (name : String) (raw : String) : Except ScriptError (String × String × String) :=
  match Brackets.arguments raw with
  | [a, b, c] => .ok (a, b, c)
  | arguments => .error (.arity name "3" arguments.length)

/-- The four arguments of a call. -/
def exactlyFour (name : String) (raw : String) :
    Except ScriptError (String × String × String × String) :=
  match Brackets.arguments raw with
  | [a, b, c, d] => .ok (a, b, c, d)
  | arguments => .error (.arity name "4" arguments.length)

/-- Characters without one pair of quotes around them. -/
def unquoteChars : List Char → List Char
  | '"' :: c :: cs =>
    if (c :: cs).getLast? = some '"' then (c :: cs).dropLast else '"' :: c :: cs
  | cs => cs

/-- An argument that is taken as it is written: without the white space around it and then without
one pair of quotes. -/
def bareName (raw : String) : String :=
  String.ofList (unquoteChars (Text.Chars.trim raw.toList))

/-- Characters with each backslash before a quote dropped. -/
def unescapeQuotes : List Char → List Char
  | [] => []
  | '\\' :: '"' :: cs => '"' :: unescapeQuotes cs
  | c :: cs => c :: unescapeQuotes cs

/-- An argument that is a JSON object, in which quotes may be escaped. -/
def jsonObject (text : String) : Except ScriptError Json :=
  match Json.parse (String.ofList (unescapeQuotes text.toList)) with
  | .ok (.object members) => .ok (.object members)
  | .ok other => .error (.invalidJson ("expected a JSON object but got " ++ other.compact))
  | .error report => .error (.invalidJson report)

/-- Header fields, each a name and a value with `pair` between them, with `separator` between the
fields. Empty fields are skipped, and a later field replaces an earlier one of the same name. -/
def headersOf (separator pair format : String) (text : String) : Except ScriptError Headers :=
  ((Text.splitOn separator text).filter fun entry => !entry.isEmpty).foldlM
    (fun headers entry =>
      match Text.splitOn pair entry with
      | [name, value] => .ok (Headers.insert name value headers)
      | _ => .error (.invalidHeader format))
    []

/-- The header fields of a single request. -/
def singleHeaders : String → Except ScriptError Headers :=
  headersOf "," "___" "key___value"

/-- The header fields of each of several requests; none at all if the text is empty. -/
def headerSetsOf (text : String) : Except ScriptError (List Headers) :=
  if text.isEmpty then .ok []
  else (Text.splitOn listSeparator text).mapM (headersOf "---" ":::" "key:::value")

/-- An element of a response as text: a string as it is, anything else as compact JSON. -/
def elementText : Json → String
  | .string s => s
  | other => other.compact

/-- The elements of a stored response: those of a JSON array, or the response as a single element.
An empty response has no elements. -/
def responseElements (env : Environment) : Except ScriptError (List String) :=
  match env.response? with
  | none => .error (.response ("no response is stored under \"" ++ responseName ++ "\""))
  | some stored =>
    let raw := match stored with
      | .str s => Text.trim s
      | other => other.display
    if raw.isEmpty then .ok []
    else match Json.parse raw with
      | .ok (.array items) => .ok (items.map elementText)
      | _ => .ok [raw]

/-- A list of texts in brackets. -/
def showList (items : List String) : String :=
  "[" ++ Text.joinWith ", " items ++ "]"

/-- The literal for an evaluated argument, if it has one: texts that would be cut or nested have
none. -/
def literal? : Value → Option String
  | .int n => some (Value.intText n)
  | .bool b => some (Value.boolText b)
  | .str s =>
    if s.toList.any (fun c => c == ',' || c == '[' || c == ']') then none
    else some (Token.quote s)
  | _ => none

/-- The argument texts for evaluated arguments, the first with the given index, and the environment
in which those without a literal have been put under names of their own. -/
def callTexts (env : Environment) : Nat → List Value → List String × Environment
  | _, [] => ([], env)
  | index, v :: vs =>
    match literal? v with
    | some text =>
      let (texts, env) := callTexts env (index + 1) vs
      (text :: texts, env)
    | none =>
      let (texts, env) := callTexts (env.set (argumentName index) v) (index + 1) vs
      (argumentName index :: texts, env)

/-- The argument text for evaluated arguments. -/
def callText (env : Environment) (values : List Value) : String × Environment :=
  let (texts, env) := callTexts env 0 values
  (Text.joinWith ", " texts, env)

end BracketScript
