/-!
# Built-ins

The functions that scripts can call, by name.

## Main definitions

* `Builtin`: a built-in
* `Builtin.name`: its name
* `Builtin.ofName?`: the built-in of a given name

## Main results

* `Builtin.ofName?_name`: a built-in is found by its name
-/

namespace BracketScript

/-- A function that scripts can call. -/
inductive Builtin where
  /-- Assigns a variable. -/
  | set
  /-- Evaluates a body if a condition holds. -/
  | cond
  /-- Evaluates a body as long as a condition holds. -/
  | loop
  /-- Requires two texts to be the same. -/
  | assertEquals
  /-- Requires one text to contain another. -/
  | assertContains
  /-- Requires two lists of texts to be the same. -/
  | assertLists
  /-- Requires the last response to be a success. -/
  | assertSuccess
  /-- Requires the last response to be a given failure. -/
  | assertFailure
  /-- Sends a request with a body. -/
  | post
  /-- Sends a request without a body. -/
  | get
  /-- Sends several requests at the same time. -/
  | parallelPost
  /-- Prints a line. -/
  | print
  /-- Reads a file into a variable. -/
  | readFile
  /-- A field of the last response, or a variable. -/
  | response
  /-- Waits. -/
  | sleep
  /-- Fails. -/
  | fail
  /-- Does nothing. -/
  | pass
  /-- Runs a script. -/
  | evaluate
  /-- The truth value of an expression. -/
  | truth
  deriving DecidableEq, Repr, Inhabited

namespace Builtin

/-- The name of a built-in. -/
def name : Builtin → String
  | set => "Set"
  | cond => "If"
  | loop => "For"
  | assertEquals => "AssertEquals"
  | assertContains => "AssertContains"
  | assertLists => "AssertStringArrEquals"
  | assertSuccess => "AssertSuccess"
  | assertFailure => "AssertFailure"
  | post => "Post"
  | get => "Get"
  | parallelPost => "ParallelPost"
  | print => "PrintF"
  | readFile => "ReadFile"
  | response => "Res"
  | sleep => "Sleep"
  | fail => "Fail"
  | pass => "Pass"
  | evaluate => "Evaluate"
  | truth => "Bool"

/-- All built-ins. -/
def all : List Builtin :=
  [set, cond, loop, assertEquals, assertContains, assertLists, assertSuccess, assertFailure, post,
    get, parallelPost, print, readFile, response, sleep, fail, pass, evaluate, truth]

/-- The built-in of a given name. -/
def ofName? (name : String) : Option Builtin := all.find? fun b => b.name == name

/-- A built-in is found by its name. -/
theorem ofName?_name (b : Builtin) : ofName? b.name = some b := by
  cases b <;> decide

end Builtin

end BracketScript
