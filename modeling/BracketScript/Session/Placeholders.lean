/-!
# Placeholders in printed lines

A format has placeholders `%v`, `%s` and `%d`, which stand for the arguments in order, and `%%`,
which stands for a percent sign. A placeholder without an argument, and a percent sign before any
other character, stand for themselves.

## Main definitions

* `isVerb`: the letters of placeholders
* `fillChars`: the characters of a format with its placeholders filled
* `fill`: a format with its placeholders filled
-/

namespace BracketScript.Placeholders

/-- A letter that makes a placeholder after a percent sign. -/
def isVerb (c : Char) : Bool := c == 'v' || c == 's' || c == 'd'

/-- The characters of a format, with the arguments put in for its placeholders. -/
def fillChars : List (List Char) → List Char → List Char
  | _, [] => []
  | arguments, c :: cs =>
    if c ≠ '%' then c :: fillChars arguments cs
    else match cs with
      | [] => ['%']
      | verb :: rest =>
        if verb = '%' then '%' :: fillChars arguments rest
        else if isVerb verb then
          match arguments with
          | [] => '%' :: verb :: fillChars [] rest
          | argument :: others => argument ++ fillChars others rest
        else '%' :: fillChars arguments (verb :: rest)

/-- A format with the arguments put in for its placeholders. -/
def fill (format : String) (arguments : List String) : String :=
  String.ofList (fillChars (arguments.map String.toList) format.toList)

end BracketScript.Placeholders
