import BracketScript.Regex.Footprint
import BracketScript.Regex.Meaning

/-!
# Searching texts for patterns

A pattern is given as text. It can be ill-formed, and it can be too large to be matched.

## Main definitions

* `Regex.Refusal`: why a pattern cannot be used
* `Regex.ofText`: the pattern that a text is
* `Regex.search`: whether a pattern, given as text, matches a text
-/

namespace BracketScript.Regex

/-- Why a pattern cannot be used. -/
inductive Refusal where
  /-- The pattern is ill-formed. -/
  | illFormed (fault : Fault)
  /-- The automaton of the pattern would be too large. -/
  | tooLarge
  deriving Repr

/-- The report on a pattern that cannot be used. -/
def Refusal.message (pattern : String) : Refusal → String
  | illFormed fault => fault.message pattern
  | tooLarge =>
    "Compiled regex exceeds size limit of " ++ Text.natText footprintLimit ++ " bytes."

/-- The pattern that a text is. -/
def ofText (pattern : String) : Except Refusal Regex :=
  match Pattern.parse pattern >>= Pattern.meaning with
  | .error fault => .error (.illFormed fault)
  | .ok r => if r.isTooLarge then .error .tooLarge else .ok r

/-- Whether a pattern matches a text, or the report of what is wrong with the pattern. -/
def search (pattern text : String) : Except String Bool :=
  match ofText pattern with
  | .ok r => .ok (r.isMatch text)
  | .error refusal => .error (refusal.message pattern)

end BracketScript.Regex
