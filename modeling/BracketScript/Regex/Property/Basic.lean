import BracketScript.Regex.CharSet
import BracketScript.Regex.Fault

/-!
# Tables of character properties

Patterns can ask for the characters with a property of the Unicode standard, of which they follow
edition 16. The tables give sets of characters by name.

## Main definitions

* `Property.Entry`: a set of characters and its names
* `Property.looseName`: what of a name counts
-/

namespace BracketScript.Regex.Property

/-- A set of characters and its names, as `looseName` gives them. -/
structure Entry where
  /-- The names, the short one first where there is one. -/
  names : List String
  /-- The boundaries of the set, written as the distances between them. -/
  gaps : String
  deriving Repr

/-- The set of characters. -/
def Entry.set (e : Entry) : CharSet := .ofGaps e.gaps

/-- The small letter of an ASCII capital. -/
def lowered (c : Char) : Char :=
  if 65 ≤ c.toNat && c.toNat ≤ 90 then Char.ofNat (c.toNat + 32) else c

/-- The characters of a name that count, in lower case: all ASCII characters but spaces, hyphens and
underscores. -/
def significant (cs : List Char) : List Char :=
  (cs.filter fun c => c.toNat < 128 && c != ' ' && c != '-' && c != '_').map lowered

/-- What of a name counts: case, spaces, hyphens, underscores and a leading "is" do not. The name of
one property is "is" and a single letter that is also the name of a category, and is left alone. -/
def looseName (name : List Char) : String :=
  match name with
  | i :: s :: rest =>
    if lowered i = 'i' ∧ lowered s = 's' then
      let rest := significant rest
      if rest = ['c'] then "isc" else String.ofList rest
    else String.ofList (significant name)
  | _ => String.ofList (significant name)

end BracketScript.Regex.Property
