import BracketScript.Regex.Property.Age
import BracketScript.Regex.Property.Break

/-!
# Classes by character property

A pattern names the characters it asks for in one of two ways: by a property that characters have or
lack, a general category or a script, or by a property and a value of it.

## Main definitions

* `Property.Query`: the two ways
* `Property.Query.resolve`: the characters that are asked for
* `Property.wordChars`, `Property.digitChars`: the characters of words, and decimal digits
-/

namespace BracketScript.Regex.Property

/-- What a pattern asks for. -/
inductive Query where
  /-- The characters with a property, of a general category or of a script. -/
  | named (name : List Char)
  /-- The characters for which a property has a value. -/
  | valued (property value : List Char)
  deriving DecidableEq, Repr, Inhabited

/-- The query that is written between braces: a property and its value are divided by `!=`, a colon
or an equality sign, whichever of these is found, looked for in this order. The divider makes no
difference. -/
def Query.ofText (text : List Char) : Query :=
  let cut (divider : List Char) : Option (List Char × List Char) :=
    (List.range text.length).findSome? fun i =>
      if divider.isPrefixOf (text.drop i) then
        some (text.take i, text.drop (i + divider.length))
      else none
  match cut ['!', '='] <|> cut [':'] <|> cut ['='] with
  | some (property, value) => .valued property value
  | none => .named text

/-- The name stands for a property of the standard that is not one of those with values here. -/
def isOtherProperty (name : String) : Bool :=
  (propertyNamed? name).isSome || unsupportedProperties.contains name

/-- Three short names of general categories also belong to properties, which are not asked for by
them. -/
def categoryFirst : List String := ["cf", "sc", "lc"]

/-- The short and long names of the properties that have values here. -/
def valuedProperties : List String :=
  ["gc", "generalcategory", "sc", "script", "scx", "scriptextensions", "age",
    "gcb", "graphemeclusterbreak", "wb", "wordbreak", "sb", "sentencebreak"]

/-- A set that may be missing because a value is not known. -/
def orUnknownValue (s : Option CharSet) : Except FaultKind CharSet :=
  match s with
  | some s => .ok s
  | none => .error .propertyValueNotFound

/-- The characters of a property, a general category or a script. -/
def resolveNamed (name : String) : Except FaultKind CharSet :=
  let known := isOtherProperty name || valuedProperties.contains name
  if known && !categoryFirst.contains name then
    match propertyNamed? name with
    | some s => .ok s
    | none => .error .propertyNotFound
  else match categoryNamed? name <|> scriptNamed? name with
    | some result => result
    | none => .error .propertyNotFound

/-- The characters for which a property has a value. -/
def resolveValued (property value : String) : Except FaultKind CharSet :=
  match property with
  | "gc" | "generalcategory" => (categoryNamed? value).getD (.error .propertyValueNotFound)
  | "sc" | "script" => (scriptNamed? value).getD (.error .propertyValueNotFound)
  | "scx" | "scriptextensions" =>
    (extendedScriptNamed? value).getD (.error .propertyValueNotFound)
  | "age" => orUnknownValue (ageNamed? value)
  | "gcb" | "graphemeclusterbreak" => orUnknownValue (graphemeBreakNamed? value)
  | "wb" | "wordbreak" => orUnknownValue (wordBreakNamed? value)
  | "sb" | "sentencebreak" => orUnknownValue (sentenceBreakNamed? value)
  | _ =>
    if isOtherProperty property then .error .propertyValueNotFound else .error .propertyNotFound

/-- The characters that are asked for. -/
def Query.resolve : Query → Except FaultKind CharSet
  | named name => resolveNamed (looseName name)
  | valued property value => resolveValued (looseName property) (looseName value)

/-- The characters of words: of alphabets, marks, decimal digits, connectors and joiners. -/
def wordChars : CharSet :=
  .unionAll [alphabetic, category ["mn", "mc", "me", "nd", "pc"], joinControl]

/-- The decimal digits of all scripts. -/
def digitChars : CharSet := category ["nd"]

end BracketScript.Regex.Property
