/-!
# TOML documents

A TOML document is a table: names with values, some of which are tables themselves. It is written as
a row of statements that each add to what the ones before them have built. A table may be written
once only: under a header, in braces, or by keys with dots. A table that only lies on the way to
another one may still get a header.

## Main definitions

* `Toml`: a value of a document
* `Toml.Origin`: how a table was written
* `Toml.Statement`: a header or an assignment
* `Toml.alter?`: a change of the table at the end of a path
* `Toml.ofStatements?`: the entries of a document
-/

namespace BracketScript

/-- How a table was written. -/
inductive Toml.Origin where
  /-- Under a header of its own; the document is such a table. -/
  | header
  /-- Not at all: it lies on the way to a table with a header. -/
  | passed
  /-- By keys with dots. -/
  | dotted
  /-- In braces. Nothing can be added to it later. -/
  | braces
  deriving DecidableEq, Repr

/-- A value of a document. -/
inductive Toml where
  | string (text : String)
  | integer (n : Int)
  /-- A number with a fraction or an exponent, infinity or no number, as it is written. -/
  | real (text : String)
  | boolean (b : Bool)
  /-- A date, a time or both, as it is written. -/
  | moment (text : String)
  | array (items : List Toml)
  | table (origin : Toml.Origin) (entries : List (String × Toml))
  /-- A row of tables under headers in double brackets. -/
  | tables (rows : List (List (String × Toml)))
  deriving Inhabited, Repr

namespace Toml

/-- The entries of a table. -/
abbrev Entries := List (String × Toml)

/-- The value with a given key. -/
def Entries.get? (entries : Entries) (key : String) : Option Toml :=
  (entries.find? fun e => e.1 == key).map Prod.snd

/-- The entries with a value at a key, in place of the one that was there. -/
def Entries.put (key : String) (value : Toml) : Entries → Entries
  | [] => [(key, value)]
  | (k, v) :: rest => if k = key then (key, value) :: rest else (k, v) :: Entries.put key value rest

/-- What is at a key of the entries with a value at a key. -/
theorem Entries.get?_put (key other : String) (value : Toml) (entries : Entries) :
    (Entries.put key value entries).get? other =
      if key = other then some value else entries.get? other := by
  induction entries with
  | nil => by_cases h : key = other <;> simp [Entries.put, Entries.get?, h]
  | cons e rest ih =>
    obtain ⟨k, v⟩ := e
    by_cases hk : k = key
    · subst hk
      by_cases h : k = other <;> simp [Entries.put, Entries.get?, h]
    · by_cases ho : k = other
      · subst ho
        simp [Entries.put, Entries.get?, hk, Ne.symm hk]
      · simp only [Entries.get?] at ih
        simp [Entries.put, Entries.get?, hk, ho, ih]

/-- One statement of a document. -/
inductive Statement where
  /-- A header: the table at the end of the path follows. -/
  | header (path : List String) (key : String)
  /-- A header in double brackets: one more table of a row follows. -/
  | row (path : List String) (key : String)
  /-- A key, the path to it from the table at hand, and its value. -/
  | assign (path : List String) (key : String) (value : Toml)
  deriving Inhabited, Repr

/-- Changes the table at the end of a path by `f`, which is told how that table was written. Tables
that are missing on the way are made as `origin`. The way leads through the last table of a row, and
not through values; keys with dots cannot lead through a table that has a header. -/
def alter? (origin : Origin) (f : Origin → Entries → Option Entries) :
    List String → Origin → Entries → Option Entries
  | [], own, entries => f own entries
  | key :: path, _, entries =>
    match entries.get? key with
    | none => (alter? origin f path origin []).map fun sub => entries.put key (table origin sub)
    | some (table own sub) =>
      if own = .braces ∨ (origin = .dotted ∧ own = .header) then none
      else (alter? origin f path own sub).map fun sub => entries.put key (table own sub)
    | some (tables rows) =>
      match rows.getLast? with
      | none => none
      | some row =>
        (alter? origin f path .header row).map fun row =>
          entries.put key (tables (rows.dropLast ++ [row]))
    | some _ => none

/-- Adds a key that is not there yet. A table that was written by keys with dots takes further keys
in that form only, and no other table does. -/
def addKey? (dots : Bool) (key : String) (value : Toml) (own : Origin) (entries : Entries) :
    Option Entries :=
  if decide (own = .dotted) = dots ∧ (entries.get? key).isNone then
    some (entries.put key value)
  else none

/-- Adds what an assignment says to the entries of a table. -/
def assign? (path : List String) (key : String) (value : Toml) (own : Origin) (entries : Entries) :
    Option Entries :=
  alter? .dotted (addKey? (!path.isEmpty) key value) path own entries

/-- Gives a header to a table that has not been written yet. -/
def addHeader? (key : String) (_ : Origin) (entries : Entries) : Option Entries :=
  match entries.get? key with
  | none => some (entries.put key (table .header []))
  | some (table .passed sub) => some (entries.put key (table .header sub))
  | some _ => none

/-- Adds a table to a row of tables. -/
def addRow? (key : String) (_ : Origin) (entries : Entries) : Option Entries :=
  match entries.get? key with
  | none => some (entries.put key (tables [[]]))
  | some (tables rows) => some (entries.put key (tables (rows ++ [[]])))
  | some _ => none

/-- The document after the given statements, of which the first ones add to the table at the path
`current`. -/
def build? : List String → Entries → List Statement → Option Entries
  | _, document, [] => some document
  | current, document, .assign path key value :: rest =>
    match alter? .passed (assign? path key value) current .header document with
    | some document => build? current document rest
    | none => none
  | _, document, .header path key :: rest =>
    match alter? .passed (addHeader? key) path .header document with
    | some document => build? (path ++ [key]) document rest
    | none => none
  | _, document, .row path key :: rest =>
    match alter? .passed (addRow? key) path .header document with
    | some document => build? (path ++ [key]) document rest
    | none => none

/-- The entries of the document with the given statements, if they fit together. -/
def ofStatements? (statements : List Statement) : Option Entries :=
  build? [] [] statements

/-- The table in braces with the given assignments, if they fit together. -/
def ofAssignments? (assignments : List (List String × String × Toml)) : Option Toml :=
  (assignments.foldlM (fun entries (path, key, value) => assign? path key value .header entries)
    ([] : Entries)).map (table .braces)

end Toml

end BracketScript
