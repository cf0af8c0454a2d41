import BracketScript.Json.Number

/-!
# JSON values

The values of JSON texts. The members of an object have distinct names and stand in the order of
their names.

## Main definitions

* `Json`: a JSON value
* `Json.insertMember`: adds a member to an object, in place of an earlier one of the same name
* `Json.member?`: the member of a given name
* `Json.equal`: equality of values, in which the two zeros are equal

## Main results

* `Json.member?_insertMember_self`, `Json.member?_insertMember_of_ne`: the member of a name after
  an insertion
-/

namespace BracketScript

/-- A JSON value. -/
inductive Json where
  | null
  | bool (b : Bool)
  | number (n : Number)
  | string (s : String)
  | array (items : List Json)
  | object (members : List (String × Json))
  deriving Inhabited, Repr

namespace Json

/-- Adds a member to the members of an object, which stand in the order of their names; a member of
the same name is replaced. -/
def insertMember (name : String) (value : Json) : List (String × Json) → List (String × Json)
  | [] => [(name, value)]
  | (n, v) :: rest =>
    if name < n then (name, value) :: (n, v) :: rest
    else if name = n then (name, value) :: rest
    else (n, v) :: insertMember name value rest

/-- The members of an object made of the given ones, added from first to last. -/
def ofMembers (members : List (String × Json)) : List (String × Json) :=
  members.foldl (fun object (name, value) => insertMember name value object) []

/-- The member of a given name. -/
def member? (members : List (String × Json)) (name : String) : Option Json :=
  (members.find? (fun m => m.1 == name)).map Prod.snd

mutual

/-- Equality of values: objects have the same members, and the two zeros are equal. -/
def equal : Json → Json → Bool
  | null, null => true
  | bool a, bool b => a == b
  | number a, number b => a.equal b
  | string a, string b => a == b
  | array as, array bs => equalItems as bs
  | object as, object bs => equalMembers as bs
  | _, _ => false

/-- Equality item by item. -/
def equalItems : List Json → List Json → Bool
  | [], [] => true
  | a :: as, b :: bs => equal a b && equalItems as bs
  | _, _ => false

/-- Equality member by member. -/
def equalMembers : List (String × Json) → List (String × Json) → Bool
  | [], [] => true
  | (n, a) :: as, (m, b) :: bs => n == m && equal a b && equalMembers as bs
  | _, _ => false

end

/-- The name just inserted names the value inserted. -/
theorem member?_insertMember_self (name : String) (value : Json)
    (members : List (String × Json)) :
    member? (insertMember name value members) name = some value := by
  induction members with
  | nil => simp [insertMember, member?]
  | cons m rest ih =>
    obtain ⟨n, v⟩ := m
    unfold insertMember
    split
    · simp [member?]
    · split
      · simp [member?]
      · rename_i h
        have : (n == name) = false := by simpa using fun e => h e.symm
        simpa [member?, this] using ih

/-- Other names keep their values. -/
theorem member?_insertMember_of_ne {name other : String} (value : Json)
    (members : List (String × Json)) (h : other ≠ name) :
    member? (insertMember name value members) other = member? members other := by
  have hn : (name == other) = false := by simpa using fun e => h e.symm
  induction members with
  | nil => simp [insertMember, member?, hn]
  | cons m rest ih =>
    obtain ⟨n, v⟩ := m
    unfold insertMember
    split
    · simp [member?, hn]
    · split
      · subst_vars
        simp [member?, hn]
      · by_cases hno : n = other
        · simp [member?, hno]
        · have : (n == other) = false := by simpa using hno
          simpa [member?, this] using ih

end Json

end BracketScript
