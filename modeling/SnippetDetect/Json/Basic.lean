import SnippetDetect.Number

/-!
JSON values.

The members of an object are in the order in which their names were first written, and
no name stands twice: writing it again changes the value and keeps the place.
-/

namespace SnippetDetect

/-- A JSON value. Integers and double-precision numbers are told apart. -/
inductive Json where
  | null
  | bool (b : Bool)
  | num (n : Number)
  | str (s : String)
  | arr (items : List Json)
  | obj (members : List (String × Json))
  deriving Repr, Inhabited

/-- The members of an object, in order. -/
abbrev Members := List (String × Json)

/-- The entries of a list of pairs with one of them added or, in its place, replaced. -/
def setEntry {α : Type} (name : String) (value : α) : List (String × α) → List (String × α)
  | [] => [(name, value)]
  | (n, v) :: rest =>
      if n = name then (name, value) :: rest else (n, v) :: setEntry name value rest

/-- The value an entry has. -/
def valueOf? {α : Type} (entries : List (String × α)) (name : String) : Option α :=
  entries.lookup name

/-- The entries under any other name. -/
def eraseEntry {α : Type} (name : String) (entries : List (String × α)) : List (String × α) :=
  entries.filter fun (n, _) => n ≠ name

namespace Json

/-- The strings of a list that holds nothing else. -/
def strings? (items : List Json) : Option (List String) :=
  items.mapM fun
    | .str s => some s
    | _ => none

/-- The strings of a value that is a list of strings. -/
def stringList? : Json → Option (List String)
  | .arr items => strings? items
  | _ => none

/-- The number a value is; a truth value is none. -/
def number? : Json → Option Number
  | .num n => some n
  | _ => none

/-- The word for the kind of a value, as messages give it. -/
def kindName : Json → String
  | .null => "NoneType"
  | .bool _ => "bool"
  | .num (.int _) => "int"
  | .num (.float _) => "float"
  | .str _ => "str"
  | .arr _ => "list"
  | .obj _ => "dict"

def ofStrings (names : List String) : Json := .arr (names.map .str)

def ofNat (n : Nat) : Json := .num (.int n)

end Json

end SnippetDetect
