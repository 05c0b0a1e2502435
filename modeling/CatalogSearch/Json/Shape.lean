import CatalogSearch.Json.Basic

/-!
# Reading shapes out of JSON

A structure is read from an object member by member.  A member must be there, may be absent or null,
or has a default when absent; members that nobody asks for are ignored.
-/

set_option autoImplicit false

namespace CatalogSearch.Json

variable {α : Type}

/-- Whether the value is an object. -/
def isObject : Json → Bool
  | .object _ => true
  | _ => false

/-- A member that must be there. -/
def required (j : Json) (name : String) (read : Json → Option α) : Option α :=
  j.member? name >>= read

/-- A member that may be absent or null. -/
def optional (j : Json) (name : String) (read : Json → Option α) : Option (Option α) :=
  match j.member? name with
  | none | some .null => some none
  | some value => (read value).map some

/-- A member that has a default when absent. -/
def defaulted (j : Json) (name : String) (read : Json → Option α) (default : α) : Option α :=
  match j.member? name with
  | none => some default
  | some value => read value

/-- An array of items of one shape. -/
def listOf? (read : Json → Option α) (j : Json) : Option (List α) := j.items? >>= (·.mapM read)

/-- An object whose members have one shape, by name. -/
def tableOf? (read : Json → Option α) (j : Json) : Option (List (String × α)) :=
  j.members? >>= (·.mapM fun (name, value) => (read value).map fun v => (name, v))

/-- An array of texts. -/
def texts? (j : Json) : Option (List String) := j.listOf? text?

/-- A natural number within a bound. -/
def natWithin? (most : Nat) (j : Json) : Option Nat := j.nat?.filter (decide <| · ≤ most)

end CatalogSearch.Json
