import CatalogSearch.Number.Literal
import CatalogSearch.Text.Lowercase
import CatalogSearch.Time.Rfc3339

/-!
# Field values

A field of a document holds nothing, a truth value, a number, a text or an instant.  A value has a
discrete text under which facets count it, and is compared with what a filter asks for by its own
kind.
-/

set_option autoImplicit false

namespace CatalogSearch

open CatalogSearch.Text CatalogSearch.Time

/-- The value of a field. -/
inductive FieldValue where
  | null
  | bool (value : Bool)
  | number (value : Float)
  | text (value : String)
  | timestamp (value : Instant)
  deriving DecidableEq

namespace FieldValue

instance : Inhabited FieldValue := ⟨.null⟩

/-- The number held, if it is one. -/
def number? : FieldValue → Option Float
  | .number x => some x
  | _ => none

/-- The truth value held, if it is one. -/
def bool? : FieldValue → Option Bool
  | .bool b => some b
  | _ => none

/-- The text held, if it is one. -/
def text? : FieldValue → Option String
  | .text s => some s
  | _ => none

/-- Whether the field is there but holds nothing. -/
def isNull : FieldValue → Bool
  | .null => true
  | _ => false

/-- The text of a truth value. -/
def boolText (b : Bool) : String := if b then "true" else "false"

/-- The text of an integer. -/
def intText (n : Int) : String :=
  String.ofList ((if n < 0 then ['-'] else []) ++ Nat.toDigits 10 n.natAbs)

/-- The text of a number as a facet value: a whole number below a thousand million million loses its
sign when it is zero; any other is written in plain digits. -/
def numberText (x : Float) : String :=
  match Number.whole? x with
  | some n => if n.natAbs < 1000000000000000 then intText n else Number.plainText x
  | none => Number.plainText x

/-- The discrete text under which facets count a value.  A null and an empty text are not counted. -/
def facetValue? : FieldValue → Option String
  | .null => none
  | .bool b => some (boolText b)
  | .number x => some (numberText x)
  | .timestamp t => some t.text
  | .text s => if s.isEmpty then none else some s

/-- Whether a value is what a filter asks for, once the filter's text is trimmed: texts regardless of
ASCII case, truth values by name, numbers as close as they can be told apart at one, instants when
they are the same.  A null is never asked for. -/
def matchesFilter (v : FieldValue) (filter : String) : Bool :=
  let wanted := trim filter
  match v with
  | .null => false
  | .text s => equalIgnoringAsciiCase s wanted
  | .bool b => wanted == boolText b
  | .number x =>
    match Number.read? wanted with
    | some y => Number.close y x
    | none => false
  | .timestamp t => Instant.parse? wanted == some t

end FieldValue

end CatalogSearch
