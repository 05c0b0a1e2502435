import CatalogSearch.Text.Lowercase
import Std.Data.ExtTreeMap

/-!
# Entity types

The five kinds of record that a marketplace catalog holds, in the order in which results list them.
-/

set_option autoImplicit false

namespace CatalogSearch

open CatalogSearch.Text

/-- What a record describes. -/
inductive EntityType where
  | part
  | equipment
  | company
  | listing
  | service
  deriving DecidableEq, Repr, Inhabited

namespace EntityType

/-- Every entity type, in order. -/
def all : List EntityType := [.part, .equipment, .company, .listing, .service]

theorem mem_all (t : EntityType) : t ∈ all := by cases t <;> decide

/-- The name of a type in requests, data and keys. -/
def name : EntityType → String
  | .part => "part"
  | .equipment => "equipment"
  | .company => "company"
  | .listing => "listing"
  | .service => "service"

/-- The name of a type in prose. -/
def title : EntityType → String
  | .part => "Part"
  | .equipment => "Equipment"
  | .company => "Company"
  | .listing => "Listing"
  | .service => "Service"

/-- The resource whose permissions guard the confidential fields of a type.  Listings and services
share one. -/
def resource : EntityType → String
  | .part => "catalog"
  | .equipment => "equipment"
  | .company => "company"
  | .listing | .service => "marketplace"

/-- The type with exactly this name. -/
def ofName? (s : String) : Option EntityType := all.find? (fun t => t.name == s)

/-- The type with this name, in whatever ASCII case. -/
def parse? (s : String) : Option EntityType :=
  all.find? (fun t => equalIgnoringAsciiCase t.name s)

/-- The place of a type in the order. -/
def index : EntityType → Nat
  | .part => 0
  | .equipment => 1
  | .company => 2
  | .listing => 3
  | .service => 4

theorem index_inj {a b : EntityType} (h : a.index = b.index) : a = b := by
  cases a <;> cases b <;> first | rfl | cases h

instance : Ord EntityType := ⟨compareOn index⟩

instance : Std.TransOrd EntityType := inferInstanceAs (Std.TransCmp (compareOn index))

instance : Std.LawfulEqOrd EntityType where
  eq_of_compare {a b} h := index_inj (Std.LawfulEqOrd.eq_of_compare (a := a.index) (b := b.index) h)

end EntityType

end CatalogSearch
