import CatalogSearch.Catalog.Schema

/-!
# The schemas of a marketplace catalog

Parts, equipment, companies, listings and services share the fields that say whether a record is
listed; all but companies are priced, and listings and services may keep their price to themselves.
-/

set_option autoImplicit false

namespace CatalogSearch

/-- The field of a price. -/
def priceField : String := "price"

/-- The field of the bucket that a price falls into. -/
def priceBucketField : String := "price_bucket"

/-- The field that says whether a price is kept from those who may not read confidential fields. -/
def priceRestrictedField : String := "price_restricted"

/-- The field shown in place of a price that is kept back. -/
def priceDisplayField : String := "price_display"

namespace SchemaRegistry

open FieldSpec

/-- The lower bounds of the price buckets. -/
def priceBounds : List Float := [0, 50, 100, 500, 1000, 5000]

/-- The states a record goes through. -/
def statuses : List String := ["draft", "pending", "approved", "rejected", "archived"]

/-- The fields that say whether a record is listed. -/
def listingState : List FieldSpec :=
  [keyword "visibility", (keyword "status").asFacet (.values statuses), keyword "company_status"]

/-- The fields of a price. -/
def pricing : List FieldSpec :=
  [number priceField, (keyword priceBucketField).asFacet (.buckets priceField priceBounds),
    (keyword "currency").asFacet .anything]

/-- The schema of parts. -/
def partSchema : EntitySchema :=
  ⟨.part, ["name", "part_number"],
    [text "name", (keyword "part_number").asSearchable, (keyword "manufacturer_code").asSearchable,
      ((keyword "manufacturer").asSearchable).asFacet .anything, keyword "manufacturer_id",
      (keyword "category").asFacet .anything] ++ listingState ++ pricing ++
    [(number "stock").asSensitive, number "rating", (text "internal_notes").asSensitive]⟩

/-- The schema of equipment. -/
def equipmentSchema : EntitySchema :=
  ⟨.equipment, ["model", "name"],
    [text "name", (keyword "model").asSearchable, (keyword "series").asSearchable,
      ((keyword "manufacturer").asSearchable).asFacet .anything, keyword "manufacturer_id",
      (keyword "category").asFacet .anything] ++ listingState ++ pricing ++
    [number "rating", number "eta", (text "internal_notes").asSensitive]⟩

/-- The schema of companies. -/
def companySchema : EntitySchema :=
  ⟨.company, ["name"],
    [text "name", (keyword "subdomain").asSearchable] ++ listingState ++
    [number "rating", (keyword "email").asSensitive, (keyword "phone").asSensitive,
      (text "internal_notes").asSensitive]⟩

/-- The schema of listings. -/
def listingSchema : EntitySchema :=
  ⟨.listing, ["title", "name"],
    [text "title", text "name", (keyword "sku").asSearchable,
      ((keyword "brand").asSearchable).asFacet .anything, (keyword "category").asFacet .anything,
      keyword "supplier_id"] ++ listingState ++ pricing ++
    [boolean priceRestrictedField, (number "stock").asSensitive, number "rating", number "eta",
      (text "internal_notes").asSensitive]⟩

/-- The schema of services. -/
def serviceSchema : EntitySchema :=
  ⟨.service, ["title", "name"],
    [text "title", text "name", ((keyword "category").asSearchable).asFacet .anything,
      keyword "supplier_id"] ++ listingState ++ pricing ++
    [boolean priceRestrictedField, number "rating", number "eta",
      (text "internal_notes").asSensitive]⟩

/-- The schemas of a marketplace catalog. -/
def standard : SchemaRegistry :=
  ofList [partSchema, equipmentSchema, companySchema, listingSchema, serviceSchema]

instance : Inhabited SchemaRegistry := ⟨standard⟩

end SchemaRegistry

end CatalogSearch
