import CatalogSearch.Catalog.Schema
import CatalogSearch.Json.Printer
import CatalogSearch.Proofs.Text.Blank

/-!
# Printed numbers

Numbers are printed in digits, signs and a few letters.  None of these is white space, so the text of a
number, the label of a bucket and the name of a truth value stay as they are when they are trimmed.
-/

set_option autoImplicit false

namespace CatalogSearch

open CatalogSearch.Text

namespace Number

theorem solid_positional (d : Decimal) : Solid (positional d) := by
  have hdigits : Solid (digitsText d.digits) := solid_toDigits d.digits
  have hzeros : ∀ n, Solid (List.replicate n '0') := solid_replicate (by decide)
  unfold positional
  dsimp only
  split
  · exact hdigits.append (hzeros _)
  · split
    · exact (hdigits.take _).append ((hdigits.drop _).cons (by decide))
    · exact (((hzeros _).append hdigits).cons (by decide)).cons (by decide)

theorem solid_render (layout : DataLayout) (d : Decimal) : Solid (layout.render d) := by
  have hdigits : Solid (digitsText d.digits) := solid_toDigits d.digits
  unfold DataLayout.render
  dsimp only
  split
  · split
    · exact (solid_positional d).append (by decide)
    · exact solid_positional d
  · refine Solid.append (Solid.append (Solid.append (hdigits.take 1) ?_) ?_) (solid_toDigits _)
    · split
      · decide
      · exact (hdigits.drop 1).cons (by decide)
    · split
      · decide
      · decide

theorem solid_textWith {layout : Decimal → List Char} (hlayout : ∀ d, Solid (layout d)) (x : Float) :
    Solid (textWith layout x).toList := by
  unfold textWith
  split
  · decide
  · split
    · decide
    · decide
  · rw [String.toList_ofList]
    refine Solid.append ?_ (hlayout _)
    split
    · decide
    · decide

end Number

namespace FieldValue

theorem solid_intText (n : Int) : Solid (intText n).toList := by
  rw [intText, String.toList_ofList]
  refine Solid.append ?_ (solid_toDigits _)
  split
  · decide
  · decide

theorem solid_boolText (b : Bool) : Solid (boolText b).toList := by
  cases b with
  | true => decide
  | false => decide

end FieldValue

theorem Json.Number.solid_render (n : Json.Number) : Solid n.render.toList := by
  cases n with
  | integer n =>
    rw [render]
    split
    · rw [String.toList_ofList]
      exact (solid_toDigits _).cons (by decide)
    · rw [String.toList_ofList]
      exact solid_toDigits _
  | decimal x =>
    rw [render]
    split
    · exact CatalogSearch.Number.solid_textWith (CatalogSearch.Number.solid_render _) x
    · decide

theorem solid_boundText (bound : Float) : Solid (boundText bound).toList := by
  unfold boundText
  split
  · exact FieldValue.solid_intText _
  · exact Number.solid_textWith Number.solid_positional bound

theorem solid_bucketLabel (lower : Float) (upper : Option Float) :
    Solid (bucketLabel lower upper).toList := by
  cases upper with
  | none =>
    rw [bucketLabel, String.toList_append]
    exact (solid_boundText lower).append (by decide)
  | some upper =>
    rw [bucketLabel, String.toList_append, String.toList_append]
    exact ((solid_boundText lower).append (by decide)).append (solid_boundText upper)

theorem solid_of_mem_bucketLabels {bounds : List Float} {label : String}
    (h : label ∈ bucketLabels bounds) : Solid label.toList := by
  induction bounds with
  | nil => exact absurd h List.not_mem_nil
  | cons lower rest ih =>
    rw [bucketLabels, List.mem_cons] at h
    rcases h with rfl | h
    · exact solid_bucketLabel lower rest.head?
    · exact ih h

end CatalogSearch
