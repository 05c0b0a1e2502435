import CatalogSearch.Text.CodeRange

/-!
# White space

The characters with the Unicode property White_Space, and what depends on them: trimming a text,
asking whether it is blank, and cutting a text into runs of wanted characters.
-/

set_option autoImplicit false

namespace CatalogSearch.Text

/-- Code points with the property White_Space, as sorted disjoint ranges. -/
def blankRanges : List CodeRange :=
  [
    (0x9, 0xD), (0x20, 0x20), (0x85, 0x85), (0xA0, 0xA0), (0x1680, 0x1680), (0x2000, 0x200A),
    (0x2028, 0x2029), (0x202F, 0x202F), (0x205F, 0x205F), (0x3000, 0x3000)
  ]

/-- Whether a character is white space. -/
def isBlank (c : Char) : Bool := CodeRange.contains blankRanges c.toNat

/-- Characters without the white space in front. -/
def trimStartChars (cs : List Char) : List Char := cs.dropWhile isBlank

/-- Characters without the white space at both ends. -/
def trimChars (cs : List Char) : List Char :=
  (trimStartChars (trimStartChars cs).reverse).reverse

/-- A text without the white space at both ends. -/
def trim (s : String) : String := String.ofList (trimChars s.toList)

/-- Whether a text holds nothing but white space. -/
def isBlankText (s : String) : Bool := s.toList.all isBlank

/-- The text, unless there is none or it is blank. -/
def nonBlank? (s : Option String) : Option String := s.filter (fun t => !isBlankText t)

/-- The maximal runs of kept characters; `run` holds the run read so far, last character first. -/
def runsFrom (keep : Char → Bool) (run : List Char) : List Char → List (List Char)
  | [] => if run.isEmpty then [] else [run.reverse]
  | c :: rest =>
    if keep c then runsFrom keep (c :: run) rest
    else if run.isEmpty then runsFrom keep [] rest
    else run.reverse :: runsFrom keep [] rest

/-- The maximal runs of kept characters, in order. -/
def runs (keep : Char → Bool) (cs : List Char) : List (List Char) := runsFrom keep [] cs

/-- The words of a text: its maximal runs without white space. -/
def words (s : String) : List String :=
  (runs (fun c => !isBlank c) s.toList).map String.ofList

end CatalogSearch.Text
