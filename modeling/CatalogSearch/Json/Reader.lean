import CatalogSearch.Json.Basic
import CatalogSearch.Number.Integer

/-!
# Reading JSON

A strict reader of RFC 8259 text.  Numbers are read the quick way: the first digits that fit in 64
bits, times or divided by a power of ten, so that a number of many digits may come out one unit off
the nearest; a number too large for binary is refused.  So are values nested too deeply and escapes
of half a surrogate pair.
-/

set_option autoImplicit false

namespace CatalogSearch.Json

/-! ## Numbers -/

/-- The value of an ASCII digit. -/
def digitValue (c : Char) : Nat := c.toNat - '0'.toNat

/-- A significand extended by digits as long as it fits; what is left over starts with the first
digit that does not fit. -/
def takeSignificand (significand : Nat) : List Char → Nat × List Char
  | [] => (significand, [])
  | c :: rest =>
    let next := significand * 10 + digitValue c
    if next ≤ Number.nat64Most then takeSignificand next rest else (significand, c :: rest)

/-- The significand moved by a power of ten in binary arithmetic: one multiplication, or divisions by
at most `10 ^ 308` at a time; none if the result is too large.  Four divisions leave nothing of any
significand. -/
def moveByTen (f : Float) (power : Int) : Nat → Option Float
  | 0 => some f
  | steps + 1 =>
    if power.natAbs ≤ 308 then
      let unit := Float.ofScientific 1 false power.natAbs
      if 0 ≤ power then
        let product := f * unit
        if product.isInf then none else some product
      else some (f / unit)
    else if f == 0 then some f
    else if 0 ≤ power then none
    else moveByTen (f / Float.ofScientific 1 false 308) (power + 308) steps

/-- A number with a point or an exponent. -/
def decimalNumber (negative : Bool) (significand : Nat) (power : Int) : Option Number :=
  (moveByTen (Float.ofScientific significand false 0) power 5).map fun size =>
    .decimal (if negative then -size else size)

/-- The exponent at the front, if there is one: its value and the rest.  An exponent mark must be
followed by digits. -/
def readPower : List Char → Option (Option Int × List Char)
  | [] => some (none, [])
  | c :: rest =>
    if c = 'e' || c = 'E' then
      let (negative, rest) :=
        match rest with
        | '+' :: rest => (false, rest)
        | '-' :: rest => (true, rest)
        | rest => (false, rest)
      let digits := rest.takeWhile Char.isDigit
      if digits.isEmpty then none
      else
        let size : Int := digits.foldl (fun n d => n * 10 + (digitValue d : Int)) 0
        some (some (if negative then -size else size), rest.dropWhile Char.isDigit)
    else some (none, c :: rest)

/-- A number without its sign.  Digits that do not fit the significand move the point if they stand
before it and are dropped if they stand after it. -/
def readSize (negative : Bool) (cs : List Char) : Option (Number × List Char) := do
  let whole := cs.takeWhile Char.isDigit
  let rest := cs.dropWhile Char.isDigit
  if whole.isEmpty || (whole.length > 1 && whole.head? == some '0') then none
  let (significand, excess) := takeSignificand 0 whole
  match rest with
  | '.' :: rest =>
    let places := rest.takeWhile Char.isDigit
    if places.isEmpty then none
    let (extended, dropped) := takeSignificand significand places
    let power : Int := (excess.length : Int) - ((places.length - dropped.length : Nat) : Int)
    let (more, rest) ← readPower (rest.dropWhile Char.isDigit)
    let n ← decimalNumber negative extended (power + more.getD 0)
    some (n, rest)
  | rest =>
    let (more, rest) ← readPower rest
    if more.isNone && excess.isEmpty then
      if negative && (significand = 0 || significand > Number.int64Least.natAbs) then
        some (.decimal (-(Float.ofScientific significand false 0)), rest)
      else some (.integer (if negative then -(significand : Int) else significand), rest)
    else
      let n ← decimalNumber negative significand ((excess.length : Int) + more.getD 0)
      some (n, rest)

/-- A number. -/
def readNumber : List Char → Option (Number × List Char)
  | '-' :: rest => readSize true rest
  | cs => readSize false cs

/-! ## Strings -/

/-- The value of a hexadecimal digit. -/
def hexValue? (c : Char) : Option Nat :=
  if c.isDigit then some (c.toNat - '0'.toNat)
  else if 'a' ≤ c ∧ c ≤ 'f' then some (c.toNat - 'a'.toNat + 10)
  else if 'A' ≤ c ∧ c ≤ 'F' then some (c.toNat - 'A'.toNat + 10)
  else none

/-- The code unit of four hexadecimal digits. -/
def readUnit : List Char → Option (Nat × List Char)
  | a :: b :: c :: d :: rest => do
    let a ← hexValue? a
    let b ← hexValue? b
    let c ← hexValue? c
    let d ← hexValue? d
    some (((a * 16 + b) * 16 + c) * 16 + d, rest)
  | _ => none

/-- The character of a `\u` escape, whose second half must be there when the first is a surrogate. -/
def readEscapedUnit (cs : List Char) : Option (Char × List Char) := do
  let (unit, rest) ← readUnit cs
  if 0xD800 ≤ unit ∧ unit < 0xDC00 then
    match rest with
    | '\\' :: 'u' :: rest =>
      let (low, rest) ← readUnit rest
      if 0xDC00 ≤ low ∧ low < 0xE000 then
        some (Char.ofNat (0x10000 + (unit - 0xD800) * 0x400 + (low - 0xDC00)), rest)
      else none
    | _ => none
  else if 0xDC00 ≤ unit ∧ unit < 0xE000 then none
  else some (Char.ofNat unit, rest)

/-- The character of an escape of one letter. -/
def shortEscape? (c : Char) : Option Char :=
  match c with
  | '"' => some '"'
  | '\\' => some '\\'
  | '/' => some '/'
  | 'b' => some '\x08'
  | 'f' => some '\x0c'
  | 'n' => some '\n'
  | 'r' => some '\r'
  | 't' => some '\t'
  | _ => none

/-- The characters up to the quote that closes a string, and those after it; a backslash takes the
character after it along.  `done` holds the characters passed, last first. -/
def cutString (done : List Char) : List Char → Option (List Char × List Char)
  | [] => none
  | '"' :: rest => some (done.reverse, rest)
  | '\\' :: c :: rest => cutString (c :: '\\' :: done) rest
  | c :: rest => cutString (c :: done) rest

/-- The text of the characters between two quotes; `done` holds its characters so far, last first.
Each step consumes a character, so the number of characters is fuel enough. -/
def unescape : Nat → List Char → List Char → Option String
  | _, done, [] => some (String.ofList done.reverse)
  | 0, _, _ :: _ => none
  | fuel + 1, done, '\\' :: 'u' :: rest => do
    let (c, rest) ← readEscapedUnit rest
    unescape fuel (c :: done) rest
  | fuel + 1, done, '\\' :: c :: rest => do
    let c ← shortEscape? c
    unescape fuel (c :: done) rest
  | fuel + 1, done, c :: rest =>
    if c.toNat < 0x20 || c = '\\' then none else unescape fuel (c :: done) rest

/-- A string, whose opening quote has been read. -/
def readString (cs : List Char) : Option (String × List Char) := do
  let (body, rest) ← cutString [] cs
  some ((← unescape body.length [] body), rest)

/-! ## Values -/

/-- The characters after the white space of JSON. -/
def skipSpace (cs : List Char) : List Char :=
  cs.dropWhile fun c => c = ' ' || c = '\n' || c = '\t' || c = '\r'

/-- A given word at the front. -/
def readWord (word : String) (value : Json) (cs : List Char) : Option (Json × List Char) :=
  let letters := word.toList
  if letters.isPrefixOf cs then some (value, cs.drop letters.length) else none

mutual

/-- A value.  Arrays and objects may be nested `depth` deep; each call has less fuel than the one
before it. -/
def readValue : (fuel depth : Nat) → List Char → Option (Json × List Char)
  | 0, _, _ => none
  | fuel + 1, depth, cs =>
    match skipSpace cs with
    | [] => none
    | '"' :: rest => (readString rest).map fun (s, rest) => (.string s, rest)
    | '[' :: rest =>
      match depth with
      | 0 => none
      | depth + 1 =>
        match skipSpace rest with
        | ']' :: rest => some (.array [], rest)
        | rest => readItems fuel depth [] rest
    | '\x7b' :: rest =>
      match depth with
      | 0 => none
      | depth + 1 =>
        match skipSpace rest with
        | '\x7d' :: rest => some (.object [], rest)
        | rest => readMembers fuel depth [] rest
    | 't' :: rest => readWord "true" (.bool true) ('t' :: rest)
    | 'f' :: rest => readWord "false" (.bool false) ('f' :: rest)
    | 'n' :: rest => readWord "null" .null ('n' :: rest)
    | cs => (readNumber cs).map fun (n, rest) => (.number n, rest)

/-- The items of an array from the next one on; `done` holds those read, last first. -/
def readItems : (fuel depth : Nat) → List Json → List Char → Option (Json × List Char)
  | 0, _, _, _ => none
  | fuel + 1, depth, done, cs => do
    let (item, rest) ← readValue fuel depth cs
    match skipSpace rest with
    | ',' :: rest => readItems fuel depth (item :: done) rest
    | ']' :: rest => some (.array (item :: done).reverse, rest)
    | _ => none

/-- The members of an object from the next one on; `done` holds those read, last first. -/
def readMembers : (fuel depth : Nat) → List (String × Json) → List Char → Option (Json × List Char)
  | 0, _, _, _ => none
  | fuel + 1, depth, done, cs =>
    match skipSpace cs with
    | '"' :: rest => do
      let (name, rest) ← readString rest
      match skipSpace rest with
      | ':' :: rest =>
        let (value, rest) ← readValue fuel depth rest
        match skipSpace rest with
        | ',' :: rest => readMembers fuel depth ((name, value) :: done) rest
        | '\x7d' :: rest => some (.object ((name, value) :: done).reverse, rest)
        | _ => none
      | _ => none
    | _ => none

end

/-- Arrays and objects may be nested this deep. -/
def depthLimit : Nat := 127

/-- The value that fills a text, with its members as written. -/
def parseRaw? (s : String) : Option Json := do
  let cs := s.toList
  let (value, rest) ← readValue (2 * cs.length + 2) depthLimit cs
  if (skipSpace rest).isEmpty then some value else none

/-- The value that fills a text, with each member named once. -/
def parse? (s : String) : Option Json := (parseRaw? s).map settled

end CatalogSearch.Json
