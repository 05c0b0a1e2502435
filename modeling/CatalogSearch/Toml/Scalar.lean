import CatalogSearch.Json.Reader
import CatalogSearch.Number.Integer
import CatalogSearch.Number.Literal
import CatalogSearch.Text.Blank
import CatalogSearch.Time.Calendar

/-!
# Scalars of TOML

Truth values, numbers, dates and strings as TOML 1.0 writes them.  They are read as the same data that
JSON holds; a date or time is kept as its text, in the form in which it is always written.
-/

set_option autoImplicit false

namespace CatalogSearch.Toml

open CatalogSearch.Time

/-! ## Numbers -/

/-- Digits without the single underscores that may stand between them. -/
def ungroup? (isDigit : Char → Bool) (cs : List Char) : Option (List Char) :=
  let digits := cs.filter (· != '_')
  let groups := cs.length + 1 - digits.length
  if digits.all isDigit && (Text.runs (· != '_') cs).length == groups then some digits else none

/-- Whether a character is a digit of a base. -/
def isDigitOf (base : Nat) (c : Char) : Bool := (Json.hexValue? c).any (decide <| · < base)

/-- The value of digits of a base. -/
def valueOf (base : Nat) (digits : List Char) : Nat :=
  digits.foldl (fun n c => n * base + (Json.hexValue? c).getD 0) 0

/-- An integer, if it has 64 bits. -/
def int64? (n : Int) : Option Json :=
  if Number.isInt64 n then some (.int n) else none

/-- An integer of a base other than ten. -/
def basedInteger? (base : Nat) (cs : List Char) : Option Json := do
  let digits ← ungroup? (isDigitOf base) cs
  int64? (valueOf base digits)

/-- The digits of a whole number, which has no zero in front. -/
def wholeDigits? (cs : List Char) : Option (List Char) :=
  (ungroup? Char.isDigit cs).filter fun digits => digits.length = 1 || digits.head? != some '0'

/-- The part of a number from its exponent on, in plain form. -/
def plainExponent? : List Char → Option (List Char)
  | [] => some []
  | _ :: cs =>
    let (negative, digits) := Number.takeSign cs
    (ungroup? Char.isDigit digits).map fun digits => 'e' :: (if negative then ['-'] else []) ++ digits

/-- The part of a number from its point on, in plain form. -/
def plainFraction? : List Char → Option (List Char)
  | '.' :: cs => do
    let places ← ungroup? Char.isDigit (cs.takeWhile (fun c => c != 'e' && c != 'E'))
    let exponent ← plainExponent? (cs.dropWhile (fun c => c != 'e' && c != 'E'))
    some ('.' :: places ++ exponent)
  | cs => plainExponent? cs

/-- A decimal number without its sign: an integer, or a binary number if it has a point or an
exponent.  A binary number too large is none. -/
def unsigned? (negative : Bool) (cs : List Char) : Option Json := do
  let ends (c : Char) : Bool := c == '.' || c == 'e' || c == 'E'
  let whole ← wholeDigits? (cs.takeWhile (fun c => !ends c))
  match cs.dropWhile (fun c => !ends c) with
  | [] =>
    let size : Int := valueOf 10 whole
    int64? (if negative then -size else size)
  | rest =>
    let fraction ← plainFraction? rest
    let size ← Number.readChars (whole ++ fraction)
    if size.isInf && !negative then none
    else some (.number (.decimal (if negative then -size else size)))

/-- A number; a sign only stands before decimal ones. -/
def number? (cs : List Char) : Option Json :=
  match cs with
  | '0' :: 'x' :: digits => basedInteger? 16 digits
  | '0' :: 'o' :: digits => basedInteger? 8 digits
  | '0' :: 'b' :: digits => basedInteger? 2 digits
  | cs =>
    let (negative, size) := Number.takeSign cs
    if size == "inf".toList || size == "nan".toList then
      (Number.readChars cs).map fun x => .number (.decimal x)
    else unsigned? negative size

/-! ## Dates and times -/

/-- The value of digits, of which there must be a given number. -/
def digits? (count : Nat) (cs : List Char) : Option Nat :=
  if cs.length = count ∧ cs.all Char.isDigit then some (Number.digitsValue cs) else none

/-- Whether the characters are a date. -/
def isDate (cs : List Char) : Bool :=
  match digits? 4 (cs.take 4), digits? 2 ((cs.drop 5).take 2), digits? 2 (cs.drop 8) with
  | some year, some month, some day =>
    cs[4]? == some '-' && cs[7]? == some '-' && (Date.mk year month day).exists?
  | _, _, _ => false

/-- Whether the characters are hours and minutes of a day. -/
def isHourMinute (cs : List Char) : Bool :=
  match digits? 2 (cs.take 2), digits? 2 (cs.drop 3) with
  | some hour, some minute => cs[2]? == some ':' && decide (hour < 24) && decide (minute < 60)
  | _, _ => false

/-- The offset at the end of a time, written as always: none for the same instant is `+00:00`. -/
def offset? : List Char → Option (List Char)
  | [] => some []
  | [c] => if c = 'Z' || c = 'z' then some ['Z'] else none
  | sign :: cs =>
    if (sign = '+' || sign = '-') && isHourMinute cs then
      some ((if cs == "00:00".toList then '+' else sign) :: cs)
    else none

/-- The fraction of a second, cut after nine places and without zeros at its end. -/
def fraction (places : List Char) : List Char :=
  match ((places.take 9).reverse.dropWhile (· == '0')).reverse with
  | [] => []
  | places => '.' :: places

/-- A time with what follows its seconds: a fraction, and an offset where there is a date. -/
def time? (dated : Bool) (cs : List Char) : Option (List Char) := do
  let second ← digits? 2 ((cs.drop 6).take 2)
  if !isHourMinute (cs.take 5) || cs[5]? != some ':' || 60 < second then none
  let (places, rest) :=
    match cs.drop 8 with
    | '.' :: more => (some (more.takeWhile Char.isDigit), more.dropWhile Char.isDigit)
    | more => (none, more)
  if places == some [] || (!dated && !rest.isEmpty) then none
  let offset ← offset? rest
  some (cs.take 8 ++ fraction (places.getD []) ++ offset)

/-- A date, a time, or both with a `T` between them. -/
def dateTime? (cs : List Char) : Option Json :=
  let text :=
    if cs[2]? == some ':' then time? false cs
    else if !isDate (cs.take 10) then none
    else
      match cs.drop 10 with
      | [] => some cs
      | c :: time =>
        if c = 'T' || c = 't' then (time? true time).map fun time => cs.take 10 ++ 'T' :: time
        else none
  text.map fun text => .string (String.ofList text)

/-! ## Words -/

/-- Whether a character may be part of a scalar that is no string. -/
def isScalarChar (c : Char) : Bool :=
  c.isAlphanum || c == '_' || c == '+' || c == '-' || c == '.' || c == ':'

/-- What a run of such characters stands for. -/
def scalar? (cs : List Char) : Option Json :=
  if cs == "true".toList then some (.bool true)
  else if cs == "false".toList then some (.bool false)
  else if cs[4]? == some '-' && (digits? 4 (cs.take 4)).isSome || cs[2]? == some ':' then dateTime? cs
  else number? cs

/-- The scalar at the front.  Between a date and a time there may be a space. -/
def readScalar (cs : List Char) : Option (Json × List Char) :=
  let word := cs.takeWhile isScalarChar
  match cs.dropWhile isScalarChar with
  | ' ' :: c :: rest =>
    if isDate word && c.isDigit then
      let time := (c :: rest).takeWhile isScalarChar
      (scalar? (word ++ 'T' :: time)).map fun v => (v, (c :: rest).dropWhile isScalarChar)
    else (scalar? word).map fun v => (v, ' ' :: c :: rest)
  | rest => (scalar? word).map fun v => (v, rest)

/-! ## Strings -/

/-- Whether a character may stand for itself: tabs may, other controls may not. -/
def isPlain (c : Char) : Bool := c = '\t' || (decide (0x20 ≤ c.toNat) && c.toNat != 0x7F)

/-- The character with a code point, unless it is half of a surrogate pair or beyond all characters. -/
def scalarValue? (code : Nat) : Option Char :=
  if h : code.isValidChar then some (Char.ofNatAux code h) else none

/-- The character of an escape, whose backslash has been read. -/
def readEscape : List Char → Option (Char × List Char)
  | 'u' :: rest => do
    let (code, rest) ← Json.readUnit rest
    some ((← scalarValue? code), rest)
  | 'U' :: rest => do
    let (high, rest) ← Json.readUnit rest
    let (low, rest) ← Json.readUnit rest
    some ((← scalarValue? (high * 0x10000 + low)), rest)
  | '/' :: _ => none
  | c :: rest => (Json.shortEscape? c).map fun c => (c, rest)
  | [] => none

/-- The end of a line at the front. -/
def dropNewline? : List Char → Option (List Char)
  | '\n' :: rest => some rest
  | '\r' :: '\n' :: rest => some rest
  | _ => none

/-- Whether a character is blank within a line. -/
def isSpace (c : Char) : Bool := c = ' ' || c = '\t'

/-- How a string is written. -/
structure Quotation where
  /-- The quotation mark. -/
  mark : Char
  /-- Whether a backslash begins an escape. -/
  escapes : Bool
  /-- Whether the string may run over several lines; its mark then stands three times. -/
  lines : Bool

/-- The characters after all blanks and ends of lines at the front. -/
def dropBlankLines : List Char → List Char
  | '\r' :: '\n' :: rest => dropBlankLines rest
  | c :: rest => if isSpace c || c = '\n' then dropBlankLines rest else c :: rest
  | [] => []

/-- The rest after a backslash at the end of a line: all blanks and ends of lines are skipped. -/
def afterLineEnd? (cs : List Char) : Option (List Char) :=
  (dropNewline? (cs.dropWhile isSpace)).map dropBlankLines

/-- The end of a string at the front: the marks that still belong to the string, and the rest.  A
string of several lines may end in two marks of its own. -/
def closing? (q : Quotation) (cs : List Char) : Option (List Char × List Char) :=
  let marks := (cs.takeWhile (· == q.mark)).length
  if q.lines then
    if 3 ≤ marks then some (List.replicate (min marks 5 - 3) q.mark, cs.drop (min marks 5)) else none
  else if 1 ≤ marks then some ([], cs.drop 1)
  else none

/-- The characters of a string up to its end; `done` holds those read, last first.  Each step consumes
a character, so the length of the text is fuel enough. -/
def readQuoted (q : Quotation) : Nat → List Char → List Char → Option (String × List Char)
  | 0, _, _ => none
  | fuel + 1, done, cs =>
    match closing? q cs with
    | some (marks, rest) => some (String.ofList (done.reverse ++ marks), rest)
    | none =>
      match cs with
      | [] => none
      | c :: rest =>
        if q.escapes && c = '\\' then
          match if q.lines then afterLineEnd? rest else none with
          | some rest => readQuoted q fuel done rest
          | none => do
            let (c, rest) ← readEscape rest
            readQuoted q fuel (c :: done) rest
        else
          match if q.lines then dropNewline? cs else none with
          | some rest => readQuoted q fuel ('\n' :: done) rest
          | none => if isPlain c then readQuoted q fuel (c :: done) rest else none

/-- A string within a line, whose opening mark has been read. -/
def readLineString (mark : Char) (cs : List Char) : Option (String × List Char) :=
  readQuoted ⟨mark, mark == '"', false⟩ (cs.length + 1) [] cs

/-- A string at the front, within a line or over several. -/
def readString (mark : Char) (cs : List Char) : Option (String × List Char) :=
  match cs with
  | a :: b :: rest =>
    if a = mark ∧ b = mark then
      let rest := (dropNewline? rest).getD rest
      readQuoted ⟨mark, mark == '"', true⟩ (rest.length + 1) [] rest
    else readLineString mark cs
  | cs => readLineString mark cs

end CatalogSearch.Toml
