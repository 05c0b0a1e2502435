import CatalogSearch.Text.Blank
import CatalogSearch.Time.Instant

/-!
# Timestamps as text

Instants are written in RFC 3339 in UTC, with the fewest fraction digits of 0, 3, 6 or 9 that are
exact.  They are read in two ways: exactly as RFC 3339 says, or leniently, with white space between
the parts, fields of fewer digits, signed years and looser offsets.
-/

set_option autoImplicit false

namespace CatalogSearch.Time

open CatalogSearch.Text

/-! ## Writing -/

/-- A number in decimal with zeros in front up to a width. -/
def padded (width n : Nat) : List Char :=
  let digits := Nat.toDigits 10 n
  List.replicate (width - digits.length) '0' ++ digits

/-- A year of four digits; one that needs more, or lies before the year zero, has a sign. -/
def yearText (year : Int) : List Char :=
  if 0 ≤ year ∧ year ≤ 9999 then padded 4 year.toNat
  else (if year < 0 then '-' else '+') :: padded 4 year.natAbs

/-- The fraction of a second, in the fewest digits of 0, 3, 6 or 9 that are exact. -/
def fractionText (nanos : Nat) : List Char :=
  if nanos = 0 then []
  else if nanos % 1000000 = 0 then '.' :: padded 3 (nanos / 1000000)
  else if nanos % 1000 = 0 then '.' :: padded 6 (nanos / 1000)
  else '.' :: padded 9 nanos

/-- An instant in RFC 3339, with the given spelling of the offset of UTC. -/
def Instant.render (offset : String) (t : Instant) : String :=
  let date := Date.ofDays (t.seconds.fdiv 86400)
  let inDay := (t.seconds.fmod 86400).toNat
  let second := inDay % 60 + t.nanos / 1000000000
  String.ofList (yearText date.year ++ '-' :: (padded 2 date.month ++ '-' :: (padded 2 date.day ++
    'T' :: (padded 2 (inDay / 3600) ++ ':' :: (padded 2 (inDay / 60 % 60) ++ ':' ::
    (padded 2 second ++ fractionText (t.nanos % 1000000000) ++ offset.toList))))))

/-- An instant as it is shown. -/
def Instant.text (t : Instant) : String := t.render "+00:00"

/-- An instant as it is written inside data. -/
def Instant.dataText (t : Instant) : String := t.render "Z"

/-! ## Reading -/

/-- What was read, and the characters after it. -/
abbrev Reader (α : Type) := List Char → Option (α × List Char)

/-- How far the text may depart from RFC 3339. -/
inductive Strictness where
  | strict
  | lenient
  deriving DecidableEq, Repr

/-- A number of at least `least` and at most `most` digits. -/
def readNumber (least most : Nat) : Reader Nat := fun cs =>
  let digits := (cs.take most).takeWhile Char.isDigit
  if digits.length < least then none
  else some (digits.foldl (fun n c => n * 10 + (c.toNat - '0'.toNat)) 0, cs.drop digits.length)

/-- One given character. -/
def readMark (mark : Char) : Reader Unit
  | [] => none
  | c :: rest => if c = mark then some ((), rest) else none

/-- White space is skipped only when reading leniently. -/
def skipBlank (how : Strictness) (cs : List Char) : List Char :=
  match how with
  | .strict => cs
  | .lenient => trimStartChars cs

/-- A field of two digits; read leniently, one digit is enough. -/
def readField (how : Strictness) : Reader Nat := fun cs =>
  match how with
  | .strict => readNumber 2 2 cs
  | .lenient => readNumber 1 2 (trimStartChars cs)

/-- The year: four digits; read leniently, up to four, or any number after a sign. -/
def readYear (how : Strictness) : Reader Int := fun cs =>
  match how with
  | .strict => (readNumber 4 4 cs).map fun (n, rest) => ((n : Int), rest)
  | .lenient =>
    match trimStartChars cs with
    | '-' :: rest => (readNumber 1 rest.length rest).map fun (n, rest) => (-(n : Int), rest)
    | '+' :: rest => (readNumber 1 rest.length rest).map fun (n, rest) => ((n : Int), rest)
    | cs => (readNumber 1 4 cs).map fun (n, rest) => ((n : Int), rest)

/-- A mark between fields. -/
def readSeparator (how : Strictness) (mark : Char) : Reader Unit := fun cs =>
  readMark mark (skipBlank how cs)

/-- The mark between date and time. -/
def readTimeMark : Reader Unit
  | [] => none
  | c :: rest => if c = 'T' || c = 't' || c = ' ' then some ((), rest) else none

/-- An optional fraction of a second, in nanoseconds; digits after the ninth are dropped. -/
def readFraction : Reader Nat
  | '.' :: cs => do
    let (n, rest) ← readNumber 1 9 cs
    let count := cs.length - rest.length
    some (n * Nat.pow 10 (9 - count), rest.dropWhile Char.isDigit)
  | cs => some (0, cs)

/-- Hours and minutes of an offset, in seconds. -/
def readOffsetSize (how : Strictness) (cs : List Char) : Option (Int × List Char) := do
  let (hours, rest) ← readNumber 2 2 cs
  let rest ←
    match how with
    | .strict => (readMark ':' rest).map (·.2)
    | .lenient => some (rest.dropWhile fun c => c = ':' || isBlank c)
  let (minutes, rest) ← readNumber 2 2 rest
  if minutes < 60 then some (((hours * 3600 + minutes * 60 : Nat) : Int), rest) else none

/-- The offset from UTC in seconds: the letter Z, or a sign, hours and minutes; read leniently, also
the name of UTC. -/
def readOffset (how : Strictness) : Reader Int := fun cs =>
  let named := how = .lenient && (cs.take 3).map Char.toLower == ['u', 't', 'c']
  if named then some (0, cs.drop 3)
  else
    match cs with
    | [] => none
    | c :: rest =>
      if c = 'Z' || c = 'z' then some (0, rest)
      else if c = '+' then readOffsetSize how rest
      else if c = '-' || c = '\u2212' then
        (readOffsetSize how rest).map fun (size, rest) => (-size, rest)
      else none

/-- A timestamp that fills the text.  The date must exist, the time must be one of a day (the second
may be a leap second), the offset must be less than a day and the calendar must reach the instant. -/
def readTimestamp (how : Strictness) (cs : List Char) : Option Instant := do
  let (year, cs) ← readYear how cs
  let (_, cs) ← readSeparator how '-' cs
  let (month, cs) ← readField how cs
  let (_, cs) ← readSeparator how '-' cs
  let (day, cs) ← readField how cs
  let (_, cs) ← readTimeMark cs
  let (hour, cs) ← readField how cs
  let (_, cs) ← readSeparator how ':' cs
  let (minute, cs) ← readField how cs
  let (_, cs) ← readSeparator how ':' cs
  let (second, cs) ← readField how cs
  let (nanos, cs) ← readFraction cs
  let (offset, cs) ← readOffset how (skipBlank how cs)
  let date : Date := ⟨year, month, day⟩
  let whole := date.exists? && decide (hour < 24) && decide (minute < 60) &&
    decide (second ≤ 60) && decide (offset.natAbs < 86400) && (skipBlank how cs).isEmpty
  let clock : Int := ((hour * 3600 + minute * 60 + min second 59 : Nat) : Int)
  let leap := if second = 60 then 1000000000 else 0
  let local' : Instant := ⟨date.toDays * 86400 + clock, nanos + leap⟩
  let t : Instant := ⟨local'.seconds - offset, local'.nanos⟩
  if whole && local'.inRange && t.inRange then some t else none

/-- An instant from text that follows RFC 3339 exactly. -/
def Instant.parse? (s : String) : Option Instant := readTimestamp .strict s.toList

/-- An instant from text that follows RFC 3339 loosely. -/
def Instant.parseLenient? (s : String) : Option Instant := readTimestamp .lenient s.toList

end CatalogSearch.Time
