import CatalogSearch.Error
import CatalogSearch.Feed.ChangeEvent
import CatalogSearch.Text.Utf8

/-!
# Feeds of JSON lines

A feed is read line by line.  Blank lines and lines that begin with a number sign say nothing; every
other line is one change.  A line that is none is reported under its number and the feed goes on; a
line that is no text ends it.
-/

set_option autoImplicit false

namespace CatalogSearch

open CatalogSearch.Text

/-- What a feed delivers: a change, or why there is none. -/
abbrev FeedItem := Except FeedError ChangeEvent

namespace JsonLines

/-- The lines of some bytes with their ends: each up to and including a line feed, the last one
possibly without.  `done` holds the bytes of the line read so far, last first. -/
def splitLines (done : List UInt8) : List UInt8 → List (List UInt8)
  | [] => if done.isEmpty then [] else [done.reverse]
  | b :: rest =>
    if b = 0x0A then (b :: done).reverse :: splitLines [] rest else splitLines (b :: done) rest

/-- Whether a line says nothing: it is blank or a comment. -/
def isSilent (line : List Char) : Bool :=
  match line with
  | [] => true
  | c :: _ => c = '#'

/-- What a line delivers, once it is text; the number is for reports. -/
def readLine (source : String) (number : Nat) (line : List Char) : Option FeedItem :=
  let line := trimChars line
  if isSilent line then none
  else
    match ChangeEvent.parse? (String.ofList line) with
    | some e => some (.ok e)
    | none => some (.error (.malformed source number "not a change event"))

/-- What lines deliver, of which the first has the given number. -/
def readLines (source : String) (number : Nat) : List (List UInt8) → List FeedItem
  | [] => []
  | bytes :: rest =>
    match decodeUtf8 bytes with
    | .error fault => [.error (.unreadable fault.message)]
    | .ok line =>
      match readLine source number line with
      | some item => item :: readLines source (number + 1) rest
      | none => readLines source (number + 1) rest

/-- What a feed delivers, in order. -/
def read (source : String) (bytes : List UInt8) : List FeedItem :=
  readLines source 1 (splitLines [] bytes)

end JsonLines

end CatalogSearch
