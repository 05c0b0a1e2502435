import CatalogSearch.Json.Reader

/-!
# Passing over JSON

Where only some members of an object are asked for, the others are passed over: their form is
checked, but not what they stand for.  So a value that nobody asks for may be nested as deeply as it
likes, hold a number of any size and name half of a surrogate pair.
-/

set_option autoImplicit false

namespace CatalogSearch.Json

/-! ## Scalars -/

/-- The rest after a string, whose opening quote has been read. -/
def skipString : List Char → Option (List Char)
  | [] => none
  | '"' :: rest => some rest
  | '\\' :: 'u' :: a :: b :: c :: d :: rest =>
    if [a, b, c, d].all (fun x => (hexValue? x).isSome) then skipString rest else none
  | '\\' :: c :: rest => if (shortEscape? c).isSome then skipString rest else none
  | c :: rest => if c.toNat < 0x20 || c = '\\' then none else skipString rest

/-- The rest after digits, of which there must be one. -/
def skipDigits (cs : List Char) : Option (List Char) :=
  if cs.head?.any Char.isDigit then some (cs.dropWhile Char.isDigit) else none

/-- The rest after an exponent, if there is one. -/
def skipPower : List Char → Option (List Char)
  | [] => some []
  | c :: rest =>
    if c = 'e' || c = 'E' then
      skipDigits (match rest with
        | '+' :: rest => rest
        | '-' :: rest => rest
        | rest => rest)
    else some (c :: rest)

/-- The rest after a number without its sign. -/
def skipSize (cs : List Char) : Option (List Char) := do
  let rest ← skipDigits cs
  if cs.head? == some '0' && (cs.drop 1).head?.any Char.isDigit then none
  match rest with
  | '.' :: places => skipDigits places >>= skipPower
  | rest => skipPower rest

/-- The rest after a number. -/
def skipNumber : List Char → Option (List Char)
  | '-' :: rest => skipSize rest
  | cs => skipSize cs

/-- The rest after a given word. -/
def skipWord (word : String) (cs : List Char) : Option (List Char) :=
  (readWord word .null cs).map (·.2)

/-! ## Values -/

mutual

/-- The rest after a value; each call has less fuel than the one before it. -/
def skipValue : (fuel : Nat) → List Char → Option (List Char)
  | 0, _ => none
  | fuel + 1, cs =>
    match skipSpace cs with
    | '"' :: rest => skipString rest
    | '[' :: rest =>
      match skipSpace rest with
      | ']' :: rest => some rest
      | rest => skipItems fuel rest
    | '\x7b' :: rest =>
      match skipSpace rest with
      | '\x7d' :: rest => some rest
      | rest => skipMembers fuel rest
    | 't' :: rest => skipWord "true" ('t' :: rest)
    | 'f' :: rest => skipWord "false" ('f' :: rest)
    | 'n' :: rest => skipWord "null" ('n' :: rest)
    | cs => skipNumber cs

/-- The rest after the items of an array. -/
def skipItems : (fuel : Nat) → List Char → Option (List Char)
  | 0, _ => none
  | fuel + 1, cs => do
    match skipSpace (← skipValue fuel cs) with
    | ',' :: rest => skipItems fuel rest
    | ']' :: rest => some rest
    | _ => none

/-- The rest after the members of an object. -/
def skipMembers : (fuel : Nat) → List Char → Option (List Char)
  | 0, _ => none
  | fuel + 1, cs =>
    match skipSpace cs with
    | '"' :: rest => do
      match skipSpace (← skipString rest) with
      | ':' :: rest =>
        match skipSpace (← skipValue fuel rest) with
        | ',' :: rest => skipMembers fuel rest
        | '\x7d' :: rest => some rest
        | _ => none
      | _ => none
    | _ => none

end

/-! ## Objects of which some members are asked for -/

/-- The members of an object that are asked for, from the next member on; `done` holds those read,
last first. -/
def readAsked (asked : String → Bool) :
    (fuel : Nat) → List (String × Json) → List Char → Option (List (String × Json) × List Char)
  | 0, _, _ => none
  | fuel + 1, done, cs =>
    match skipSpace cs with
    | '"' :: rest => do
      let (name, rest) ← readString rest
      match skipSpace rest with
      | ':' :: rest =>
        let (done, rest) ←
          if asked name then
            (readValue fuel (depthLimit - 1) rest).map fun (value, rest) =>
              ((name, value) :: done, rest)
          else (skipValue fuel rest).map fun rest => (done, rest)
        match skipSpace rest with
        | ',' :: rest => readAsked asked fuel done rest
        | '\x7d' :: rest => some (done.reverse, rest)
        | _ => none
      | _ => none
    | _ => none

/-- The members of the object that fills a text, of those that are asked for, as written. -/
def membersAsked? (asked : String → Bool) (s : String) : Option (List (String × Json)) := do
  let cs := s.toList
  let (members, rest) ←
    match skipSpace cs with
    | '\x7b' :: rest =>
      match skipSpace rest with
      | '\x7d' :: rest => some ([], rest)
      | rest => readAsked asked (2 * cs.length + 2) [] rest
    | _ => none
  if (skipSpace rest).isEmpty then some members else none

end CatalogSearch.Json
