/-!
# UTF-8

Bytes as text.  Where bytes are no UTF-8, the fault says how many bytes before it are, and how many
bytes cannot be part of any character; bytes that end inside a character leave that open.
-/

set_option autoImplicit false

namespace CatalogSearch.Text

/-- Why bytes are no text. -/
structure Utf8Fault where
  /-- The number of bytes in front that are text. -/
  validUpTo : Nat
  /-- The number of bytes after them that cannot be continued; none if the bytes merely end too
  soon. -/
  badBytes : Option Nat
  deriving DecidableEq, Repr

/-- A number in decimal. -/
def decimalText (n : Nat) : String := String.ofList (Nat.toDigits 10 n)

/-- The fault in words. -/
def Utf8Fault.message (f : Utf8Fault) : String :=
  match f.badBytes with
  | some n =>
    "invalid utf-8 sequence of " ++ decimalText n ++ " bytes from index " ++ decimalText f.validUpTo
  | none => "incomplete utf-8 byte sequence from index " ++ decimalText f.validUpTo

/-- Whether a byte can only follow another one in a character. -/
def isTail (b : UInt8) : Bool := decide (0x80 ≤ b) && decide (b ≤ 0xBF)

/-- Whether a byte may be the second of a character that the first byte begins. -/
def isSecond (first second : UInt8) : Bool :=
  if first = 0xE0 then decide (0xA0 ≤ second) && decide (second ≤ 0xBF)
  else if first = 0xED then decide (0x80 ≤ second) && decide (second ≤ 0x9F)
  else if first = 0xF0 then decide (0x90 ≤ second) && decide (second ≤ 0xBF)
  else if first = 0xF4 then decide (0x80 ≤ second) && decide (second ≤ 0x8F)
  else isTail second

/-- The number of bytes of the character that a byte begins; zero if it begins none. -/
def byteWidth (first : UInt8) : Nat :=
  if first < 0x80 then 1
  else if 0xC2 ≤ first ∧ first ≤ 0xDF then 2
  else if 0xE0 ≤ first ∧ first ≤ 0xEF then 3
  else if 0xF0 ≤ first ∧ first ≤ 0xF4 then 4
  else 0

/-- The six low bits of a byte. -/
def tailBits (b : UInt8) : Nat := b.toNat % 64

/-- The first character of some bytes and the bytes after it, or the number of bytes that cannot be
continued. -/
def decodeFirst (first : UInt8) (rest : List UInt8) : Except (Option Nat) (Char × List UInt8) :=
  match byteWidth first, rest with
  | 1, rest => .ok (Char.ofNat first.toNat, rest)
  | 2, b :: rest =>
    if isTail b then .ok (Char.ofNat (first.toNat % 32 * 64 + tailBits b), rest)
    else .error (some 1)
  | 3, b :: rest =>
    if !isSecond first b then .error (some 1)
    else
      match rest with
      | c :: rest =>
        if isTail c then
          .ok (Char.ofNat ((first.toNat % 16 * 64 + tailBits b) * 64 + tailBits c), rest)
        else .error (some 2)
      | [] => .error none
  | 4, b :: rest =>
    if !isSecond first b then .error (some 1)
    else
      match rest with
      | c :: rest =>
        if !isTail c then .error (some 2)
        else
          match rest with
          | d :: rest =>
            if isTail d then
              .ok (Char.ofNat
                (((first.toNat % 8 * 64 + tailBits b) * 64 + tailBits c) * 64 + tailBits d), rest)
            else .error (some 3)
          | [] => .error none
      | [] => .error none
  | 0, _ => .error (some 1)
  | _, _ => .error none

/-- The characters of some bytes, of which `count` bytes have been read into `done`, last first.
Every character takes a byte or more, so the number of bytes is fuel enough. -/
def decodeFrom (count : Nat) (done : List Char) : Nat → List UInt8 → Except Utf8Fault (List Char)
  | _, [] => .ok done.reverse
  | 0, _ :: _ => .error ⟨count, none⟩
  | fuel + 1, first :: rest =>
    match decodeFirst first rest with
    | .ok (c, more) => decodeFrom (count + byteWidth first) (c :: done) fuel more
    | .error bad => .error ⟨count, bad⟩

/-- The characters of some bytes. -/
def decodeUtf8 (bytes : List UInt8) : Except Utf8Fault (List Char) :=
  decodeFrom 0 [] bytes.length bytes

end CatalogSearch.Text
