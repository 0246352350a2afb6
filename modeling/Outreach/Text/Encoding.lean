import Outreach.Decimal.Notation

/-!
# Texts and their encodings

Texts come in as bytes, as wider units, or in escapes. What is no character in them
needs a place of its own.
-/

namespace Outreach.Text

/-!
## Lone surrogates

A text that comes in escapes can hold half of a surrogate pair without its partner, which is no
character. A stand-in takes its place: one private-use character for each of the halves, from
`U+FA000` to `U+FA7FF`. A text with a stand-in can be compared, cut and escaped like any other, but
it has no encoding. The characters that serve as stand-ins never stand for themselves: `codePoints`
gives what a text stands for, which is any row of characters and halves except those with one of
these characters.
-/

/-- The code unit is half of a surrogate pair. -/
def isSurrogateUnit (unit : Nat) : Bool := 0xd800 ≤ unit && unit < 0xe000

/-- The stand-ins begin here. -/
def standInStart : Nat := 0xfa000

/-- The stand-in for half of a surrogate pair. As a character of its own it is left out of texts. -/
def standIn (unit : Nat) : Char := Char.ofNat (standInStart + (unit - 0xd800))

/-- The half of a pair that a character stands in for. -/
def standInUnit? (c : Char) : Option Nat :=
  if standInStart ≤ c.toNat ∧ c.toNat < standInStart + 0x800 then
    some (c.toNat - standInStart + 0xd800)
  else none

/-- The character stands in for half of a surrogate pair. -/
def isStandIn (c : Char) : Bool := (standInUnit? c).isSome

/-- The text holds half of a surrogate pair, so it has no encoding. The characters from `U+FA000` to
`U+FA7FF` count as halves. -/
def hasLoneSurrogate (s : String) : Bool := s.toList.any isStandIn

/-- A code point: a character, or half of a surrogate pair by its distance from the first half. -/
inductive CodePoint where
  | char (c : Char)
  | half (offset : Fin 0x800)
  deriving DecidableEq

namespace CodePoint

/-- What a character of a text stands for. -/
def ofChar (c : Char) : CodePoint :=
  if bounds : standInStart ≤ c.toNat ∧ c.toNat < standInStart + 0x800 then
    .half ⟨c.toNat - standInStart, by omega⟩
  else .char c

/-- The character for a code point in a text. -/
def toChar : CodePoint → Char
  | .char c => c
  | .half offset => standIn (0xd800 + offset)

/-- The code point is half of a surrogate pair. -/
def isHalf : CodePoint → Bool
  | .char _ => false
  | .half _ => true

end CodePoint

/-- The code points that a text stands for. -/
def codePoints (s : String) : List CodePoint := s.toList.map CodePoint.ofChar

/-- The text for code points, none of which is one of the characters that serve as stand-ins. -/
def ofCodePoints (points : List CodePoint) : String := String.ofList (points.map CodePoint.toChar)

/-- The escape of a code unit. -/
def unitEscape (unit : Nat) : List Char := '\\' :: 'u' :: Decimal.writeHex 4 unit

/-- What is said of a text that has no encoding: the first run of halves in it. -/
def encodingMessage (s : String) : String :=
  let before := s.toList.takeWhile fun c => !isStandIn c
  let run := (s.toList.drop before.length).takeWhile isStandIn
  let start := before.length
  let place := match run with
    | [c] =>
      s!"character '{String.ofList (unitEscape ((standInUnit? c).getD 0))}' in position {start}"
    | _ => s!"characters in position {start}-{start + run.length - 1}"
  s!"'utf-8' codec can't encode {place}: surrogates not allowed"

/-!
## Bytes as text

`decodeUtf8` reads bytes as UTF-8. Every longest run of bytes that begins a character and does not
complete it is shown as one replacement character, and so is every byte that begins none.
-/

/-- A character that is being read: how many bytes are missing, the value so far, and the limits of
the next byte. -/
structure OpenCharacter where
  missing : Nat
  value : Nat
  least : Nat
  most : Nat

/-- What a first byte means. -/
inductive FirstByte where
  | whole (c : Char)
  | opening (character : OpenCharacter)
  | invalid

/-- Reads the first byte of a character. -/
def firstByte (byte : Nat) : FirstByte :=
  if byte < 0x80 then .whole (Char.ofNat byte)
  else if byte < 0xc2 then .invalid
  else if byte < 0xe0 then .opening ⟨1, byte - 0xc0, 0x80, 0xbf⟩
  else if byte < 0xf0 then
    .opening ⟨2, byte - 0xe0, if byte = 0xe0 then 0xa0 else 0x80,
      if byte = 0xed then 0x9f else 0xbf⟩
  else if byte < 0xf5 then
    .opening ⟨3, byte - 0xf0, if byte = 0xf0 then 0x90 else 0x80,
      if byte = 0xf4 then 0x8f else 0xbf⟩
  else .invalid

/-- The sign for what is no character. -/
def replacement : Char := '\ufffd'

/-- Reads a byte where no character is open. -/
def begin (done : List Char) (byte : Nat) : List Char × Option OpenCharacter :=
  match firstByte byte with
  | .whole c => (c :: done, none)
  | .opening character => (done, some character)
  | .invalid => (replacement :: done, none)

/-- Reads a byte; the characters that are done come in reverse. -/
def takeByte : List Char × Option OpenCharacter → Nat → List Char × Option OpenCharacter
  | (done, none), byte => begin done byte
  | (done, some character), byte =>
    if character.least ≤ byte ∧ byte ≤ character.most then
      let value := character.value * 64 + (byte - 0x80)
      if character.missing = 1 then (Char.ofNat value :: done, none)
      else (done, some ⟨character.missing - 1, value, 0x80, 0xbf⟩)
    else begin (replacement :: done) byte

/-- Reads bytes as text. -/
def decodeUtf8 (bytes : List Nat) : List Char :=
  match bytes.foldl takeByte ([], none) with
  | (done, none) => done.reverse
  | (done, some _) => (replacement :: done).reverse

/-!
## Texts in wide units

Bytes may hold a text in units of one, two or four bytes. Structured text begins with an ASCII
character, so the zero bytes at its start tell the width of a unit and the order of its bytes. A
unit that is half of a surrogate pair without its partner is kept as a stand-in.
-/

/-- How bytes hold a text. -/
inductive Encoding where
  | bytes
  | pairs (highFirst : Bool)
  | quads (highFirst : Bool)
  deriving DecidableEq, Repr

/-- The encoding that the zero bytes at the start tell. -/
def Encoding.ofBytes : List UInt8 → Encoding
  | a :: b :: c :: d :: _ =>
    if a = 0 then (if b = 0 then .quads true else .pairs true)
    else if b = 0 then (if c = 0 && d = 0 then .quads false else .pairs false)
    else .bytes
  | [a, b] => if a = 0 then .pairs true else if b = 0 then .pairs false else .bytes
  | _ => .bytes

/-- Joins bytes to a unit. -/
def unitOf (highFirst : Bool) (bytes : List UInt8) : Nat :=
  (if highFirst then bytes else bytes.reverse).foldl (fun unit b => 256 * unit + b.toNat) 0

/-- The units of two bytes, if nothing is left over. -/
def pairUnits? (highFirst : Bool) : List UInt8 → Option (List Nat)
  | a :: b :: rest => (pairUnits? highFirst rest).map (unitOf highFirst [a, b] :: ·)
  | [_] => none
  | [] => some []

/-- The units of four bytes, if nothing is left over. -/
def quadUnits? (highFirst : Bool) : List UInt8 → Option (List Nat)
  | a :: b :: c :: d :: rest => (quadUnits? highFirst rest).map (unitOf highFirst [a, b, c, d] :: ·)
  | [] => some []
  | _ => none

/-- The character of a unit, if there can be one. -/
def unitChar? (unit : Nat) : Option Char :=
  if isSurrogateUnit unit then some (standIn unit)
  else if unit.isValidChar then some (Char.ofNat unit) else none

/-- The characters of units of two bytes, in which pairs of halves stand for one character. -/
def charsOfPairs : List Nat → List Char
  | high :: low :: rest =>
    if 0xd800 ≤ high ∧ high < 0xdc00 ∧ 0xdc00 ≤ low ∧ low < 0xe000 then
      Char.ofNat (0x10000 + 0x400 * (high - 0xd800) + (low - 0xdc00)) :: charsOfPairs rest
    else (unitChar? high).getD ' ' :: charsOfPairs (low :: rest)
  | [unit] => [(unitChar? unit).getD ' ']
  | [] => []

/-- Reads a structured text that was sent as the bytes of another text. -/
def resent? (s : String) : Option (List Char) :=
  let bytes := s.toUTF8.toList
  match Encoding.ofBytes bytes with
  | .bytes => some s.toList
  | .pairs highFirst => (pairUnits? highFirst bytes).map charsOfPairs
  | .quads highFirst => (quadUnits? highFirst bytes).bind fun units => units.mapM unitChar?

end Outreach.Text
