import Outreach.Decimal.Notation
import Outreach.Text.Characters
import Outreach.Text.Encoding

/-!
# Escapes in addresses

Each part of an address has its class of plain characters. Every other character is written as its
bytes in UTF-8, each as a percent sign and two hexadecimal digits. The percent sign itself is plain
everywhere, so what is written with escapes stays as it is.
-/

namespace Outreach.Url

/-- What is wrong with an address: it is malformed, or it holds half of a surrogate pair. -/
inductive Fault where
  | malformed
  | unencodable
  deriving DecidableEq, Repr

/-- A visible character of ASCII. -/
def isVisible (c : Char) : Bool := '!' ≤ c && c ≤ '~'

/-- A plain character of a fragment. -/
def isFragmentPlain (c : Char) : Bool := isVisible c && !"\"<>`".toList.contains c

/-- A plain character of a query. -/
def isQueryPlain (c : Char) : Bool := isVisible c && !"\"#<>".toList.contains c

/-- A plain character of a path. -/
def isPathPlain (c : Char) : Bool := isQueryPlain c && !"?`\x7b\x7d".toList.contains c

/-- A plain character of a user. -/
def isUserPlain (c : Char) : Bool := isPathPlain c && !"/;=@[\\]^|".toList.contains c

/-- A plain character of a host. -/
def isHostPlain (c : Char) : Bool :=
  c.isAlphanum || "-._~!$&'()*+,;=\"`\x7b\x7d%|\\".toList.contains c

/-- The escape of a byte. -/
def escapeByte (b : UInt8) : List Char := '%' :: (Decimal.writeHex 2 b.toNat).map Char.toUpper

/-- A character as it is written. -/
def escapeChar (plain : Char → Bool) (c : Char) : List Char :=
  if plain c then [c] else (String.utf8EncodeChar c).flatMap escapeByte

/-- A text as it is written. -/
def escape (plain : Char → Bool) (cs : List Char) : Except Fault (List Char) :=
  if cs.any Text.isStandIn then .error .unencodable else .ok (cs.flatMap (escapeChar plain))

/-- A piece of a text with escapes: a plain character, or a byte. -/
inductive Piece where
  | plain (c : Char)
  | byte (b : Nat)

/-- Cuts a text into pieces; the number counts characters that belong to the piece before. -/
def pieces : Nat → List Char → List Piece
  | _, [] => []
  | skipped + 1, _ :: rest => pieces skipped rest
  | 0, c :: rest =>
    match c, rest with
    | '%', high :: low :: _ =>
      match Text.hexDigit? high, Text.hexDigit? low with
      | some h, some l => .byte (16 * h + l) :: pieces 2 rest
      | _, _ => .plain '%' :: pieces 0 rest
    | c, _ => .plain c :: pieces 0 rest

/-- Joins pieces to a text, given the bytes that wait to be read, in reverse. -/
def joinPieces : List Nat → List Piece → List Char
  | waiting, [] => Text.decodeUtf8 waiting.reverse
  | waiting, .byte b :: rest => joinPieces (b :: waiting) rest
  | waiting, .plain c :: rest => Text.decodeUtf8 waiting.reverse ++ c :: joinPieces [] rest

/-- Reads a text with escapes; bytes that are no UTF-8 become replacement characters. -/
def unescape (cs : List Char) : List Char := joinPieces [] (pieces 0 cs)

end Outreach.Url
