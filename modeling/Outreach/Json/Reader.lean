import Outreach.Value.Basic
import Outreach.Decimal.Literal
import Outreach.Text.Encoding

/-!
# Reading JSON

`Json.read` reads a text as one JSON value. Whole numbers stay whole numbers of any size, a number
with a fraction or an exponent is a double, and the words for undefined and infinite numbers are
accepted. An entry name given twice keeps its first place and its last value. Lists and objects may
be nested up to a limit. An error has a kind and the number of characters left where it arose; from
these come the position, the line and the column.
-/

namespace Outreach.Json

/-- Why a text is no JSON. -/
inductive ErrorKind where
  | byteOrderMark
  | value
  | comma
  | colon
  | name
  | extra
  | unterminated
  | control
  | escape
  | unicodeEscape
  /-- A whole number with more digits than can be read. -/
  | digitLimit (digits : Nat)
  /-- A list, or else an object, is nested too deeply. -/
  | nesting (inList : Bool)
  deriving DecidableEq, Repr

/-- A reading error and how many characters were left at its place. -/
structure Failure where
  kind : ErrorKind
  remaining : Nat
  deriving DecidableEq, Repr

/-- The blanks of JSON. -/
def isJsonBlank (c : Char) : Bool := c = ' ' || c = '\t' || c = '\n' || c = '\r'

/-- Skips blanks. -/
def skipBlanks (cs : List Char) : List Char := cs.dropWhile isJsonBlank

/-- Fails at a place. -/
def failAt {α : Type} (kind : ErrorKind) (cs : List Char) : Except Failure α :=
  .error ⟨kind, cs.length⟩

/-- Four hexadecimal digits that do not end the text. -/
def takeHex? : List Char → Option (Nat × List Char)
  | a :: b :: c :: d :: next :: rest => do
    let w ← Text.hexDigit? a
    let x ← Text.hexDigit? b
    let y ← Text.hexDigit? c
    let z ← Text.hexDigit? d
    some (((w * 16 + x) * 16 + y) * 16 + z, next :: rest)
  | _ => none

/-- The character of a short escape. -/
def shortEscape? (c : Char) : Option Char :=
  if c = '"' ∨ c = '\\' ∨ c = '/' then some c
  else if c = 'b' then some '\x08'
  else if c = 'f' then some '\x0c'
  else if c = 'n' then some '\n'
  else if c = 'r' then some '\r'
  else if c = 't' then some '\t'
  else none

/-- The unit opens a surrogate pair. -/
def isHighSurrogate (unit : Nat) : Bool := 0xd800 ≤ unit && unit < 0xdc00

/-- The unit closes a surrogate pair. -/
def isLowSurrogate (unit : Nat) : Bool := 0xdc00 ≤ unit && unit < 0xe000

/-- The character of a code unit, or the stand-in for half of a pair. -/
def unitChar (unit : Nat) : Char :=
  if Text.isSurrogateUnit unit then Text.standIn unit else Char.ofNat unit

/-- An escape by code unit, after its `u`; two halves of a pair join into one character. -/
def readUnicodeEscape (letter : List Char) (cs : List Char) : Except Failure (Char × List Char) :=
  match takeHex? cs with
  | none => failAt .unicodeEscape letter
  | some (unit, rest) =>
    match isHighSurrogate unit, rest with
    | true, '\\' :: 'u' :: more =>
      if more.length < 5 then .ok (unitChar unit, rest)
      else match takeHex? more with
        | none => failAt .unicodeEscape ('u' :: more)
        | some (low, after) =>
          if isLowSurrogate low then
            .ok (Char.ofNat (0x10000 + (unit - 0xd800) * 0x400 + (low - 0xdc00)), after)
          else .ok (unitChar unit, rest)
    | _, _ => .ok (unitChar unit, rest)

/-- The rest of a string after its opening quote, the characters read so far in reverse. -/
def readString (opening : List Char) :
    Nat → List Char → List Char → Except Failure (String × List Char)
  | 0, _, _ => failAt .unterminated opening
  | _ + 1, _, [] => failAt .unterminated opening
  | fuel + 1, done, c :: rest =>
    if c = '"' then .ok (String.ofList done.reverse, rest)
    else if c.toNat < 0x20 then failAt .control (c :: rest)
    else if c = '\\' then
      match rest with
      | [] => failAt .unterminated opening
      | 'u' :: after => do
        let (read, rest) ← readUnicodeEscape ('u' :: after) after
        readString opening fuel (read :: done) rest
      | letter :: after =>
        match shortEscape? letter with
        | some read => readString opening fuel (read :: done) after
        | none => failAt .escape (c :: rest)
    else readString opening fuel (c :: done) rest

/-- The text after a given start, if it starts so. -/
def afterWord? : List Char → List Char → Option (List Char)
  | [], cs => some cs
  | w :: word, c :: cs => if w = c then afterWord? word cs else none
  | _ :: _, [] => none

/-- The longest run of digits and what follows it. -/
def takeDigitRun (cs : List Char) : List Char × List Char :=
  cs.span fun c => (Text.asciiDigit? c).isSome

/-- The digits before point and exponent: one zero, or digits that start with another. -/
def takeWhole? : List Char → Option (List Char × List Char)
  | '0' :: rest => some (['0'], rest)
  | cs => match takeDigitRun cs with
    | ([], _) => none
    | (digits, rest) => some (digits, rest)

/-- The fraction part, if a point with digits follows. -/
def takeFraction : List Char → List Char × List Char
  | '.' :: rest => match takeDigitRun rest with
    | ([], _) => ([], '.' :: rest)
    | (digits, after) => ('.' :: digits, after)
  | cs => ([], cs)

/-- The exponent part, if a complete one follows. -/
def takeExponent : List Char → List Char × List Char
  | [] => ([], [])
  | c :: rest =>
    if c = 'e' ∨ c = 'E' then
      let (sign, digits) := match rest with
        | '+' :: more => (['+'], more)
        | '-' :: more => (['-'], more)
        | more => ([], more)
      match takeDigitRun digits with
      | ([], _) => ([], c :: rest)
      | (run, after) => (c :: sign ++ run, after)
    else ([], c :: rest)

/-- The value of a run of digits. -/
def digitsValue (digits : List Char) : Nat :=
  digits.foldl (fun n c => 10 * n + (Text.asciiDigit? c).getD 0) 0

/-- The most digits of a whole number. -/
def digitLimit : Nat := 4300

/-- Reads a number: whole without fraction and exponent, a double with them. -/
def readNumber (cs : List Char) : Except Failure (Value × List Char) :=
  let (sign, unsigned) := match cs with
    | '-' :: rest => (['-'], rest)
    | cs => ([], cs)
  match takeWhole? unsigned with
  | none => failAt .value cs
  | some (whole, rest) =>
    let (fraction, rest) := takeFraction rest
    let (exponent, rest) := takeExponent rest
    if fraction.isEmpty && exponent.isEmpty then
      if whole.length > digitLimit then failAt (.digitLimit whole.length) cs
      else
        let size : Int := digitsValue whole
        .ok (.int (if sign.isEmpty then size else -size), rest)
    else match Decimal.Literal.read? (sign ++ whole ++ fraction ++ exponent) with
      | some read => .ok (.float read.toFloat, rest)
      | none => failAt .value cs

/-- Reads a word or a number. -/
def readScalar (cs : List Char) : Except Failure (Value × List Char) :=
  let words : List (String × Value) :=
    [("null", .null), ("true", .bool true), ("false", .bool false), ("NaN", .float (0.0 / 0.0)),
      ("Infinity", .float (1.0 / 0.0)), ("-Infinity", .float (-1.0 / 0.0))]
  match words.findSome? fun (word, value) => (afterWord? word.toList cs).map (value, ·) with
  | some found => .ok found
  | none => readNumber cs

mutual

/-- Reads a value; the fuel bounds its length, and the levels how deeply it may be nested. -/
def readValue : Nat → Nat → List Char → Except Failure (Value × List Char)
  | 0, _, cs => failAt .value cs
  | _ + 1, _, '"' :: rest => do
    let (s, rest) ← readString ('"' :: rest) (rest.length + 1) [] rest
    .ok (.text s, rest)
  | _ + 1, 0, '[' :: rest => failAt (.nesting true) ('[' :: rest)
  | fuel + 1, levels + 1, '[' :: rest =>
    match skipBlanks rest with
    | ']' :: after => .ok (.list [], after)
    | rest => do
      let (items, rest) ← readItems fuel levels rest
      .ok (.list items, rest)
  | _ + 1, 0, '\x7b' :: rest => failAt (.nesting false) ('\x7b' :: rest)
  | fuel + 1, levels + 1, '\x7b' :: rest =>
    match skipBlanks rest with
    | '\x7d' :: after => .ok (.map [], after)
    | rest => do
      let (fields, rest) ← readEntries fuel levels [] rest
      .ok (.map fields, rest)
  | _ + 1, _, cs => readScalar cs

/-- Reads the items of a list up to its closing bracket. -/
def readItems : Nat → Nat → List Char → Except Failure (List Value × List Char)
  | 0, _, cs => failAt .value cs
  | fuel + 1, levels, cs => do
    let (item, rest) ← readValue fuel levels cs
    match skipBlanks rest with
    | ']' :: after => .ok ([item], after)
    | ',' :: after =>
      let (items, rest) ← readItems fuel levels (skipBlanks after)
      .ok (item :: items, rest)
    | rest => failAt .comma rest

/-- Reads the entries of an object up to its closing brace. -/
def readEntries : Nat → Nat → Fields → List Char → Except Failure (Fields × List Char)
  | 0, _, _, cs => failAt .value cs
  | fuel + 1, levels, done, '"' :: rest => do
    let (name, rest) ← readString ('"' :: rest) (rest.length + 1) [] rest
    match skipBlanks rest with
    | ':' :: after =>
      let (value, rest) ← readValue fuel levels (skipBlanks after)
      let done := Keyed.put name value done
      match skipBlanks rest with
      | '\x7d' :: after => .ok (done, after)
      | ',' :: after => readEntries fuel levels done (skipBlanks after)
      | rest => failAt .comma rest
    | rest => failAt .colon rest
  | _ + 1, _, _, cs => failAt .name cs

end

/-- How many levels of nested lists and objects there is room for. Reading takes the number of
levels, since it depends on what is going on around it. -/
def nestingLimit : Nat := 990

/-- Reads a whole text as one value with at most so many levels, blanks around it allowed. -/
def readNested (levels : Nat) (cs : List Char) : Except Failure Value := do
  let start := skipBlanks cs
  let (value, rest) ← readValue (2 * cs.length + 2) levels start
  match skipBlanks rest with
  | [] => .ok value
  | rest => failAt .extra rest

/-- Reads a text as one value; a byte order mark in front is refused. -/
def readMarked (levels : Nat) (cs : List Char) : Except Failure Value :=
  match cs with
  | '\ufeff' :: _ => failAt .byteOrderMark cs
  | cs => readNested levels cs

/-- Reads a text as one value with at most so many levels. -/
def read (levels : Nat) (s : String) : Except Failure Value := readMarked levels s.toList

/-- How many characters stand before the place of an error. -/
def Failure.position (failure : Failure) (text : List Char) : Nat := text.length - failure.remaining

/-- What a kind of error says. -/
def ErrorKind.summary : ErrorKind → String
  | .byteOrderMark => "Unexpected UTF-8 BOM (decode using utf-8-sig)"
  | .value => "Expecting value"
  | .comma => "Expecting ',' delimiter"
  | .colon => "Expecting ':' delimiter"
  | .name => "Expecting property name enclosed in double quotes"
  | .extra => "Extra data"
  | .unterminated => "Unterminated string starting at"
  | .control => "Invalid control character at"
  | .escape => "Invalid \\escape"
  | .unicodeEscape => "Invalid \\uXXXX escape"
  | .nesting inList =>
    "maximum recursion depth exceeded while decoding a JSON " ++
      (if inList then "array" else "object") ++ " from a unicode string"
  | .digitLimit digits =>
    "Exceeds the limit (4300 digits) for integer string conversion: " ++
      s!"value has {digits} digits; use sys.set_int_max_str_digits() to increase the limit"

/-- An error with line and column, counted from one, and the character position from zero. -/
def Failure.message (failure : Failure) (text : List Char) : String :=
  match failure.kind with
  | .digitLimit _ | .nesting _ => failure.kind.summary
  | kind =>
    let position := failure.position text
    let before := text.take position
    let line := before.count '\n' + 1
    let column := (before.reverse.takeWhile (· ≠ '\n')).length + 1
    s!"{kind.summary}: line {line} column {column} (char {position})"

end Outreach.Json
