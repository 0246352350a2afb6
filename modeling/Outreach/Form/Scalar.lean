import Outreach.Form.Check
import Outreach.Decimal.Literal
import Outreach.Decimal.Quantity
import Outreach.Text.Characters
import Outreach.Text.Search
import Outreach.Text.Encoding
import Outreach.Value.Compare

/-!
# Checking single values

Texts are only texts, with limits counted in characters. Numbers are also read from text: a whole
number may have a sign, blanks around it, leading zeros, single underscores inside and a fraction of
zeros; any number may be written as a decimal literal. Truth values stand for the numbers zero and
one. An address of electronic mail is a text that its pattern describes. A text with half of a
surrogate pair is read as nothing else.
-/

namespace Outreach.Form

/-- A text whose number of characters lies between two limits. -/
def textBetween (least : Nat) (most : Option Nat) : Check String := fun place value =>
  match value with
  | .text s =>
    if (most.isSome || least > 0) && Text.hasLoneSurrogate s then refuse .stringUnicode place value
    else if most.any (· < s.length) then refuse .stringTooLong place value
    else if s.length < least then refuse .stringTooShort place value
    else .valid s
  | _ => refuse .stringType place value

/-- Any text. -/
def text : Check String := textBetween 0 none

/-- A code point that may stand in either part of an address. -/
def isAddressPoint : Text.CodePoint → Bool
  | .char c => c ≠ '@' && !Text.isWhiteSpace c
  | .half _ => true

/-- The pattern of an address: a name, the sign `@`, and a domain with a point inside. The point may
also be taken for a character of the domain. -/
def addressPattern : Text.Pattern :=
  [.start, .run isAddressPoint, .one (· = .char '@'), .run isAddressPoint, .one (· = .char '.'),
    .run isAddressPoint, .finish]

/-- What keeps a text from being an address of electronic mail, which has at most 255 characters. -/
def addressProblem? (text : List Text.CodePoint) : Option ProblemKind :=
  if text.any Text.CodePoint.isHalf then some .stringUnicode
  else if 255 < text.length then some .stringTooLong
  else if addressPattern.occursIn text then none else some .stringPattern

/-- An address of electronic mail. -/
def address : Check String := fun place value =>
  match value with
  | .text s =>
    match addressProblem? (Text.codePoints s) with
    | none => .valid s
    | some kind => refuse kind place value
  | _ => refuse .stringType place value

/-- Single underscores inside a text drop out; at an end of it or in a row they spoil it. -/
def withoutUnderscores? (cs : List Char) : Option (List Char) :=
  if cs.head? = some '_' ∨ cs.getLast? = some '_' ∨ hasTwoInARow cs then none
  else some (cs.filter (· ≠ '_'))
where
  /-- Two underscores stand next to each other. -/
  hasTwoInARow : List Char → Bool
    | [] => false
    | c :: rest => (c = '_' && rest.head? = some '_') || hasTwoInARow rest

/-- Cuts off a point that zeros follow, at least one. -/
def withoutZeroFraction (cs : List Char) : List Char :=
  match cs.span (· ≠ '.') with
  | (whole, _ :: zeros) => if !zeros.isEmpty && zeros.all (· = '0') then whole else cs
  | (whole, []) => whole

/-- What follows leading zeros, among which underscores may stand: a digit or a minus sign, or the
character in front of a point. Of nothing but zeros the last character is left. -/
def afterZeros? (previous : Char) : List Char → Option (List Char)
  | [] => some [previous]
  | c :: rest =>
    if c = '0' ∨ c = '_' then afterZeros? c rest
    else if (Text.asciiDigit? c).isSome ∨ c = '-' then some (c :: rest)
    else if c = '.' then some (previous :: c :: rest)
    else none

/-- A whole number starts with a digit or a minus sign, after leading zeros. -/
def withoutLeadingZeros? : List Char → Option (List Char)
  | [] => none
  | c :: rest =>
    if c = '0' then afterZeros? c rest
    else if (Text.asciiDigit? c).isSome ∨ c = '-' then some (c :: rest)
    else none

/-- A whole number in its plain form, from a text that may be loose about it. -/
def plainWhole? (s : String) : Option (List Char) := do
  let trimmed := Text.trimBy Text.isWhiteSpace s.toList
  let unsigned ← match trimmed with
    | '+' :: '-' :: _ => none
    | '+' :: rest => some rest
    | cs => some cs
  let cs := withoutZeroFraction (← withoutLeadingZeros? unsigned)
  some ((withoutUnderscores? cs).getD cs)

/-- The most characters of a whole number, with its sign. -/
def wholeLimit : Nat := 4300

/-- Reads a whole number in its plain form: an optional minus sign, and digits of which the first is
a zero only if it is alone. A number beyond the limit is too long, whatever follows its digits. -/
def readPlainWhole (cs : List Char) : Except ProblemKind Int :=
  let (negative, digits) := match cs with
    | '-' :: rest => (true, rest)
    | cs => (false, cs)
  let (size, count, rest) := Decimal.takeDigits digits 0 0
  if digits.head? = some '0' ∧ digits.length > 1 then .error .intParsing
  else if count + (if negative then 1 else 0) > wholeLimit then .error .intParsingSize
  else if count = 0 ∨ !rest.isEmpty then .error .intParsing
  else .ok (if negative then -(size : Int) else size)

/-- Reads a whole number from text, in its plain form or in a looser one. -/
def wholeOfText (s : String) : Except ProblemKind Int :=
  match readPlainWhole s.toList with
  | .error .intParsing =>
    match plainWhole? s with
    | some cs => readPlainWhole cs
    | none => .error .intParsing
  | result => result

/-- Reads a number from text: with blanks around it, or with underscores inside. -/
def numberOfText? (s : String) : Option Float :=
  let trimmed := Decimal.Literal.read? (Text.trimBy Text.isWhiteSpace s.toList)
  let joined := (withoutUnderscores? s.toList).bind Decimal.Literal.read?
  (trimmed <|> joined).map (·.toFloat)

/-- A double as a whole number. -/
def wholeOfFloat (place : Place) (x : Float) : Checked Int :=
  match Decimal.Quantity.ofFloat x with
  | .dyadic m e =>
    if !Decimal.Quantity.isWhole (.dyadic m e) then refuse .intFromFloat place (.float x)
    else
      let i := Decimal.Quantity.truncate m e
      if -9223372036854775808 < i ∧ i < 9223372036854775807 then .valid i
      else refuse .intParsingSize place (.float x)
  | _ => refuse .finiteNumber place (.float x)

/-- A whole number. -/
def whole : Check Int := fun place value =>
  match value with
  | .int i => .valid i
  | .bool b => .valid (if b then 1 else 0)
  | .float x => wholeOfFloat place x
  | .text s =>
    if Text.hasLoneSurrogate s then refuse .stringUnicode place value
    else match wholeOfText s with
      | .ok i => .valid i
      | .error problem => refuse problem place value
  | _ => refuse .intType place value

/-- A number as a double. -/
def number : Check Float := fun place value =>
  match value with
  | .float x => .valid x
  | .bool b => .valid (if b then 1.0 else 0.0)
  | .int i => match Decimal.floatOfInt? i with
    | some x => .valid x
    | none => refuse .floatType place value
  | .text s =>
    if Text.hasLoneSurrogate s then refuse .stringUnicode place value
    else match numberOfText? s with
      | some x => .valid x
      | none => refuse .floatParsing place value
  | _ => refuse .floatType place value

/-- A whole number of at least a limit. -/
def wholeFrom (least : Int) : Check Int := fun place value =>
  (whole place value).andThen fun i =>
    if i < least then refuse .greaterThanEqual place value else .valid i

/-- A whole number between two limits. -/
def wholeBetween (least most : Int) : Check Int := fun place value =>
  (whole place value).andThen fun i =>
    if i > most then refuse .lessThanEqual place value
    else if i < least then refuse .greaterThanEqual place value
    else .valid i

/-- A number that is zero or more; an undefined number is neither. -/
def numberFromZero : Check Float := fun place value =>
  (number place value).andThen fun x =>
    if 0.0 ≤ x then .valid x else refuse .greaterThanEqual place value

/-- A number above zero. -/
def positiveNumber : Check Float := fun place value =>
  (number place value).andThen fun x =>
    if 0.0 < x then .valid x else refuse .greaterThan place value

/-- The words for true and false. -/
def boolOfWord? (word : String) : Option Bool :=
  if ["1", "on", "t", "true", "y", "yes"].contains word then some true
  else if ["0", "off", "f", "false", "n", "no"].contains word then some false
  else none

/-- Zero and one as truth values; a number beyond a word of 64 bits is of another type, and so is
the least word where it comes as a double. -/
def boolOfWhole (place : Place) (value : Value) (i : Int) : Checked Bool :=
  if i = 0 then .valid false
  else if i = 1 then .valid true
  else if -9223372036854775808 ≤ i ∧ i ≤ 9223372036854775807 then refuse .boolParsing place value
  else refuse .boolType place value

/-- A truth value. -/
def truth : Check Bool := fun place value =>
  match value with
  | .bool b => .valid b
  | .text s =>
    if Text.hasLoneSurrogate s then refuse .stringUnicode place value
    else match boolOfWord? (String.ofList (s.toList.map Char.toLower)) with
      | some b => .valid b
      | none => refuse .boolParsing place value
  | .int i => boolOfWhole place value i
  | .float x =>
    if Decimal.isWholeFloat x ∧ Decimal.truncateFloat x ≠ -9223372036854775808 then
      boolOfWhole place value (Decimal.truncateFloat x)
    else refuse .boolType place value
  | _ => refuse .boolType place value

/-- One of some words. -/
def oneOf (words : List String) : Check String := fun place value =>
  match value with
  | .text s => if words.contains s then .valid s else refuse .choice place value
  | _ => refuse .choice place value

end Outreach.Form
