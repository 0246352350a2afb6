import Outreach.Text.Case
import Outreach.Url.Composed
import Outreach.Url.LabelCharacter
import Outreach.Url.Punycode

/-!
# Names of hosts outside ASCII

A name is cut into labels at its points. A label is in composed form, has no hyphen at its
ends or in its third and fourth place, begins with no mark, holds allowed characters, and does
not mix directions of writing. Some characters are allowed only between certain others. A
label outside ASCII is written in plain letters after `xn--`; a label that is written so
already must stand for a label.
-/

namespace Outreach.Url

/-- A mark that silences a vowel ends the characters before a place, which come in reverse. -/
def isSilenced (before : List Char) : Bool :=
  match before with
  | c :: _ => isWithin silencerRanges c
  | [] => false

/-- The first character that is no mark lies in one of the ranges. -/
def firstLetterIsWithin (ranges : List (Nat × Nat)) (cs : List Char) : Bool :=
  match cs.dropWhile (isWithin markRanges) with
  | c :: _ => isWithin ranges c
  | [] => false

/-- The first character lies in one of the ranges. -/
def startsWithin (ranges : List (Nat × Nat)) : List Char → Bool
  | c :: _ => isWithin ranges c
  | [] => false

/-- A character is allowed between the characters before it, in reverse, and those after it. -/
def isAllowedBetween (before : List Char) (c : Char) (after : List Char) : Bool :=
  match c with
  | '\u200c' => isSilenced before ||
      (firstLetterIsWithin forwardJoiningRanges before &&
        firstLetterIsWithin backwardJoiningRanges after)
  | '\u200d' => isSilenced before
  | '\u00b7' => before.head? = some 'l' && after.head? = some 'l'
  | '\u0375' => startsWithin greekRanges after
  | '\u05f3' | '\u05f4' => startsWithin hebrewRanges before
  | '\u30fb' => before.any (isWithin eastAsianRanges) || after.any (isWithin eastAsianRanges)
  | c =>
    if isWithin [(0x660, 0x669)] c then !(before ++ after).any (isWithin [(0x6f0, 0x6f9)])
    else if isWithin [(0x6f0, 0x6f9)] c then !(before ++ after).any (isWithin [(0x660, 0x669)])
    else isLabelCharacter c

/-- Every character is allowed after those before it, in reverse. -/
def allAllowed : List Char → List Char → Bool
  | _, [] => true
  | before, c :: after => isAllowedBetween before c after && allAllowed (c :: before) after

/-- A character that is written from right to left. -/
def isLeftward (c : Char) : Bool := isWithin leftwardRanges c

/-- A digit of the numbers that go with letters from right to left. -/
def isArabicDigit (c : Char) : Bool := isWithin [(0x660, 0x669), (0x10d30, 0x10d39)] c

/-- A digit of the numbers that go with letters of both directions. -/
def isCommonDigit (c : Char) : Bool := isWithin [(0x30, 0x39), (0x6f0, 0x6f9)] c

/-- A character that takes the direction of the letters around it. -/
def isNeutral (c : Char) : Bool :=
  isWithin [(0x2d, 0x2d), (0xb7, 0xb7), (0x2b9, 0x2ba), (0x2c6, 0x2cf), (0x2ec, 0x2ec),
    (0x375, 0x375),
    (0x200c, 0x200d), (0x2e2f, 0x2e2f), (0x30fb, 0x30fb), (0xa67f, 0xa67f), (0xa717, 0xa71f),
    (0xa788, 0xa788)] c

/-- The directions of a label agree: one with letters from right to left begins with such
a letter, holds no letter of the other direction, ends in a letter or a digit, and has
digits of one kind only. -/
def hasOneDirection (cs : List Char) : Bool :=
  if cs.any fun c => isLeftward c || isArabicDigit c then
    let isDigit (c : Char) : Bool := isArabicDigit c || isCommonDigit c
    let isMark := isWithin markRanges
    (cs.take 1).all isLeftward &&
      cs.all (fun c => isLeftward c || isDigit c || isNeutral c || isMark c) &&
      ((cs.reverse.dropWhile isMark).take 1).all (fun c => isLeftward c || isDigit c) &&
      !(cs.any isArabicDigit && cs.any isCommonDigit)
  else true

/-- Hyphens stand neither at the ends nor in the third and fourth place. -/
def hasFitHyphens (cs : List Char) : Bool :=
  (cs.drop 2).take 2 ≠ ['-', '-'] && cs.head? ≠ some '-' && cs.getLast? ≠ some '-'

/-- The longest name, with the point that may end it. -/
def longestName : Nat := 254

/-- The longest label. -/
def longestLabel : Nat := 63

/-- The characters make a label. -/
def isLabel (cs : List Char) : Bool :=
  !cs.isEmpty && cs.length ≤ longestName && isComposed cs && hasFitHyphens cs &&
    !startsWithin markRanges cs && allAllowed [] cs && hasOneDirection cs

/-- What begins a label that is written in plain letters. -/
def plainMark : List Char := ['x', 'n', '-', '-']

/-- The ASCII characters make a label, or stand for one. -/
def isPlainLabel (cs : List Char) : Bool :=
  if plainMark.isPrefixOf cs then
    let signs := cs.drop plainMark.length
    !signs.isEmpty && signs.getLast? ≠ some '-' &&
      ((Punycode.decode? signs).map isLabel).getD false
  else isLabel cs

/-- A label as it is written. -/
def writeLabel? (cs : List Char) : Option (List Char) :=
  let written := if cs.all Punycode.isPlain then cs else plainMark ++ Punycode.encode cs
  let fits := if cs.all Punycode.isPlain then isPlainLabel cs else isLabel cs
  if fits && written.length ≤ longestLabel then some written else none

/-- The points between labels. -/
def isLabelPoint (c : Char) : Bool := ['.', '\u3002', '\uff0e', '\uff61'].contains c

/-- The labels of a name; a point at the end leaves an empty one. -/
def labels : List Char → List (List Char)
  | [] => [[]]
  | c :: rest =>
    if isLabelPoint c then [] :: labels rest
    else match labels rest with
      | first :: more => (c :: first) :: more
      | [] => [[c]]

/-- A name in plain letters; it may end in a point. -/
def writeName? (name : List Char) : Option (List Char) := do
  let lowered := name.flatMap Text.smallLetters
  let parts := labels lowered
  let pointed := parts.getLast? = some []
  let written ← (if pointed then parts.dropLast else parts).mapM writeLabel?
  let whole := ['.'].intercalate (if pointed then written ++ [[]] else written)
  if lowered.length > longestName ||
      whole.length + (if pointed then 0 else 1) > longestName then none
  else some whole

end Outreach.Url
