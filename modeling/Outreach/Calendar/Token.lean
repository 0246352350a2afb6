import Outreach.Text.Characters

/-!
# Tokens of a date

A date in free form is cut into words, numbers, blanks and single marks. A point may stand
inside a word or number, a comma once inside a number after two digits; a token with points
is cut at them unless it is a number with one point and digits behind it. A comma inside a
number counts as its point.
-/

namespace Outreach.Calendar

/-- What a token in the making is. -/
inductive TokenShape where
  | word | number | dottedWord | dottedNumber | single
  deriving DecidableEq, Repr

/-- A token in the making, its last character first. -/
structure Draft where
  shape : TokenShape
  reversed : List Char
  /-- A letter came before some other character of the token. -/
  lettered : Bool

namespace Draft

/-- A token that starts with a character; every blank is a space. -/
def start (c : Char) : Draft :=
  if c.isAlpha then ⟨.word, [c], false⟩
  else if (Text.digitValue? c).isSome then ⟨.number, [c], false⟩
  else if Text.isBlank c then ⟨.single, [' '], false⟩
  else ⟨.single, [c], false⟩

/-- The token is a word so far. -/
def isWordy (d : Draft) : Bool := d.shape = .word || d.shape = .dottedWord

/-- The shape with one more character, unless that starts another token. -/
def shapeWith? (d : Draft) (c : Char) : Option TokenShape :=
  let letter := c.isAlpha
  let digit := (Text.digitValue? c).isSome
  let afterPoint := d.reversed.head? = some '.'
  match d.shape with
  | .word => if letter then some .word else if c = '.' then some .dottedWord else none
  | .number =>
    if digit then some .number
    else if c = '.' ∨ (c = ',' ∧ d.reversed.length ≥ 2) then some .dottedNumber
    else none
  | .dottedWord =>
    if c = '.' ∨ letter then some .dottedWord
    else if digit ∧ afterPoint then some .dottedNumber
    else none
  | .dottedNumber =>
    if c = '.' ∨ digit then some .dottedNumber
    else if letter ∧ afterPoint then some .dottedWord
    else none
  | .single => none

/-- The token with one more character. -/
def extend? (d : Draft) (c : Char) : Option Draft :=
  (d.shapeWith? c).map fun shape => ⟨shape, c :: d.reversed, d.lettered || d.isWordy⟩

/-- Cuts a text at its points and commas, which become tokens of their own. -/
def cutAtPoints : List Char → List Char → List String
  | piece, [] => if piece.isEmpty then [] else [String.ofList piece.reverse]
  | piece, c :: rest =>
    if c = '.' ∨ c = ',' then
      let before := if piece.isEmpty then [] else [String.ofList piece.reverse]
      before ++ String.ofList [c] :: cutAtPoints [] rest
    else cutAtPoints (c :: piece) rest

/-- The finished token, cut at its points where it is no number with one. -/
def finish (d : Draft) (lettered : Bool) : List String :=
  let cs := d.reversed.reverse
  let points := cs.count '.'
  let dangling := d.reversed.head? = some '.' ∨ d.reversed.head? = some ','
  if d.shape ≠ .dottedWord ∧ d.shape ≠ .dottedNumber then [String.ofList cs]
  else if lettered ∨ points > 1 ∨ dangling then cutAtPoints [] cs
  else if d.shape = .dottedNumber ∧ points = 0 then
    [String.ofList (cs.map fun c => if c = ',' then '.' else c)]
  else [String.ofList cs]

end Draft

/-- The tokens of a text, from a token in the making on. -/
def tokensFrom (draft : Draft) : List Char → List String
  | [] => draft.finish draft.lettered
  | c :: rest =>
    match draft.extend? c with
    | some longer => tokensFrom longer rest
    | none => draft.finish (draft.lettered || draft.isWordy) ++ tokensFrom (.start c) rest

/-- The tokens of a text; characters without a meaning of any kind are left out. -/
def tokens (s : String) : List String :=
  match s.toList.filter (·.toNat ≠ 0) with
  | [] => []
  | c :: rest => tokensFrom (.start c) rest

end Outreach.Calendar
