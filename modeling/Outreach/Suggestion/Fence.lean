import Outreach.Text.Characters

/-!
# Fenced text

A fence is a line that begins with three grave accents. Text is fenced when it stands between an
opening fence, which may be followed by the word `json` and by blanks that end in a line break, and
a closing fence on a line of its own. `fenced?` finds the first fenced text.
-/

namespace Outreach.Suggestion

/-- Three grave accents. -/
def fence : List Char := List.replicate 3 (Char.ofNat 0x60)

/-- A fence at the start of a line that follows another. -/
def closing : List Char := '\n' :: fence

/-- The text before the first closing fence. -/
def beforeClosing? : List Char → Option (List Char)
  | [] => none
  | c :: rest =>
    if closing.isPrefixOf (c :: rest) then some [] else (beforeClosing? rest).map (c :: ·)

/-- The fenced text of an opening whose blanks begin here: the last line break among the blanks that
leaves a closing fence behind it ends the opening. -/
def afterOpening? : List Char → Option (List Char)
  | [] => none
  | c :: rest =>
    if Text.isBlank c then
      afterOpening? rest <|> (if c = '\n' then beforeClosing? rest else none)
    else none

/-- The text after a given start. -/
def afterStart? (start cs : List Char) : Option (List Char) :=
  if start.isPrefixOf cs then some (cs.drop start.length) else none

/-- The fenced text of an opening that begins here. -/
def fencedHere? (cs : List Char) : Option (List Char) := do
  let rest ← afterStart? fence cs
  match afterStart? "json".toList rest with
  | some rest => afterOpening? rest
  | none => afterOpening? rest

/-- The first fenced text. -/
def fenced? : List Char → Option (List Char)
  | [] => none
  | c :: rest => fencedHere? (c :: rest) <|> fenced? rest

end Outreach.Suggestion
