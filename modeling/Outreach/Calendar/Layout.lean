import Outreach.Calendar.FreeForm

/-!
# Layouts of dates

The layout of a date says for each of its tokens which part of the date it spells. It is guessed
from the date that the tokens make in free form: each spelling of a part, in a fixed order,
takes the first free token that is the same text. A layout counts only if year, month and day
have their tokens, no number is left over, and writing the date in it gives the tokens back. The
text is then read anew by its layout, so that a token means what its place says and not what the
other tokens made of it.
-/

namespace Outreach.Calendar

/-- The parts of a date. -/
inductive Part where
  | year | month | day | hour | minute | second | fraction | zone | weekday | half
  deriving DecidableEq, Repr

/-- The spellings of one part. -/
inductive Spelling where
  | year | month | monthName | monthShort | day | hour | faceHour | minute | second | fraction
  | zone | zoneName | weekdayShort | weekdayName | half
  deriving DecidableEq, Repr

/-- A piece of a layout: a part in its spelling, a run of blanks, or a character
that stands for itself. -/
inductive Piece where
  | part (spelling : Spelling)
  | blanks
  | mark (c : Char)
  deriving DecidableEq, Repr

/-- A number in at least two digits. -/
def twoDigits (n : Nat) : String := Decimal.writePadded 2 n

namespace Spelling

/-- The offset of a zone as sign, hours and minutes. -/
def writeZone (offset : Int) : String :=
  let size := offset.natAbs
  (if offset < 0 then "-" else "+") ++ twoDigits (size / 3600) ++ twoDigits (size / 60 % 60)

/-- The hour on the face of a clock. -/
def onFace (hour : Nat) : Nat := if hour % 12 = 0 then 12 else hour % 12

/-- Writes one part of a date. -/
def write (t : DateTime) : Spelling → String
  | .year => toString t.date.year
  | .month => twoDigits t.date.month
  | .monthName => monthNames.getD (t.date.month - 1) ""
  | .monthShort => short (monthNames.getD (t.date.month - 1) "")
  | .day => twoDigits t.date.day
  | .hour => twoDigits t.hour
  | .faceHour => twoDigits (onFace t.hour)
  | .minute => twoDigits t.minute
  | .second => twoDigits t.second
  | .fraction => Decimal.writePadded 6 t.micro
  | .zone => (t.offset.map writeZone).getD ""
  | .zoneName =>
    if t.offset = some 0 then "UTC" else (t.offset.map ("UTC" ++ DateTime.offsetText ·)).getD ""
  | .weekdayShort => short (weekdayNames.getD t.date.weekday "")
  | .weekdayName => weekdayNames.getD t.date.weekday ""
  | .half => if t.hour < 12 then "AM" else "PM"

end Spelling

/-- Writes a piece of a layout. -/
def Piece.write (t : DateTime) : Piece → String
  | .part spelling => spelling.write t
  | .blanks => " "
  | .mark c => String.ofList [c]

/-- Writes a date in pieces. -/
def writePieces (t : DateTime) (pieces : List Piece) : String :=
  String.join (pieces.map (·.write t))

/-- A way to spell some parts of a date in one token, which may lack leading zeros. -/
structure Attempt where
  parts : List Part
  spellings : List Piece
  width : Nat

/-- An attempt at parts in a row. -/
def Attempt.of (parts : List Part) (spellings : List Spelling) (width : Nat) : Attempt :=
  ⟨parts, spellings.map .part, width⟩

/-- All attempts, in the order in which they take their tokens. -/
def attempts : List Attempt := [
  .of [.year, .month, .day, .hour, .minute, .second]
    [.year, .month, .day, .hour, .minute, .second] 0,
  .of [.year, .month, .day, .hour, .minute] [.year, .month, .day, .hour, .minute] 0,
  .of [.year, .month, .day, .hour] [.year, .month, .day, .hour] 0,
  .of [.year, .month, .day] [.year, .month, .day] 0,
  .of [.hour, .minute, .second] [.hour, .minute, .second] 0,
  .of [.hour, .minute] [.hour, .minute] 0,
  .of [.year] [.year] 0,
  .of [.hour] [.hour] 2,
  .of [.month] [.monthName] 0,
  .of [.month] [.monthShort] 0,
  .of [.month] [.month] 2,
  .of [.day] [.day] 2,
  .of [.minute] [.minute] 2,
  .of [.second] [.second] 2,
  ⟨[.second, .fraction], [.part .second, .mark '.', .part .fraction], 0⟩,
  .of [.zone] [.zone] 0,
  .of [.zone] [.zoneName] 0,
  .of [.weekday] [.weekdayShort] 0,
  .of [.weekday] [.weekdayName] 0,
  .of [.half] [.half] 0]

/-- A token of a text, and how it is spelled if that is known. -/
structure Slot where
  token : String
  pieces : Option (List Piece)

/-- A token with its leading zeros; a number with a fraction is a second with six
digits behind the point. -/
def padded (token : String) (width : Nat) : String :=
  match Numeral.read? token with
  | some number =>
    if number.fraction.isEmpty then "".pushn '0' (width - token.length) ++ token
    else
      let digits := (number.fraction ++ List.replicate 6 0).take 6
      s!"{twoDigits number.whole}.{Decimal.writePadded 6 (Numeral.ofDigits digits)}"
  | none => "".pushn '0' (width - token.length) ++ token

/-- Gives the first free token that an attempt writes to it, if there is one. -/
def Slot.take? (t : DateTime) (attempt : Attempt) : List Slot → Option (List Slot)
  | [] => none
  | slot :: rest =>
    let token := padded slot.token attempt.width
    if slot.pieces.isNone ∧ token = writePieces t attempt.spellings then
      some (⟨token, some attempt.spellings⟩ :: rest)
    else (Slot.take? t attempt rest).map (slot :: ·)

/-- Makes the attempts in turn; a part that has its token takes no other. -/
def takeAll (t : DateTime) : List Attempt → List Part → List Slot → List Part × List Slot
  | [], found, slots => (found, slots)
  | attempt :: more, found, slots =>
    if attempt.parts.any found.contains ∨ (attempt.parts = [.zone] ∧ t.offset.isNone) then
      takeAll t more found slots
    else
      match Slot.take? t attempt slots with
      | some slots => takeAll t more (attempt.parts ++ found) slots
      | none => takeAll t more found slots

/-- The tokens with the zone at their end as one token. -/
def joinZone (zone : String) (tokens : List String) : List String :=
  let isSign := fun token => token = "+" ∨ token = "-"
  let joined := match tokens.reverse with
    | "Z" :: rest => some (zone :: rest)
    | _ :: b :: rest =>
      if isSign b then some (zone :: rest)
      else
        match rest with
        | _ :: d :: rest => if isSign d then some (zone :: rest) else none
        | _ => none
    | _ => none
  (joined.map List.reverse).getD tokens

/-- The pieces of tokens: those without a spelling stand for themselves, and blanks form runs. -/
def piecesOf (slots : List Slot) : List Piece :=
  slots.flatMap fun slot =>
    slot.pieces.getD (slot.token.toList.map fun c => if Text.isBlank c then .blanks else .mark c)

/-- Runs of blanks become one piece. -/
def joinBlanks : List Piece → List Piece
  | [] => []
  | .blanks :: rest =>
    match joinBlanks rest with
    | .blanks :: more => .blanks :: more
    | more => .blanks :: more
  | piece :: rest => piece :: joinBlanks rest

/-- Where the half of the day is spelled, the first hour is that of a clock face. -/
def onClockFace (slots : List Slot) : List Slot :=
  let hour := some [Piece.part .hour]
  if slots.any (·.pieces = some [.part .half]) then
    match slots.findIdx? (·.pieces = hour) with
    | some i => slots.modify i fun slot => { slot with pieces := some [.part .faceHour] }
    | none => slots
  else slots

/-- The layout of tokens that make a date in free form. -/
def layoutOf? (t : DateTime) (tokens : List String) : Option (List Piece) :=
  let tokens := match t.offset with
    | some offset => joinZone (Spelling.writeZone offset) tokens
    | none => tokens
  let (found, slots) := takeAll t attempts [] (tokens.map (⟨·, none⟩))
  let complete := [Part.year, .month, .day].all found.contains
  let leftover := slots.any fun slot => slot.pieces.isNone && (Numeral.read? slot.token).isSome
  let pieces := piecesOf (onClockFace slots)
  if complete ∧ !leftover ∧ writePieces t pieces = String.join (slots.map (·.token)) then
    some (joinBlanks pieces)
  else none

/-- What a text says when it is read by a layout. -/
structure LayoutReading where
  stamp : Stamp
  faceHour : Option Nat := none
  afternoon : Bool := false

namespace LayoutReading

/-- The numbers of two digits in a range, or else of one, at the start of a text. -/
def takeUpTo (least most : Nat) (oneDigit : Nat) (cs : List Char) : List (Nat × List Char) :=
  let digit (c : Char) := Text.digitValue? c
  let two := match cs with
    | a :: b :: rest => do
      let n := 10 * (← digit a) + (← digit b)
      if least ≤ n ∧ n ≤ most then some (n, rest) else none
    | _ => none
  let one := match cs with
    | a :: rest => do
      let n ← digit a
      if oneDigit ≤ n then some (n, rest) else none
    | _ => none
  two.toList ++ one.toList

/-- The name at the start of a text, in any case, as its place in a list of names. -/
def takeName (names : List String) (cs : List Char) : List (Nat × List Char) :=
  let found := names.findIdx? fun name =>
    (cs.take name.length).map Char.toLower = name.toList.map Char.toLower
  (found.map fun i => (i, cs.drop (names.getD i "").length)).toList

/-- Digits of a fraction, nine at most, the longest run first. -/
def takeFractions (cs : List Char) : List (Nat × Nat × List Char) :=
  let run := (cs.take 9).takeWhile fun c => (Text.asciiDigit? c).isSome
  (List.range run.length).reverse.map fun less =>
    let digits := (run.take (less + 1)).map fun c => (Text.asciiDigit? c).getD 0
    (Numeral.ofDigits ((digits ++ List.replicate 9 0).take 9), less + 1, cs.drop (less + 1))

/-- A zone in hours and minutes with an optional colon between them, or `Z`. -/
def takeZone (cs : List Char) : List (Int × List Char) :=
  match cs with
  | 'Z' :: rest | 'z' :: rest => [(0, rest)]
  | sign :: a :: b :: rest =>
    let rest := match rest with
      | ':' :: rest => rest
      | rest => rest
    let found := do
      let hours := 10 * (← Text.digitValue? a) + (← Text.digitValue? b)
      let (minutes, rest) ← (takeUpTo 0 59 10 rest).head?
      let size : Int := hours * 3600 + minutes * 60
      if sign = '+' then some (size, rest) else if sign = '-' then some (-size, rest) else none
    found.toList
  | _ => []

/-- The ways to read one part at the start of a text, the preferred one first. -/
def take (r : LayoutReading) (cs : List Char) : Spelling → List (LayoutReading × List Char)
  | .year =>
    match Numeral.readNat? (cs.take 4) with
    | some year => if cs.length < 4 then [] else [({ r with stamp.year := year }, cs.drop 4)]
    | none => []
  | .month => (takeUpTo 1 12 1 cs).map fun (n, rest) => ({ r with stamp.month := n }, rest)
  | .monthName =>
    (takeName monthNames cs).map fun (i, rest) => ({ r with stamp.month := i + 1 }, rest)
  | .monthShort =>
    (takeName (monthNames.map short) cs).map fun (i, rest) =>
      ({ r with stamp.month := i + 1 }, rest)
  | .day =>
    let blankDay := match cs with
      | ' ' :: rest => (takeUpTo 100 0 1 rest)
      | _ => []
    (takeUpTo 1 31 1 cs ++ blankDay).map fun (n, rest) => ({ r with stamp.day := n }, rest)
  | .hour => (takeUpTo 0 23 0 cs).map fun (n, rest) => ({ r with stamp.hour := n }, rest)
  | .faceHour => (takeUpTo 1 12 1 cs).map fun (n, rest) => ({ r with faceHour := some n }, rest)
  | .minute => (takeUpTo 0 59 0 cs).map fun (n, rest) => ({ r with stamp.minute := n }, rest)
  | .second => (takeUpTo 0 61 0 cs).map fun (n, rest) => ({ r with stamp.second := n }, rest)
  | .fraction => (takeFractions cs).map fun (nanos, count, rest) =>
    ({ r with stamp.nanos := nanos, stamp.fine := count > 6 }, rest)
  | .zone => (takeZone cs).map fun (offset, rest) => ({ r with stamp.offset := offset }, rest)
  | .zoneName => (takeName ["UTC"] cs).map fun (_, rest) => (r, rest)
  | .weekdayShort => (takeName (weekdayNames.map short) cs).map fun (_, rest) => (r, rest)
  | .weekdayName => (takeName weekdayNames cs).map fun (_, rest) => (r, rest)
  | .half => (takeName ["AM", "PM"] cs).map fun (i, rest) => ({ r with afternoon := i = 1 }, rest)

/-- The first way to read a text by the pieces of a layout, and what it leaves. -/
def readPieces? (r : LayoutReading) (cs : List Char) :
    List Piece → Option (LayoutReading × List Char)
  | [] => some (r, cs)
  | .mark c :: pieces => if cs.head? = some c then readPieces? r cs.tail pieces else none
  | .blanks :: pieces =>
    let run := cs.takeWhile Text.isBlank
    (List.range run.length).reverse.findSome? fun less => readPieces? r (cs.drop (less + 1)) pieces
  | .part spelling :: pieces =>
    (r.take cs spelling).findSome? fun (r, rest) => readPieces? r rest pieces

/-- The stamp that was read; without a half of the day a clock face shows the morning. -/
def finish (r : LayoutReading) : Stamp :=
  match r.faceHour with
  | some hour => { r.stamp with hour := Notes.hourInHalf hour r.afternoon }
  | none => r.stamp

end LayoutReading

/-- Reads a whole text by a layout. -/
def readByLayout? (pieces : List Piece) (s : String) : Option Stamp :=
  match LayoutReading.readPieces? { stamp := { year := 1 } } s.toList pieces with
  | some (r, []) => some r.finish
  | _ => none

/-- Year, month, day, time of day and zone of notes that give the whole date. -/
def Notes.dateTime? (n : Notes) : Option DateTime := do
  let date ← n.date?
  let stamp ← n.stamp? false
  let zoned := n.offset.isSome || n.zoneName.isSome
  some ⟨⟨← date.year, ← date.month, ← date.day⟩, stamp.hour, stamp.minute, stamp.second,
    stamp.nanos / 1000, if zoned then some stamp.offset else none⟩

/-- Reads a text by the layout of its tokens. -/
def readGuessed? (s : String) : Option Stamp := do
  let notes ← Notes.ofText? s
  let pieces ← layoutOf? (← notes.dateTime?) (tokens s)
  readByLayout? pieces s

end Outreach.Calendar
