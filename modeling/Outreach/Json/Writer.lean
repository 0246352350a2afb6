import Outreach.Text.Encoding
import Outreach.Value.Literal

/-!
# Writing JSON

`Json.write?` writes a value as JSON in ASCII: one blank after each comma and colon, entries in
their order, every character outside printable ASCII as an escape of its UTF-16 units. Times and
dates have no JSON form, and a whole number may be too long to be written out, so a value that holds
one of them is refused with the kind it met first.
-/

namespace Outreach.Json

/-- The kind of value that has no JSON form. -/
inductive Unwritable where
  | time
  | date
  /-- A whole number with more digits than may be written out. -/
  | longNumber
  deriving DecidableEq, Repr

/-- How a kind without JSON form is reported. -/
def Unwritable.message : Unwritable → String
  | .time => "Object of type datetime is not JSON serializable"
  | .date => "Object of type date is not JSON serializable"
  | .longNumber => Value.digitLimitMessage

/-- One character inside an ASCII string. -/
def escapeAscii (c : Char) : List Char :=
  if c = '"' then ['\\', '"']
  else if c = '\\' then ['\\', '\\']
  else if c = '\n' then ['\\', 'n']
  else if c = '\r' then ['\\', 'r']
  else if c = '\t' then ['\\', 't']
  else if c = '\x08' then ['\\', 'b']
  else if c = '\x0c' then ['\\', 'f']
  else if 0x20 ≤ c.toNat ∧ c.toNat ≤ 0x7e then [c]
  else if c.toNat < 0x10000 then Text.unitEscape c.toNat
  else
    let offset := c.toNat - 0x10000
    match Text.standInUnit? c with
    | some unit => Text.unitEscape unit
    | none => Text.unitEscape (0xd800 + offset / 0x400) ++ Text.unitEscape (0xdc00 + offset % 0x400)

/-- A text as a JSON string in ASCII. -/
def writeString (s : String) : String :=
  "\"" ++ String.ofList (s.toList.flatMap escapeAscii) ++ "\""

mutual

/-- The JSON form of a value. -/
def write? : Value → Except Unwritable String
  | .null => .ok "null"
  | .bool b => .ok (if b then "true" else "false")
  | .int i =>
    if Value.withinDigitLimit i then .ok (Decimal.writeInt i) else .error .longNumber
  | .float x => .ok (Decimal.json.write x)
  | .text s => .ok (writeString s)
  | .time _ => .error .time
  | .date _ => .error .date
  | .list items => do .ok ("[" ++ ", ".intercalate (← writeItems? items) ++ "]")
  | .map fields => do .ok ("\x7b" ++ ", ".intercalate (← writeEntries? fields) ++ "\x7d")

/-- The JSON forms of list items. -/
def writeItems? : List Value → Except Unwritable (List String)
  | [] => .ok []
  | item :: rest => do .ok ((← write? item) :: (← writeItems? rest))

/-- The JSON forms of map entries. -/
def writeEntries? : List (String × Value) → Except Unwritable (List String)
  | [] => .ok []
  | (name, value) :: rest => do
    .ok ((writeString name ++ ": " ++ (← write? value)) :: (← writeEntries? rest))

end

end Outreach.Json
