import Outreach.Text.Case
import Outreach.Value.Basic

/-!
# The context of journal entries

A journal entry shows, beside its own fields, those of the contexts it was written in. Entering a
context adds its fields; leaving it brings back the fields as they were when it was entered,
whatever was entered since. A context can be left once.
-/

namespace Outreach.Journal

/-- The levels of entries. -/
def levels : List String := ["TRACE", "DEBUG", "INFO", "SUCCESS", "WARNING", "ERROR", "CRITICAL"]

/-- The level that a word names, in any case of letters. -/
def levelOf? (word : String) : Option String := levels.find? (· = Text.capitalized word)

/-- The name that no field of a context can have. -/
def contextName : String := "self"

/-- A context that was entered: the fields from before, and whether it was left. -/
structure Entered where
  before : Fields
  left : Bool

/-- The current fields and every context entered so far. -/
structure Context where
  fields : Fields
  entered : List Entered

/-- A journal entry. -/
structure Entry where
  level : String
  message : String
  fields : Fields

/-- What can go wrong. -/
inductive ContextFault where
  | leftTwice
  | unknownLevel
  | neverEntered
  | nameTaken
  deriving DecidableEq, Repr

namespace Context

/-- No context. -/
def none : Context := ⟨[], []⟩

/-- Enters a context, unless one of its fields has the name that is taken. -/
def enter (added : Fields) (c : Context) : Except ContextFault Context :=
  if Keyed.has contextName added then .error .nameTaken
  else .ok ⟨Keyed.putAll c.fields added, c.entered ++ [⟨c.fields, false⟩]⟩

/-- Leaves the context with a given number. -/
def leave (number : Nat) (c : Context) : Except ContextFault Context :=
  match c.entered[number]? with
  | Option.none => .error .neverEntered
  | some entered =>
    if entered.left then .error .leftTwice
    else .ok ⟨entered.before, c.entered.set number { entered with left := true }⟩

/-- Writes an entry; the fields of the context win over its own. -/
def write (word message : String) (own : Fields) (c : Context) : Except ContextFault Entry :=
  if Keyed.has "level" own || Keyed.has "message" own then .error .nameTaken
  else match levelOf? word with
    | some level => .ok ⟨level, message, Keyed.putAll (Keyed.putAll c.fields own) c.fields⟩
    | Option.none => .error .unknownLevel

end Context

end Outreach.Journal
