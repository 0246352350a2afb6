import Outreach.Value.Literal
import Outreach.Writes.Processor

/-!
# Failures

A failure is what a caller is told when a request cannot be met: its kind decides the status, its
message is the answer, and its details name the things involved. Every failure that the program
itself makes has a function here that states its message.
-/

namespace Outreach

/-- The kinds of failures. -/
inductive FailureKind where
  | general
  | notFound
  | duplicate
  | forbidden
  | invalidRequest
  | unavailable
  | suggestionProvider
  | segmentation
  | population
  deriving DecidableEq, Repr

/-- The status of an answer that reports a failure. -/
def FailureKind.status : FailureKind → Nat
  | .general | .segmentation => 500
  | .notFound => 404
  | .duplicate => 409
  | .forbidden => 403
  | .invalidRequest => 400
  | .unavailable | .population => 503
  | .suggestionProvider => 502

/-- A failure that a caller is told. -/
structure Failure where
  kind : FailureKind
  message : String
  details : Fields

/-- Details as they are kept with a failure; nothing counts as an empty map. -/
def keptDetails (details : Value) : Value := if details.isBlank then .map [] else details

namespace Failure

/-- Something that was asked for does not exist; its identifier may be any value. -/
def absent (resource id : Value) : Failure :=
  ⟨.notFound, s!"{resource.display} {id.display} not found", [("resource", resource), ("id", id)]⟩

/-- Something that was asked for does not exist. -/
def notFound (resource id : String) : Failure := absent (.text resource) (.text id)

/-- Another customer has the address. -/
def emailTaken (email : String) : Failure :=
  ⟨.duplicate, s!"Customer with email '{email}' already exists", [("email", .text email)]⟩

/-- The creator has a segment of that name. -/
def segmentNameTaken (name creator : String) : Failure :=
  ⟨.duplicate, s!"Segment name '{name}' already exists",
    [("name", .text name), ("creator", .text creator)]⟩

/-- The campaign belongs to somebody else. -/
def notOwner (campaign creator : String) : Failure :=
  ⟨.forbidden, "Not authorized to update this campaign",
    [("id", .text campaign), ("creator", .text creator)]⟩

/-- A write was refused. -/
def refused (refusal : Writes.Refusal) : Failure :=
  ⟨.unavailable, refusal.message, refusal.details⟩

/-- The customers cannot be fetched. -/
def populationUnavailable (reason : String) : Failure :=
  ⟨.population, s!"Failed to fetch population: {reason}", []⟩

/-- Nobody can be asked for suggestions. -/
def noProvider : Failure :=
  ⟨.suggestionProvider, "No message suggestion provider configured", []⟩

/-- Everybody who was asked for suggestions failed, with what each error says. -/
def suggestionsFailed (errors : List (String × String)) : Failure :=
  ⟨.suggestionProvider, "Failed to generate message suggestions",
    errors.map fun (name, text) => (name, .text text)⟩

/-- A failure of segmentation described by any number of values. -/
def segmentation (parts : List Value) : Failure :=
  let message := match parts with
    | [] => ""
    | [part] => part.display
    | parts => "(" ++ ", ".intercalate (parts.map Value.literal) ++ ")"
  ⟨.segmentation, message, []⟩

end Failure

end Outreach
