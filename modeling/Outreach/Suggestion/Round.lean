import Outreach.Failure
import Outreach.Form.Requests
import Outreach.Suggestion.Prompt
import Outreach.Suggestion.Variant

/-!
# Asking for suggestions

The providers are asked one after the other until one gives a usable answer. Of its
suggestions the first few are returned. When nobody gives a usable answer, the failure says
what went wrong with each.
-/

namespace Outreach.Suggestion

/-- Somebody to ask, and the answer or else what the error says. -/
structure Provider where
  name : String
  reply : Except String String

/-- The items before a limit; a negative limit counts from the end. -/
def firstOf {α : Type} (limit : Int) (items : List α) : List α :=
  if 0 ≤ limit then items.take limit.toNat else items.take (items.length - limit.natAbs)

/-- Why asking ended without suggestions. -/
inductive RoundFault where
  | failed (failure : Failure)
  | variant (fault : VariantFault)

/-- How asking went: how many providers were asked, and what came of it. -/
structure Round where
  asked : Nat
  outcome : Except RoundFault (List Variant)

/-- The usable answer of a provider, or what went wrong. -/
def Provider.suggestions (p : Provider) : Except String (List Value) :=
  match p.reply with
  | .error message => .error message
  | .ok answer => match parse answer with
    | .ok values => .ok values
    | .error fault => .error fault.message

/-- The messages that are returned of a usable answer. -/
def choose (limit : Int) (values : List Value) : Except RoundFault (List Variant) :=
  match Variant.ofValues 0 values with
  | .ok variants => .ok (firstOf limit variants)
  | .error fault => .error (.variant fault)

/-- Asks providers in order, given what went wrong with those before. -/
def askAll (limit : Int) : List Provider → List (String × String) → Round
  | [], errors => ⟨0, .error (.failed (.suggestionsFailed errors))⟩
  | p :: rest, errors =>
    match p.suggestions with
    | .ok values => ⟨1, choose limit values⟩
    | .error message =>
      let later := askAll limit rest (Keyed.put p.name message errors)
      { later with asked := later.asked + 1 }

/-- Asks providers for suggestions. -/
def ask (limit : Int) (providers : List Provider) : Round :=
  if providers.isEmpty then ⟨0, .error (.failed .noProvider)⟩ else askAll limit providers []

/-- The prompt that providers get for a request. -/
def promptFor (limit : Int) (request : Form.SuggestionRequest) : String :=
  prompt request.objective request.segment limit

/-- Suggestions as they are answered. -/
def answerValue (variants : List Variant) : Value :=
  .map [("success", .bool true), ("suggestions", .list (variants.map Variant.toValue))]

end Outreach.Suggestion
