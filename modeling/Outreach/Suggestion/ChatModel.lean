import Outreach.Text.Characters
import Outreach.Text.Case
import Outreach.Text.Quoted
import Outreach.Value.Literal

/-!
# Chat models

A chat model is chosen by the name of its provider, in any case of letters. No name means that there
is no model. What a model answers is shown as text without the blanks around it.
-/

namespace Outreach.Suggestion

/-- The providers of chat models. -/
inductive ModelProvider where
  | deepseek
  | ollama
  deriving DecidableEq, Repr

namespace ModelProvider

/-- The name of a provider. -/
def name : ModelProvider → String
  | .deepseek => "deepseek"
  | .ollama => "ollama"

/-- All providers by name. -/
def all : List ModelProvider := [.deepseek, .ollama]

/-- The provider of a name. -/
def ofName? (name : String) : Option ModelProvider :=
  all.find? fun provider => provider.name = Text.lowered name

end ModelProvider

/-- A chat model and how it is reached. -/
structure ChatModel where
  provider : ModelProvider
  model : String
  baseUrl : String
  temperature : Value
  apiKey : Option String

/-- The temperature of a model that names none. -/
def usualTemperature : Value := .float 0.7

/-- What is said of a name that is no provider's. -/
def unknownProvider (name : String) : String :=
  s!"Unknown LLM provider '{name}' (expected one of [" ++
    ", ".intercalate (ModelProvider.all.map fun provider => Text.quote provider.name) ++ "])"

namespace ChatModel

/-- The model of a provider's name: none without a name, and an error for a name nobody has. -/
def choose (name : Option String) (model baseUrl : String) (temperature : Value)
    (apiKey : Option String) : Except String (Option ChatModel) :=
  match name with
  | none | some "" => .ok none
  | some name => match ModelProvider.ofName? name with
    | some provider => .ok (some ⟨provider, model, baseUrl, temperature, apiKey⟩)
    | none => .error (unknownProvider name)

end ChatModel

/-- The text of what a model answered. -/
def completion (content : Value) : String := Text.trimBlanks content.display

end Outreach.Suggestion
