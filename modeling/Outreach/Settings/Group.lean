import Outreach.Form.View
import Outreach.Json.Reader
import Outreach.Text.Case

/-!
# Settings

Settings come in groups. Each setting of a group is read from the environment variable that is named
by group and setting, in any case of letters; a setting without a variable has its usual value.
Structured settings are written as JSON, and a JSON null counts as no value.
-/

namespace Outreach.Settings

/-- Environment variables in order. -/
abbrev Environment := List (String × String)

/-- The variable of a name; of several the last counts. -/
def Environment.variable? (name : String) (env : Environment) : Option String :=
  (env.reverse.find? fun entry => Text.lowered entry.1 = name).map Prod.snd

/-- A setting: how it is shown and read, its usual value, and whether it is written as JSON. -/
structure Setting where
  name : String
  form : Form.Check Value
  usual : Value
  structured : Bool

/-- A group of settings. -/
structure Group where
  name : String
  settings : List Setting

/-- Why settings cannot be had. -/
inductive SettingsFault where
  /-- The variable of a structured setting is no JSON. -/
  | unreadable (name : String)
  /-- The variable of a structured setting is nested too deeply. -/
  | tooDeep
  | invalid (problems : List Form.Problem)

/-- What an unreadable variable is reported as. -/
def unreadableMessage (name : String) : String :=
  s!"error parsing value for field \"{name}\" from source \"EnvSettingsSource\""

/-- The value of a structured variable; null is none. -/
def structuredValue? (name text : String) : Except SettingsFault (Option Value) :=
  match Json.read Json.nestingLimit text with
  | .ok .null => .ok none
  | .ok value => .ok (some value)
  | .error ⟨.nesting _, _⟩ => .error .tooDeep
  | .error _ => .error (.unreadable name)

namespace Group

/-- The value that the environment gives a setting. -/
def given (group : Group) (setting : Setting) (env : Environment) :
    Except SettingsFault (Option Value) :=
  match env.variable? (group.name ++ "_" ++ setting.name) with
  | none => .ok none
  | some text => if setting.structured then structuredValue? setting.name text
    else .ok (some (.text text))

/-- The values that the environment gives settings. -/
def givenAll (group : Group) (env : Environment) : List Setting → Except SettingsFault Fields
  | [] => .ok []
  | setting :: rest => do
    let value ← group.given setting env
    let more ← group.givenAll env rest
    .ok ((value.map fun v => (setting.name, v)).toList ++ more)

/-- What the group shows. -/
def view (group : Group) : Form.View :=
  group.settings.map fun setting => ⟨setting.name, setting.form, some setting.usual⟩

/-- Reads the group at a place. Values given directly win over the environment. -/
def read (group : Group) (place : Form.Place) (direct : Fields) (env : Environment) :
    Except SettingsFault Fields := do
  let values := Keyed.putAll (← group.givenAll env group.settings) direct
  match Form.viewEntries ⟨place, .map values, values⟩ group.view with
  | .valid fields => .ok fields
  | .invalid problems => .error (.invalid problems)

/-- Gives an entry the spelling of the setting it names. -/
def spelling (group : Group) (name : String) : String :=
  match group.settings.find? fun setting => setting.name = Text.lowered name with
  | some setting => setting.name
  | none => name

/-- Entries under the spelling of the settings they name. -/
def respelled (group : Group) (entries : Fields) : Fields :=
  Keyed.putAll [] (entries.map fun entry => (group.spelling entry.1, entry.2))

end Group

end Outreach.Settings
