import Outreach.Settings.Groups

/-!
# The settings of the application

Each group may be given as one JSON object in the variable of its name; its entries win over the
variables of single settings. A group without an object is read from the environment alone, and when
that goes wrong nothing else is reported.
-/

namespace Outreach.Settings

/-- The objects that the environment gives groups. -/
def groupObjects (env : Environment) : List Group → Except SettingsFault Fields
  | [] => .ok []
  | group :: rest => do
    let object ← match env.variable? group.name with
      | none => .ok none
      | some text => structuredValue? group.name text
    let more ← groupObjects env rest
    .ok ((object.map fun value => (group.name, value)).toList ++ more)

/-- Reads a group that is given as a value. -/
def readObject (group : Group) (value : Value) (env : Environment) :
    Except SettingsFault (Form.Checked Fields) :=
  let place := Form.Place.top.step group.name
  match value with
  | .map entries => match group.read place (group.respelled entries) env with
    | .ok settings => .ok (.valid settings)
    | .error (.invalid problems) => .ok (.invalid problems)
    | .error (.unreadable _) => .ok (Form.refuse .valueError place value)
    | .error .tooDeep => .error .tooDeep
  | value => .ok (Form.refuse .modelType place value)

/-- Reads groups in order, given the problems so far. -/
def readGroups (env : Environment) (objects : Fields) : List Group → List Form.Problem →
    Except SettingsFault (List (String × Fields))
  | [], [] => .ok []
  | [], problems => .error (.invalid problems)
  | group :: rest, problems =>
    match Keyed.get? group.name objects with
    | none => do
      let settings ← group.read .top [] env
      let more ← readGroups env objects rest problems
      .ok ((group.name, settings) :: more)
    | some value => do
      match ← readObject group value env with
      | .valid settings =>
        let more ← readGroups env objects rest problems
        .ok ((group.name, settings) :: more)
      | .invalid found => readGroups env objects rest (problems ++ found)

/-- Reads all settings. -/
def readAll (env : Environment) : Except SettingsFault (List (String × Fields)) := do
  readGroups env (← groupObjects env groups) groups []

/-- The settings that the running program takes over. -/
def wiring (settings : List (String × Fields)) : Fields :=
  let group (name : String) : Fields := (Keyed.get? name settings).getD []
  let parts :=
    ["batching", "delivery", "llm", "preview"].map fun name => (name, Value.map (group name))
  let store := Keyed.restrict ["pool_size", "max_overflow"] (group "database")
  ("database", .map (("async_url", .text (databaseUrl (group "database"))) :: store)) :: parts

end Outreach.Settings
