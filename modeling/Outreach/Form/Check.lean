import Outreach.Value.Basic

/-!
# Checking input

A check reads a value as something the program works with, or names everything that is wrong with
it. A problem has a kind, the path to its place and the value found there; for a missing entry that
is the whole object. Checks of the entries of an object all run, so that one answer names all
problems in the order of the entries.
-/

namespace Outreach.Form

/-- What can be wrong with a value. -/
inductive ProblemKind where
  | missing
  | stringType
  | stringTooShort
  | stringTooLong
  | stringPattern
  | stringUnicode
  | choice
  | literal
  | floatType
  | floatParsing
  | intType
  | intParsing
  | intParsingSize
  | intFromFloat
  | finiteNumber
  | boolType
  | boolParsing
  | greaterThan
  | greaterThanEqual
  | lessThanEqual
  | listType
  | dictType
  | modelType
  | modelAttributesType
  | dateTimeType
  | dateTimeParsing
  | dateTimeFromDate
  | valueError
  | jsonInvalid
  deriving DecidableEq, Repr

/-- The word for a kind of problem. -/
def ProblemKind.word : ProblemKind → String
  | .missing => "missing"
  | .stringType => "string_type"
  | .stringTooShort => "string_too_short"
  | .stringTooLong => "string_too_long"
  | .stringPattern => "string_pattern_mismatch"
  | .stringUnicode => "string_unicode"
  | .choice => "enum"
  | .literal => "literal_error"
  | .floatType => "float_type"
  | .floatParsing => "float_parsing"
  | .intType => "int_type"
  | .intParsing => "int_parsing"
  | .intParsingSize => "int_parsing_size"
  | .intFromFloat => "int_from_float"
  | .finiteNumber => "finite_number"
  | .boolType => "bool_type"
  | .boolParsing => "bool_parsing"
  | .greaterThan => "greater_than"
  | .greaterThanEqual => "greater_than_equal"
  | .lessThanEqual => "less_than_equal"
  | .listType => "list_type"
  | .dictType => "dict_type"
  | .modelType => "model_type"
  | .modelAttributesType => "model_attributes_type"
  | .dateTimeType => "datetime_type"
  | .dateTimeParsing => "datetime_parsing"
  | .dateTimeFromDate => "datetime_from_date_parsing"
  | .valueError => "value_error"
  | .jsonInvalid => "json_invalid"

/-- One thing that is wrong, where it is and what was found there. -/
structure Problem where
  kind : ProblemKind
  path : List String
  input : Value

/-- The outcome of a check. -/
inductive Checked (α : Type) where
  | valid (value : α)
  | invalid (problems : List Problem)

namespace Checked

variable {α β : Type}

/-- Changes the value of a check that went well. -/
def map (f : α → β) : Checked α → Checked β
  | .valid value => .valid (f value)
  | .invalid problems => .invalid problems

/-- Joins two checks; the problems of both are kept in order. -/
def seq (f : Checked (α → β)) (x : Unit → Checked α) : Checked β :=
  match f, x () with
  | .valid f, .valid value => .valid (f value)
  | .valid _, .invalid problems => .invalid problems
  | .invalid problems, .valid _ => .invalid problems
  | .invalid first, .invalid second => .invalid (first ++ second)

instance : Functor Checked where
  map := Checked.map

instance : Applicative Checked where
  pure := .valid
  seq := Checked.seq

/-- The value of a check that went well. -/
def toOption : Checked α → Option α
  | .valid value => some value
  | .invalid _ => none

/-- The problems of a check. -/
def problems : Checked α → List Problem
  | .valid _ => []
  | .invalid problems => problems

/-- Goes on with a further check of the value. -/
def andThen (x : Checked α) (next : α → Checked β) : Checked β :=
  match x with
  | .valid value => next value
  | .invalid problems => .invalid problems

end Checked

/-- Where a value stands: the path to it, and how objects are asked for there. -/
structure Place where
  path : List String
  /-- Objects may be anything with named parts. -/
  attributes : Bool

namespace Place

/-- The outermost place. -/
def top : Place := ⟨[], false⟩

/-- The place of a part. -/
def step (part : String) (place : Place) : Place := { place with path := place.path ++ [part] }

/-- The problem of a value that is no object here. -/
def noObject (place : Place) : ProblemKind :=
  if place.attributes then .modelAttributesType else .modelType

end Place

/-- A check of a value at a place. -/
abbrev Check (α : Type) := Place → Value → Checked α

/-- Refuses a value. -/
def refuse {α : Type} (kind : ProblemKind) (place : Place) (value : Value) : Checked α :=
  .invalid [⟨kind, place.path, value⟩]

/-- An object whose entries are being checked. -/
structure Entries where
  place : Place
  whole : Value
  fields : Fields

/-- Checks an object. -/
def object {α : Type} (body : Entries → Checked α) : Check α := fun place value =>
  match value with
  | .map fields => body ⟨place, value, fields⟩
  | _ => refuse place.noObject place value

namespace Entries

variable {α : Type}

/-- An entry that must be there. -/
def required (entries : Entries) (name : String) (check : Check α) : Checked α :=
  match Keyed.get? name entries.fields with
  | some value => check (entries.place.step name) value
  | none => refuse .missing (entries.place.step name) entries.whole

/-- An entry with a value to fall back on. -/
def withDefault (entries : Entries) (name : String) (fallback : α) (check : Check α) : Checked α :=
  match Keyed.get? name entries.fields with
  | some value => check (entries.place.step name) value
  | none => .valid fallback

end Entries

/-- Allows null. -/
def orNull {α : Type} (check : Check α) : Check (Option α) := fun place value =>
  match value with
  | .null => .valid none
  | value => some <$> check place value

/-- An entry that may be missing or null. -/
def Entries.optional {α : Type} (entries : Entries) (name : String) (check : Check α) :
    Checked (Option α) :=
  entries.withDefault name none (orNull check)

/-- Checks the items of a list from a given index on. -/
def items {α : Type} (check : Check α) (place : Place) : Nat → List Value → Checked (List α)
  | _, [] => .valid []
  | index, value :: rest =>
    List.cons <$> check (place.step (toString index)) value <*> items check place (index + 1) rest

/-- Checks a list. -/
def list {α : Type} (check : Check α) : Check (List α) := fun place value =>
  match value with
  | .list values => items check place 0 values
  | _ => refuse .listType place value

/-- Any map, as it is. -/
def mapping : Check Fields := fun place value =>
  match value with
  | .map fields => .valid fields
  | _ => refuse .dictType place value

end Outreach.Form
