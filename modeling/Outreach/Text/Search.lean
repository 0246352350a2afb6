import Outreach.Text.Encoding

/-!
# Patterns and marks

A pattern is looked for in a text, and a mark is replaced in it.
-/

namespace Outreach.Text

/-!
## Patterns

A pattern is a sequence of parts: the start and the end of the text, single code points of a class,
and runs of them. A run may stop after any of its code points, so one text can be read in several
ways. A text contains a pattern when some way of reading, from some place on, gets through all
parts. The end is behind the last code point, also when that is a line feed.
-/

/-- A part of a pattern. -/
inductive PatternPart where
  /-- The place before the first code point of the text. -/
  | start
  /-- The place behind the last code point of the text. -/
  | finish
  /-- One code point of a class. -/
  | one (allows : CodePoint → Bool)
  /-- One or more code points of a class. -/
  | run (allows : CodePoint → Bool)

/-- Parts that follow one another. -/
abbrev Pattern := List PatternPart

namespace Pattern

/-- A run of a class can be read, and behind it what comes next. -/
def readsRun (allows : CodePoint → Bool) (next : List CodePoint → Bool) : List CodePoint → Bool
  | [] => false
  | p :: rest => allows p && (next rest || readsRun allows next rest)

/-- The parts can be read one after the other at a place of the text, which may be its start. -/
def readsAt : Pattern → Bool → List CodePoint → Bool
  | [] => fun _ _ => true
  | .start :: parts => fun atStart rest => atStart && readsAt parts atStart rest
  | .finish :: parts => fun atStart rest => rest.isEmpty && readsAt parts atStart rest
  | .one allows :: parts => fun _ rest =>
    match rest with
    | [] => false
    | p :: rest => allows p && readsAt parts false rest
  | .run allows :: parts => fun _ rest => readsRun allows (readsAt parts false) rest

/-- The pattern can be read at a place behind the first code point. -/
def readsLater (parts : Pattern) : List CodePoint → Bool
  | [] => false
  | _ :: rest => parts.readsAt false rest || parts.readsLater rest

/-- The text contains the pattern. -/
def occursIn (parts : Pattern) (text : List CodePoint) : Bool :=
  parts.readsAt true text || parts.readsLater text

end Pattern

/-!
## Replacing marks in a text

`replaceAll` goes through a text from the left and puts a filling wherever the mark stands. A mark
that overlaps one already replaced does not count, and the filling is not searched again.
-/

/-- Replaces a mark in what follows the given number of characters, which are dropped. -/
def replaceFrom (mark filling : List Char) : Nat → List Char → List Char
  | _, [] => []
  | skipped + 1, _ :: rest => replaceFrom mark filling skipped rest
  | 0, c :: rest =>
    if mark.isPrefixOf (c :: rest) then
      filling ++ replaceFrom mark filling (mark.length - 1) rest
    else c :: replaceFrom mark filling 0 rest

/-- Puts a filling in place of every mark. -/
def replaceAll (mark filling text : String) : String :=
  String.ofList (replaceFrom mark.toList filling.toList 0 text.toList)

end Outreach.Text
