import Outreach.Url.Basic

/-!
# Targets of requests

A target has a path and a query. It is an address; where that is relative, it is put on the address
of the application. The path is read without escapes and cut at its slashes. The query is a list of
named texts, where a plus stands for a blank.
-/

namespace Outreach.Http

/-- A path and the named texts of the query. -/
structure Target where
  path : List Char
  query : List (String × String)

/-- A name and a text of a query. -/
def readPair (cs : List Char) : String × String :=
  let blank (c : Char) : Char := if c = '+' then ' ' else c
  let name := cs.takeWhile (· ≠ '=')
  let rest := (cs.dropWhile (· ≠ '=')).drop 1
  (String.ofList (Url.unescape (name.map blank)), String.ofList (Url.unescape (rest.map blank)))

/-- The named texts of a query. -/
def readQuery (cs : List Char) : List (String × String) :=
  ((Url.cutAt '&' cs).filter fun part => !part.isEmpty).map readPair

/-- The address of the application. -/
def home : Url := ⟨"http".toList, [], "test".toList, none, [], none, none⟩

/-- The target that an address stands for; no path is the path of one slash. -/
def Target.ofUrl (url : Url) : Target :=
  ⟨if url.path.isEmpty then ['/'] else Url.unescape url.path, readQuery (url.query.getD [])⟩

/-- Reads a target. -/
def Target.read (s : String) : Except Url.Fault Target := (Url.readOn home s).map Target.ofUrl

namespace Target

/-- The last text of a name in the query. -/
def parameter? (name : String) (target : Target) : Option String :=
  (target.query.reverse.find? fun pair => pair.1 = name).map Prod.snd

/-- The steps of a path that begins with a slash; the bare slash has none. -/
def stepsOf? (path : List Char) : Option (List String) :=
  match path with
  | '/' :: [] => some []
  | '/' :: rest => some ((Url.cutAt '/' rest).map String.ofList)
  | _ => none

/-- The steps of the path. -/
def steps? (target : Target) : Option (List String) := stepsOf? target.path

/-- The steps of the path without the slashes at its end, if it ends in one. -/
def stepsWithoutSlash? (target : Target) : Option (List String) :=
  match target.path.reverse with
  | '/' :: rest =>
    match (rest.dropWhile (· = '/')).reverse with
    | [] => none
    | path => stepsOf? path
  | _ => none

end Target

end Outreach.Http
