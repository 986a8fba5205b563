/-!
# Directories

A file is named by a path. In a directory a name is joined to the path of the directory, and the system finds the file
at the path that results. So a name may lead out of the directory, and two names may lead to one file, as `t.csv` and
`./t.csv` do. What the system does is left open; `Directory.inTree` is a directory in a tree of directories.

Main definitions: `Directory`, `Directory.place?`, `Directory.inTree`.
-/

namespace RecordGate

/-- Why there can be no file at a path. -/
inductive PathFault where
  /-- On the way there is no directory at a place. -/
  | noDirectory (place : String)
  /-- The system has another reason. -/
  | refused (reason : String)
deriving DecidableEq

/--
A directory, and the places at which the system finds the files of paths. A file is at one place; there are no links
from one place to another.
-/
structure Directory where
  path : String
  locate : (path : String) → Except PathFault String

namespace Directory

/-- The path of a name in the directory. What begins with a slash is a path by itself. -/
def join (d : Directory) (name : String) : String :=
  if name.toList.head? = some '/' then name
  else if d.path.toList.getLast?.all (· = '/') then d.path ++ name
  else d.path ++ "/" ++ name

/-- The place of a file, by its name in the directory. -/
def place? (d : Directory) (name : String) : Except PathFault String :=
  if (d.join name).toList.contains '\x00' then .error (.refused "file name contained an unexpected NUL byte")
  else d.locate (d.join name)

/-! ## Trees -/

/-- The names in a path, from slash to slash. -/
def namesOfChars : List Char → List (List Char)
  | [] => [[]]
  | c :: cs =>
    if c = '/' then [] :: namesOfChars cs
    else
      match namesOfChars cs with
      | [] => [[c]]
      | name :: rest => (c :: name) :: rest

def namesOf (path : String) : List String := (namesOfChars path.toList).map String.ofList

/-- A directory in a tree, and the other directories; each is told by the names on the way from the root. -/
structure Tree where
  home : List String
  others : List (List String)

namespace Tree

/-- Whether a way leads to a directory. On the way home there are directories only. -/
def isDirectory (t : Tree) (way : List String) : Bool := way.isPrefixOf t.home || t.others.contains way

/-- The path that leads a way. That of the root is empty. -/
def pathOf (way : List String) : String := .ofList (way.flatMap fun name => '/' :: name.toList)

/-- What a place is called: at home by its last name. -/
def placeOf (t : Tree) (way : List String) : String :=
  if way.dropLast = t.home then way.getLast?.getD "" else pathOf way

def tooLong : PathFault := .refused "File name too long (os error 36)"

/-- Goes on from a directory by the names of a path, the last of which is that of a file. -/
def find (t : Tree) (way : List String) : List String → Except PathFault String
  | [] => .error (.refused "Is a directory (os error 21)")
  | name :: rest =>
    if name = "" ∨ name = "." then find t way rest
    else if name = ".." then find t way.dropLast rest
    else if name.utf8ByteSize > 255 then .error tooLong
    else if t.isDirectory (way ++ [name]) then find t (way ++ [name]) rest
    else if rest.isEmpty then .ok (t.placeOf (way ++ [name]))
    else .error (.noDirectory (t.placeOf (way ++ [name])))

/-- Finds the place of the file at a path. -/
def locate (t : Tree) (path : String) : Except PathFault String :=
  if path.utf8ByteSize ≥ 4096 then .error tooLong else t.find [] (namesOf path)

end Tree

/-- The directory at the end of a way, in a tree that has other directories as well. -/
def inTree (home : List String) (others : List (List String)) : Directory where
  path := Tree.pathOf home
  locate := Tree.locate ⟨home, others⟩

end Directory

end RecordGate
