/-!
# Path names

A path is a text whose parts are separated by slashes. Empty parts and single dots say
nothing. The file name is the last part that says something, unless that is a double dot;
its stem ends before its last dot, unless that is the first character.
-/

namespace SmtScript.Path

/-- The texts between slashes. There is always at least one. -/
def split : List Char → List (List Char)
  | [] => [[]]
  | c :: rest =>
      if c = '/' then [] :: split rest
      else
        match split rest with
        | [] => [[c]]
        | part :: parts => (c :: part) :: parts

/-- The parts that say something. -/
def parts (path : List Char) : List (List Char) :=
  (split path).filter fun part => part ≠ [] && part ≠ ['.']

def fileName? (path : List Char) : Option (List Char) :=
  match (parts path).getLast? with
  | some ['.', '.'] => none
  | last => last

/-- What stands before the last dot, if there is a dot. -/
def beforeDot? (name : List Char) : Option (List Char) :=
  match name.reverse.dropWhile (· ≠ '.') with
  | [] => none
  | _ :: before => some before.reverse

def stem (name : List Char) : List Char :=
  match beforeDot? name with
  | none | some [] => name
  | some before => before

/-- A path from the root of the file system. -/
def isAbsolute (path : List Char) : Bool :=
  path.head? == some '/'

/-- Is the path more than one name? A leading dot counts as a part. -/
def isCompound (path : List Char) : Bool :=
  let leading := isAbsolute path || (split path).head? == some ['.']
  1 < (parts path).length + if leading then 1 else 0

/-- The parts without those at the end that say nothing. -/
def trimmed (parts : List (List Char)) : List (List Char) :=
  (parts.reverse.dropWhile fun part => part = [] || part = ['.']).reverse

/-- The text before the last part that says something. -/
def parent (path : List Char) : List Char :=
  ['/'].intercalate (trimmed (trimmed (split path)).dropLast)

/-- The parts of the directory that the path lies in. The root and the empty path lie in none. -/
def parentParts? (path : List Char) : Option (List (List Char)) :=
  if (parts path).isEmpty then none else some (parts path).dropLast

end SmtScript.Path
