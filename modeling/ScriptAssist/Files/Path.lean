/-!
# Paths

A path is a text, and its parts are what stands between slashes.
-/

namespace ScriptAssist.Path

/-- The parts of a path, with those that are empty. -/
def parts : List Char → List (List Char)
  | [] => [[]]
  | c :: rest =>
    if c = '/' then [] :: parts rest
    else
      match parts rest with
      | part :: others => (c :: part) :: others
      | [] => [[c]]

/-- The part that stands for the directory itself. -/
def here : List Char := ['.']

/-- The part that stands for the directory around. -/
def above : List Char := ['.', '.']

/-- The last part that is a name, or leads upwards; parts that lead nowhere do not count. -/
def lastPart? (path : List Char) : Option (List Char) :=
  ((parts path).filter fun part => !part.isEmpty && part != here).getLast?

/-- The name of a file; none if the path ends by leading upwards. -/
def fileName? (path : List Char) : Option (List Char) :=
  (lastPart? path).filter (· != above)

/-- What stands behind the last dot of a name, unless that dot is its first character. -/
def extensionOfName? (name : List Char) : Option (List Char) :=
  let extension := (name.reverse.takeWhile (· != '.')).reverse
  if extension.length + 1 < name.length then some extension else none

/-- The extension of a path. -/
def extension? (path : List Char) : Option (List Char) :=
  (fileName? path).bind extensionOfName?

end ScriptAssist.Path
