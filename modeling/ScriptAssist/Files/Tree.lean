import ScriptAssist.Files.Path
import ScriptAssist.Text.Cursor
import ScriptAssist.Text.Utf8

/-!
# Files

A program finds files by their paths: in its working directory, above it, or from the root
directory on. `FileSystem.readText` follows a path and reads the file at its end.
-/

namespace ScriptAssist

/-- Why a file cannot be read. -/
inductive FileFault where
  | missing
  | notADirectory
  | isADirectory
  | nameTooLong
  | zeroInPath
  | notText
  /-- Whatever else there can be, in the words of the system. -/
  | other (what : String)
  deriving DecidableEq, Repr

/-- The fault in words. -/
def FileFault.message : FileFault → String
  | missing => "No such file or directory (os error 2)"
  | notADirectory => "Not a directory (os error 20)"
  | isADirectory => "Is a directory (os error 21)"
  | nameTooLong => "File name too long (os error 36)"
  | zeroInPath => "file name contained an unexpected NUL byte"
  | notText => "stream did not contain valid UTF-8"
  | other what => what

/-- What stands in a directory under a name. -/
inductive FileEntry where
  | file (bytes : List UInt8)
  | directory
  deriving DecidableEq, Repr

/-- The files and directories in and below a directory, by the parts of their paths from there. -/
structure FileTree where
  entries : List (List (List Char) × FileEntry) := []
  deriving DecidableEq, Repr

/-- All files and directories, and the directory that a program works in. -/
structure FileSystem where
  /-- What is in and below the root directory. -/
  root : FileTree := {}
  /-- The parts of the path from the root directory to the working directory. -/
  workDir : List (List Char) := []
  deriving DecidableEq, Repr

/-- A place that a path can lead to. -/
inductive FileSpot where
  | directory (parts : List (List Char))
  | file (bytes : List UInt8)
  deriving DecidableEq, Repr

namespace FileSystem

/-- The number of bytes that a name may have. -/
def maxName : Nat := 255

/-- The number of bytes that a path may have. -/
def maxPath : Nat := 4095

/-- Whether a directory has to be there: something is in it, or it leads to the working
directory. -/
def hasDirectory (files : FileSystem) (parts : List (List Char)) : Bool :=
  parts.isPrefixOf files.workDir ||
    files.root.entries.any fun (inner, _) => parts.isPrefixOf inner

/-- What the parts of a path from the root directory name. -/
def find? (files : FileSystem) (parts : List (List Char)) : Option FileSpot :=
  match files.root.entries.lookup parts with
  | some (.file bytes) => some (.file bytes)
  | some .directory => some (.directory parts)
  | none => if files.hasDirectory parts then some (.directory parts) else none

/-- Follows one part of a path. Nothing is above the root directory but itself. -/
def step (files : FileSystem) (spot : FileSpot) (part : List Char) : Except FileFault FileSpot :=
  match spot with
  | .file _ => .error .notADirectory
  | .directory parts =>
    if part.isEmpty || part = Path.here then .ok spot
    else if part = Path.above then .ok (.directory parts.dropLast)
    else if maxName < Text.utf8Size part then .error .nameTooLong
    else
      match files.find? (parts ++ [part]) with
      | some spot => .ok spot
      | none => .error .missing

/-- Follows a path. It starts at the root directory if it begins with a slash. -/
def follow (files : FileSystem) (path : List Char) : Except FileFault FileSpot :=
  if path.contains '\x00' then .error .zeroInPath
  else if path.isEmpty then .error .missing
  else if maxPath < Text.utf8Size path then .error .nameTooLong
  else
    let start := if path.head? == some '/' then [] else files.workDir
    (Path.parts path).foldlM files.step (.directory start)

/-- The bytes of the file that a path leads to. -/
def read (files : FileSystem) (path : String) : Except FileFault (List UInt8) :=
  match files.follow path.toList with
  | .ok (.file bytes) => .ok bytes
  | .ok (.directory _) => .error .isADirectory
  | .error fault => .error fault

/-- The text of the file that a path leads to. -/
def readText (files : FileSystem) (path : String) : Except FileFault String :=
  match files.read path with
  | .ok bytes => (Utf8.decode bytes).mapError fun _ => .notText
  | .error fault => .error fault

end FileSystem

/-- The place of a working directory of which nothing else is known. -/
def FileTree.someDirectory : List (List Char) := ["work".toList]

/-- A tree in a working directory, with nothing but empty directories around it. -/
def FileTree.asWorkDir (tree : FileTree) : FileSystem where
  root.entries := tree.entries.map fun (parts, entry) => (someDirectory ++ parts, entry)
  workDir := someDirectory

instance : Coe FileTree FileSystem := ⟨FileTree.asWorkDir⟩

end ScriptAssist
