import ScriptAssist.Files.Tree
import ScriptAssist.Settings.Json
import ScriptAssist.Settings.Yaml

/-!
# Loading of settings

Settings are read from texts in one of two formats, or from files. All of these are checked
before they are handed out.
-/

namespace ScriptAssist.Settings

/-- The formats of settings. -/
inductive Format where
  | yaml
  | json
  deriving DecidableEq, Repr

namespace Format

/-- The name under which a format is written. -/
def name : Format → String
  | yaml => "yaml"
  | json => "json"

/-- The extensions of files and the formats that they stand for. -/
def extensions : List (List Char × Format) :=
  [("yaml".toList, yaml), ("yml".toList, yaml), ("json".toList, json)]

/-- The format of a file, by its extension alone. -/
def ofPath? (path : String) : Option Format :=
  (Path.extension? path.toList).bind fun extension => extensions.lookup extension

end Format

/-- Why settings are not loaded. -/
inductive LoadFault where
  | refused (flaw : Flaw)
  | unknownFormat (path : String)
  | unreadable (fault : FileFault)
  | badJson (fault : Json.Fault)
  | badYaml
  deriving DecidableEq, Repr

/-- The kinds of such faults. -/
inductive LoadFaultKind where
  | config
  | file
  | json
  | yaml
  deriving DecidableEq, Repr

/-- The kind of a fault. -/
def LoadFault.kind : LoadFault → LoadFaultKind
  | refused _ | unknownFormat _ => .config
  | unreadable _ => .file
  | badJson _ => .json
  | badYaml => .yaml

/-- The name under which a kind of fault is written. -/
def LoadFaultKind.name : LoadFaultKind → String
  | config => "ConfigError"
  | file => "IoError"
  | json => "JsonError"
  | yaml => "YamlError"

/-- The kind of a fault in words. -/
def LoadFaultKind.title : LoadFaultKind → String
  | config => "Configuration error"
  | file => "IO error"
  | json => "JSON error"
  | yaml => "YAML error"

/-- What is said about a fault behind its kind; nothing about YAML. -/
def LoadFault.detail? : LoadFault → Option String
  | refused flaw => some flaw.message
  | unknownFormat path => some s!"Unsupported configuration file extension: {path}"
  | unreadable fault => some fault.message
  | badJson fault => some fault.message
  | badYaml => none

/-- The fault in words. -/
def LoadFault.message (fault : LoadFault) : String :=
  match fault.detail? with
  | some detail => fault.kind.title ++ ": " ++ detail
  | none => fault.kind.title

/-- Reads settings from a text, without checking them. -/
def decode (format : Format) (text : String) : Except LoadFault Settings :=
  match format with
  | .yaml =>
    match ofYaml? text with
    | some s => .ok s
    | none => .error .badYaml
  | .json => (record.decoder.parse text).mapError .badJson

/-- Reads settings from a text. -/
def ofText (format : Format) (text : String) : Except LoadFault Settings :=
  match decode format text with
  | .ok s => s.check.mapError .refused
  | .error fault => .error fault

/-! ## Files

Files can be read in any way, with effects of its own; from the files of a system it is a function.
-/

section

variable {m : Type → Type} [Monad m] (readText : String → m (Except FileFault String))

/-- Loads settings from a file in a given format. Its text goes through the steps of `ofText`. -/
def loadAsWith (format : Format) (path : String) : m (Except LoadFault Settings) := do
  match ← readText path with
  | .error fault => return .error (.unreadable fault)
  | .ok text =>
    match decode format text with
    | .ok s => return s.check.mapError .refused
    | .error fault => return .error fault

/-- Loads settings from a file, in the format that its extension stands for. -/
def loadWith (path : String) : m (Except LoadFault Settings) :=
  match Format.ofPath? path with
  | some format => loadAsWith readText format path
  | none => return .error (.unknownFormat path)

/-- Loads settings from a file if one is given. -/
def loadOrDefaultWith : (path? : Option String) → m (Except LoadFault Settings)
  | some path => loadWith readText path
  | none => return .ok {}

end

/-- Loads settings from a file of a system in a given format. -/
def loadAs (format : Format) (files : FileSystem) (path : String) : Except LoadFault Settings :=
  Id.run (loadAsWith files.readText format path)

/-- Loads settings from a file of a system, in the format that its extension stands for. -/
def load (files : FileSystem) (path : String) : Except LoadFault Settings :=
  Id.run (loadWith files.readText path)

/-- Loads settings from a file of a system if one is given. -/
def loadOrDefault (files : FileSystem) (path? : Option String) : Except LoadFault Settings :=
  Id.run (loadOrDefaultWith files.readText path?)

end ScriptAssist.Settings
