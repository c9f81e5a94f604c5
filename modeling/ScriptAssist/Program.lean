import ScriptAssist.CommandLine
import ScriptAssist.Server.Run
import ScriptAssist.Settings.Loading

/-!
# Program

What the program makes of its arguments, the files that it finds and the bytes that it is given:
its output, what it says went wrong, and its exit code. The steps are the same however files are
read and the server is run, `runWith`; `run` takes them with the files of a system and all input at
once.
-/

namespace ScriptAssist.Program

/-- What the program leaves behind. -/
structure Outcome where
  exitCode : Nat
  output : List UInt8 := []
  /-- What went wrong, if the program could not do its work. -/
  report? : Option String := none
  /-- What is said about that, or about arguments that make no sense. -/
  complaint : String := ""
  deriving DecidableEq, Repr

/-- The report that there are no settings to work with. -/
def loadReport : String :=
  "Failed to load engine configuration"

/-- The report that the server was broken off. -/
def runReport : String :=
  "LSP server terminated with an error"

/-- The exit code for arguments that make no sense. -/
def misuseCode : Nat := 2

/-- The exit code behind a run that was not broken off. -/
def exitCode (s : Server) : Nat :=
  if s.exitedCleanly then 0 else 1

namespace Outcome

/-- The program could not do its work. -/
def failure (report cause : String) : Outcome where
  exitCode := 1
  report? := some report
  complaint := s!"Error: {report}\n\nCaused by:\n    {cause}"

/-- The server has stopped, or was broken off. -/
def ofRun (s : Server) (broken? : Option String) : Outcome :=
  match broken? with
  | some cause => failure runReport cause
  | none => { exitCode := Program.exitCode s }

end Outcome

/-- What the program does: `serve` runs the server. -/
def runWith {m : Type → Type} [Monad m] (readText : String → m (Except FileFault String))
    (serve : Settings → m Outcome) (args : List String) : m Outcome := do
  match CommandLine.parse args with
  | .misuse =>
    let complaint := s!"error: unexpected arguments\n\n{CommandLine.usage}"
    return { exitCode := misuseCode, complaint }
  | .showHelp => return { exitCode := 0, output := Utf8.encode CommandLine.help }
  | .showVersion => return { exitCode := 0, output := Utf8.encode CommandLine.version }
  | .serve options =>
    match ← Settings.loadOrDefaultWith readText options.config? with
    | .ok settings => serve settings
    | .error fault => return .failure loadReport fault.message

/-- The server at work. -/
def serve (settings : Settings) (input : List UInt8) : Outcome :=
  let run := Server.run { settings } {} input
  let broken? :=
    match run.result with
    | .ok () => none
    | .error fault => some fault.fault.message
  { Outcome.ofRun run.server broken? with output := run.sink.written }

/-- The program. -/
def run (args : List String) (files : FileSystem) (input : List UInt8) : Outcome :=
  Id.run (runWith files.readText (fun settings => serve settings input) args)

end ScriptAssist.Program
