import ScriptAssist.Server.Basic

/-!
# Command line

The arguments of the program are options. They are read from left to right; a faulty argument, or
the wish for help or the version, ends the reading. An option has its value in the same argument
or in the next one, and none may be given twice.
-/

namespace ScriptAssist

/-- What the options say. -/
structure Options where
  /-- Where the settings are. -/
  config? : Option String := none
  logLevel? : Option String := none
  debug : Bool := false
  deriving DecidableEq, Repr

/-- The options that take a value. -/
inductive ValueOption where
  | config
  | logLevel
  deriving DecidableEq, Repr

namespace Options

/-- Sets an option, unless it has been set or does not take the value. A path is not empty. -/
def setValue? (o : Options) (which : ValueOption) (value : String) : Option Options :=
  match which with
  | .config =>
    if o.config?.isSome || value.isEmpty then none else some { o with config? := some value }
  | .logLevel => if o.logLevel?.isSome then none else some { o with logLevel? := some value }

/-- Sets the option without value, unless it has been set. -/
def setDebug? (o : Options) : Option Options :=
  if o.debug then none else some { o with debug := true }

end Options

/-- What the arguments ask for. -/
inductive Invocation where
  | serve (options : Options)
  | showHelp
  | showVersion
  | misuse
  deriving DecidableEq, Repr

namespace CommandLine

/-- How much is reported unless the options say otherwise. -/
def defaultLogLevel : String := "info"

/-- How the program is called. -/
def usage : String :=
  s!"Usage: {Server.programName} [OPTIONS]"

/-- The help text. -/
def help : String :=
  s!"Language server offering Frappe client scripting API completions\n\n{usage}\n\n" ++
  "Options:\n" ++
  "  -c, --config <PATH>          Engine configuration file (YAML or JSON)\n" ++
  "      --log-level <LOG_LEVEL>  Log level (trace, debug, info, warn, error) " ++
  s!"[default: {defaultLogLevel}]\n" ++
  "      --debug                  Include file, line and thread details in logs\n" ++
  "  -h, --help                   Print help\n" ++
  "  -V, --version                Print version\n"

/-- The version text. -/
def version : String :=
  s!"{Server.programName} {Server.programVersion}\n"

/-- What one argument says. -/
inductive Argument where
  /-- An option, with its value if that is in the same argument. -/
  | option (which : ValueOption) (value? : Option String)
  | debug
  | help
  | version
  /-- The mark behind which there are no more options. -/
  | endOfOptions
  | unknown
  deriving DecidableEq, Repr

/-- The argument of a long option's name and the value behind its equals sign. -/
def longArgument (name : String) (value? : Option String) : Argument :=
  match name, value? with
  | "config", _ => .option .config value?
  | "log-level", _ => .option .logLevel value?
  | "debug", none => .debug
  | "help", none => .help
  | "version", none => .version
  | _, _ => .unknown

/-- The argument of a short option's letter and what stands behind it. -/
def shortArgument (letter : Char) (rest : List Char) : Argument :=
  match letter with
  | 'c' =>
    .option .config <|
      match rest with
      | [] => none
      | c :: value => some (String.ofList (if c = '=' then value else rest))
  | 'h' => .help
  | 'V' => .version
  | _ => .unknown

/-- What an argument says. -/
def Argument.ofChars : List Char → Argument
  | ['-', '-'] => .endOfOptions
  | '-' :: '-' :: rest =>
    let name := String.ofList (rest.takeWhile (· != '='))
    match rest.dropWhile (· != '=') with
    | _ :: value => longArgument name (some (String.ofList value))
    | [] => longArgument name none
  | '-' :: letter :: rest => shortArgument letter rest
  | _ => .unknown

/-- Whether an argument can be the value of the option before it: it must not look like an option
itself. A lone hyphen does not. -/
def isValue (arg : String) : Bool :=
  arg = "-" || arg.toList.head? != some '-'

/-- Goes on behind an option that has been set, if it has. -/
def orMisuse (options? : Option Options) (next : Options → Invocation) : Invocation :=
  match options? with
  | some o => next o
  | none => .misuse

/-- Reads arguments behind those that said `o`. -/
def parseFrom (o : Options) : List String → Invocation
  | [] => .serve o
  | arg :: rest =>
    match Argument.ofChars arg.toList with
    | .help => .showHelp
    | .version => .showVersion
    | .unknown => .misuse
    | .endOfOptions => if rest.isEmpty then .serve o else .misuse
    | .debug => orMisuse o.setDebug? fun o => parseFrom o rest
    | .option which (some value) =>
      orMisuse (o.setValue? which value) fun o => parseFrom o rest
    | .option which none =>
      match rest with
      | [] => .misuse
      | value :: rest =>
        if isValue value then
          orMisuse (o.setValue? which value) fun o => parseFrom o rest
        else .misuse

/-- What the arguments ask for. -/
def parse (args : List String) : Invocation :=
  parseFrom {} args

end CommandLine

end ScriptAssist
