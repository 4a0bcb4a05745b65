import AdapterReport.Json.Numeral
import AdapterReport.Logging

/-!
# Arguments

`Options.ofArguments?` reads the arguments of the command line. Short flags may stand together,
a long option takes its value behind `=` or from the next argument, and everything behind `--` is
the output file. Nothing but `--verbose` may be given twice.
-/

namespace AdapterReport

/-- What the arguments ask for. -/
structure Options where
  minimal : Bool
  json : Bool
  version : Bool
  quiet : Bool
  help : Bool
  /-- How often more log lines were asked for. -/
  verbose : Nat
  outputFile : Option String
  config : Option String
  /-- Seconds after which a tool is given up, if they are set. -/
  commandTimeout : Option Nat
  logFormat : Option LogFormat
  deriving DecidableEq

/-- Why arguments are refused. -/
inductive UsageError where
  | unknownArgument (arg : String)
  | repeated (option : String)
  | missingValue (option : String)
  | invalidValue (option value : String)
  | unexpectedValue (option : String)
  deriving DecidableEq

/-- What is said about arguments that are refused. -/
def UsageError.message : UsageError → String
  | .unknownArgument arg => "unexpected argument '" ++ arg ++ "' found"
  | .repeated option => "the argument '" ++ option ++ "' cannot be used multiple times"
  | .missingValue option => "a value is required for '--" ++ option ++ "' but none was supplied"
  | .invalidValue option value => "invalid value '" ++ value ++ "' for '--" ++ option ++ "'"
  | .unexpectedValue option => "unexpected value for '--" ++ option ++ "' found"

namespace Options

/-- What no arguments ask for. -/
def initial : Options :=
  ⟨false, false, false, false, false, 0, none, none, none, none⟩

/-- A decimal number of 64 bits, perhaps with a plus sign. -/
def uint64? (s : String) : Option Nat :=
  let digits := match s.toList with
    | '+' :: rest => rest
    | all => all
  let n := Text.natOfDigits digits
  if !digits.isEmpty && digits.all Char.isDigit && n < UInt64.size then some n else none

/-- A flag of the command line. -/
inductive Flag where
  | minimal
  | json
  | version
  | quiet
  | verbose
  | help
  deriving DecidableEq

/-- An option of the command line that has a value. -/
inductive Setting where
  | config
  | commandTimeout
  | logFormat
  deriving DecidableEq

/-- The flag of a letter. -/
def shortFlag? : Char → Option Flag
  | 'm' => some .minimal
  | 'j' => some .json
  | 'v' => some .version
  | 'q' => some .quiet
  | 'h' => some .help
  | _ => none

/-- The flag of a long name. -/
def longFlag? : String → Option Flag
  | "minimal" => some .minimal
  | "json" => some .json
  | "version" => some .version
  | "quiet" => some .quiet
  | "verbose" => some .verbose
  | "help" => some .help
  | _ => none

/-- The option of a long name. -/
def setting? : String → Option Setting
  | "config" => some .config
  | "command-timeout" => some .commandTimeout
  | "log-format" => some .logFormat
  | _ => none

/-- Takes over a flag. -/
def setFlag (o : Options) : Flag → Except UsageError Options
  | .minimal => if o.minimal then .error (.repeated "minimal") else .ok { o with minimal := true }
  | .json => if o.json then .error (.repeated "json") else .ok { o with json := true }
  | .version => if o.version then .error (.repeated "version") else .ok { o with version := true }
  | .quiet => if o.quiet then .error (.repeated "quiet") else .ok { o with quiet := true }
  | .verbose => .ok { o with verbose := o.verbose + 1 }
  | .help => .ok { o with help := true }

/-- Takes over the value of an option. -/
def setValue (o : Options) (value : String) : Setting → Except UsageError Options
  | .config =>
    if o.config.isSome then .error (.repeated "config")
    else if value.isEmpty then .error (.invalidValue "config" value)
    else .ok { o with config := some value }
  | .commandTimeout =>
    if o.commandTimeout.isSome then .error (.repeated "command-timeout")
    else match uint64? value with
      | some n => .ok { o with commandTimeout := some n }
      | none => .error (.invalidValue "command-timeout" value)
  | .logFormat =>
    if o.logFormat.isSome then .error (.repeated "log-format")
    else match LogFormat.ofProperName? value with
      | some f => .ok { o with logFormat := some f }
      | none => .error (.invalidValue "log-format" value)

/-- Takes over the output file. -/
def setOutputFile (o : Options) (path : String) : Except UsageError Options :=
  if o.outputFile.isSome then .error (.unknownArgument path)
  else .ok { o with outputFile := some path }

/-- Takes over short flags that stand together. -/
def setShortFlags (o : Options) : List Char → Except UsageError Options
  | [] => .ok o
  | c :: rest =>
    match shortFlag? c with
    | none => .error (.unknownArgument (String.ofList ['-', c]))
    | some flag =>
      if flag = .help then .ok { o with help := true }
      else (o.setFlag flag).bind fun o => o.setShortFlags rest

/-- Whether an argument can be the value of the option before it. -/
def isValue (arg : String) : Bool :=
  match arg.toList with
  | '-' :: _ :: _ => false
  | _ => true

/-- Takes over the arguments one after the other; a request for help ends them. -/
def addArguments (o : Options) : List String → Except UsageError Options
  | [] => .ok o
  | arg :: rest =>
    if o.help then .ok o
    else match arg.toList with
      | ['-', '-'] => rest.foldlM setOutputFile o
      | '-' :: '-' :: long =>
        let name := String.ofList (long.takeWhile (· != '='))
        let value := (long.dropWhile (· != '=')).tail?
        match longFlag? name, setting? name with
        | some flag, _ =>
          if value.isSome then .error (.unexpectedValue name)
          else (o.setFlag flag).bind fun o => o.addArguments rest
        | none, some setting =>
          match value with
          | some v => (o.setValue (String.ofList v) setting).bind fun o => o.addArguments rest
          | none =>
            match rest with
            | [] => .error (.missingValue name)
            | v :: rest =>
              if isValue v then (o.setValue v setting).bind fun o => o.addArguments rest
              else .error (.missingValue name)
        | none, none => .error (.unknownArgument arg)
      | '-' :: c :: short => (o.setShortFlags (c :: short)).bind fun o => o.addArguments rest
      | _ => (o.setOutputFile arg).bind fun o => o.addArguments rest

/-- Reads the arguments. The configuration file may also be given by a variable of the environment,
which must not be empty. -/
def ofArguments? (arguments : List String) (configVariable : Option String) :
    Except UsageError Options := do
  let o ← initial.addArguments arguments
  if o.help || o.config.isSome then return o
  match configVariable with
  | none => return o
  | some value => o.setValue value .config

/-- What the program says when it is asked for help. -/
def helpText : String :=
  "AMD Solarflare system report tool\n\nUsage: sfreport [OPTIONS] [OUTPUT_FILE]\n\nArguments:\n"
    ++ "  [OUTPUT_FILE]  Output file path (default: stdout)\n\nOptions:\n"
    ++ "  -m, --minimal                  Generate minimal CSV output\n"
    ++ "  -j, --json                     Generate JSON output\n"
    ++ "  -v, --version                  Show version information\n"
    ++ "      --config <CONFIG>          Report configuration file (JSON)\n"
    ++ "      --command-timeout <SECS>   Seconds before an external command is abandoned\n"
    ++ "      --verbose...               Increase log verbosity\n"
    ++ "  -q, --quiet                    Suppress all log output\n"
    ++ "      --log-format <LOG_FORMAT>  Log format on stderr\n"
    ++ "  -h, --help                     Print help\n"

end Options

end AdapterReport
