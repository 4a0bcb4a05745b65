import AdapterReport.Tool.Utility.Basic
import AdapterReport.Tool.Utility.Escape

/-!
# Echo

Writes its arguments with spaces between them and a line feed behind them. The shell's own `echo`
always reads escapes; the one outside of the shell does so only if it is asked to.
-/

namespace AdapterReport.Echo

/-- The escapes of the shell's own command. -/
def builtinStyle : EscapeStyle := ⟨true, false, true, false⟩

/-- The escapes of the command outside of the shell. -/
def externalStyle : EscapeStyle := ⟨true, true, true, false⟩

/-- Words with spaces between them. -/
def joined (words : List String) : String := " ".intercalate words

/-- A text with escapes and, unless one of them has ended it, with a line feed if there shall be
one. -/
def escaped (style : EscapeStyle) (lineFeed : Bool) (text : String) : String :=
  let (bytes, reason) := Escape.read style text.toList
  String.ofList (if lineFeed && reason == .complete then bytes ++ ['\n'] else bytes)

/-- What the shell's own command writes. -/
def builtinOutput : List String → String
  | "-n" :: words => escaped builtinStyle false (joined words)
  | words => escaped builtinStyle true (joined words)

/-- Whether an argument is made of options. -/
def isOption (argument : String) : Bool :=
  match argument.toList with
  | '-' :: c :: letters => (c :: letters).all ("neE".toList.contains ·)
  | _ => false

/-- Whether the options ask for escapes; the last one that says so counts. -/
def asksForEscapes (options : List String) : Bool :=
  (options.flatMap String.toList).foldl
    (fun asked c => if c == 'e' then true else if c == 'E' then false else asked) false

/-- What the command outside of the shell writes. -/
def externalOutput (arguments : List String) : String :=
  let options := arguments.takeWhile isOption
  let text := joined (arguments.dropWhile isOption)
  let lineFeed := !options.any fun o => o.toList.contains 'n'
  if asksForEscapes options then escaped externalStyle lineFeed text
  else if lineFeed then text ++ "\n" else text

/-- The command outside of the shell. -/
def utility : Utility := fun name arguments =>
  if arguments == ["--help"] || arguments == ["--version"] then .exit 0
  else Utility.finish name (Text.ByteText.toBytes (externalOutput arguments)) 0

end AdapterReport.Echo
