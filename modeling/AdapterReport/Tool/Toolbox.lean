import AdapterReport.Tool.Executable
import AdapterReport.Tool.Shell.Evaluation
import AdapterReport.Tool.System.Execution

/-!
# The standard toolbox

The toolbox of a host with a shell and the standard utilities, each of which runs on a machine of
its own.
-/

namespace AdapterReport

/-- The variables that a tool finds in its environment. -/
def Toolbox.environment : List (String × String) :=
  [("PATH", "/usr/local/sbin:/usr/local/bin:/usr/sbin:/usr/bin:/sbin:/bin"), ("LC_ALL", "C"),
    ("LANG", "C")]

/-- The process that a program is, started by this command with these arguments. -/
def Toolbox.process (program : String) : Utility :=
  (Utility.named? program).getD (Shell.process environment)

/-- The toolbox of a host with a shell and the standard utilities. -/
def Toolbox.standard : Toolbox where
  start command arguments :=
    (Executable.find command).map fun program =>
      Machine.activity Executable.files
        (process program (Text.ByteText.ofText command) (arguments.map Text.ByteText.ofText))

end AdapterReport
