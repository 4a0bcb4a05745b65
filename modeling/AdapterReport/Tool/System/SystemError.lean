import AdapterReport.FileTree

/-!
# Errors of the system

Why the system refuses what a process asks of it, and what is said about that.
-/

namespace AdapterReport

/-- Why the system refuses a request. -/
inductive SystemError where
  | noEntry
  | noProcess
  | interrupted
  | wrongFormat
  | badDescriptor
  | denied
  | exists
  | notDirectory
  | isDirectory
  | invalid
  | noSpace
  | brokenPipe
  | nameTooLong
  | tooManyLinks
  | noDevice
  deriving DecidableEq

namespace SystemError

/-- What is said about an error. -/
def message : SystemError → String
  | noEntry => "No such file or directory"
  | noProcess => "No such process"
  | interrupted => "Interrupted system call"
  | wrongFormat => "Exec format error"
  | badDescriptor => "Bad file descriptor"
  | denied => "Permission denied"
  | .exists => "File exists"
  | notDirectory => "Not a directory"
  | isDirectory => "Is a directory"
  | invalid => "Invalid argument"
  | noSpace => "No space left on device"
  | brokenPipe => "Broken pipe"
  | nameTooLong => "File name too long"
  | tooManyLinks => "Too many levels of symbolic links"
  | noDevice => "No such device or address"

/-- The error behind a path that cannot be used. -/
def ofFileError : FileError → SystemError
  | .notFound | .zeroByte => noEntry
  | .notDirectory => notDirectory
  | .isDirectory => isDirectory
  | .notLink | .notText => invalid
  | .tooManyLinks => tooManyLinks
  | .nameTooLong => nameTooLong
  | .noDevice => noDevice

end SystemError

end AdapterReport
