/-!
# Errors of file operations

The ways a file operation fails, each with the words the operating system gives it: a
missing path, a directory where a file was expected or the reverse, an existing path where a
new one was to be made, a directory that is not empty, a name that is too long, a device with
no room left, text that is not UTF-8, and a name holding a NUL character, which no path may
contain.
-/

namespace ScriptDeploy.Files

inductive Error where
  | notFound
  | isDirectory
  | alreadyExists
  | notDirectory
  | notEmpty
  | nameTooLong
  | permissionDenied
  | noSpace
  | invalidUtf8
  | nulInName
deriving DecidableEq, Repr, Inhabited

/-- The words for a failure, with the system's error number where it has one. -/
def Error.text : Error → String
  | .notFound => "No such file or directory (os error 2)"
  | .isDirectory => "Is a directory (os error 21)"
  | .alreadyExists => "File exists (os error 17)"
  | .notDirectory => "Not a directory (os error 20)"
  | .notEmpty => "Directory not empty (os error 39)"
  | .nameTooLong => "File name too long (os error 36)"
  | .permissionDenied => "Permission denied (os error 13)"
  | .noSpace => "No space left on device (os error 28)"
  | .invalidUtf8 => "stream did not contain valid UTF-8"
  | .nulInName => "file name contained an unexpected NUL byte"

end ScriptDeploy.Files
